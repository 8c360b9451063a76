/-!
# Unsigned decimal numbers in settings

Whole numbers as they are written in environment variables: digits of ASCII with an optional plus
sign, up to a limit that the setting lays down. The first fault from the left is the one reported.
-/

namespace RequestScope.Text

/-- The greatest number of the given number of binary digits. -/
def maxOfBits (bits : Nat) : Nat := Nat.pow 2 bits - 1

/-- Why a text is not an unsigned number of the wanted width. -/
inductive NumberFault
  | empty
  | invalidDigit
  | tooLarge
deriving Repr, DecidableEq

def NumberFault.message : NumberFault → String
  | .empty => "cannot parse integer from empty string"
  | .invalidDigit => "invalid digit found in string"
  | .tooLarge => "number too large to fit in target type"

/-- The number that the digits continue, given the value of those already read. -/
def unsignedFrom (limit : Nat) : List Char → Nat → Except NumberFault Nat
  | [], value => .ok value
  | c :: rest, value =>
    if !c.isDigit then .error .invalidDigit
    else
      let next := value * 10 + (c.toNat - '0'.toNat)
      if limit < next then .error .tooLarge else unsignedFrom limit rest next

/-- The number from 0 to `limit` that the text spells. A lone sign is a wrong digit. -/
def parseUnsigned (limit : Nat) (s : String) : Except NumberFault Nat :=
  match s.toList with
  | [] => .error .empty
  | ['+'] => .error .invalidDigit
  | '+' :: digits => unsignedFrom limit digits 0
  | digits => unsignedFrom limit digits 0

end RequestScope.Text
