import RequestScope.Json.Numeral
import RequestScope.Json.Structure

/-!
# Passing over values

A member that nobody asked for is passed over. The scanner checks the grammar but neither the range
of numbers nor the meaning of escapes, and it keeps the open brackets on a stack of its own, so that
no depth of nesting is too much for it.
-/

namespace RequestScope.Json

inductive Bracket
  | list
  | object
deriving Repr, DecidableEq

def Bracket.closer : Bracket → UInt8
  | .list => 0x5d
  | .object => 0x7d

/-- What is wrong when a text ends inside a bracket. -/
def Bracket.unclosed : Bracket → Malformed
  | .list => .endOfList
  | .object => .endOfObject

/-- What is wrong with an octet where the bracket should go on or close. -/
def Bracket.unexpected : Bracket → Malformed
  | .list => .expectedCommaOrBracket
  | .object => .expectedCommaOrBrace

/-- How far the scanner of a string is in an escape. -/
inductive SkipState
  | plain
  | escape
  | hex (seen : List UInt8)
deriving Repr, DecidableEq

/-- Passes the inside of a string from a place on, up to and with the closing quote. A raw control
is not taken. -/
def skipOctetsFrom : List UInt8 → Position → SkipState → Except Fault Cursor
  | [], p, _ => .error ⟨.malformed .endOfString, p⟩
  | b :: rest, p, .plain =>
    if b == 0x22 then .ok ⟨rest, p.after b⟩
    else if b == 0x5c then skipOctetsFrom rest (p.after b) .escape
    else if b < 0x20 then .error ⟨.malformed .controlCharacter, p⟩
    else skipOctetsFrom rest (p.after b) .plain
  | b :: rest, p, .escape =>
    if b == 0x75 then skipOctetsFrom rest (p.after b) (.hex [])
    else if (shortEscape? b).isSome then skipOctetsFrom rest (p.after b) .plain
    else .error ⟨.malformed .invalidEscape, p.after b⟩
  | b :: rest, p, .hex seen =>
    if seen.length < 3 then skipOctetsFrom rest (p.after b) (.hex (b :: seen))
    else if (hexNumber? (b :: seen)).isSome then skipOctetsFrom rest (p.after b) .plain
    else .error ⟨.malformed .invalidEscape, p.after b⟩

namespace Cursor

/-- Passes a string behind its opening quote. -/
def skipString (c : Cursor) : Except Fault Cursor := skipOctetsFrom c.rest c.position .plain

/-- Passes digits, of which there must be one. -/
def skipSomeDigits (c : Cursor) (fault : Fault) : Except Fault Cursor :=
  if c.sees isDigit then .ok c.skipDigits else .error fault

/-- Passes an exponent from its letter on, if there is one. -/
def skipExponent (c : Cursor) : Except Fault Cursor :=
  if c.sees isExponentMark then
    let c := c.next.exponentSign.2
    c.skipSomeDigits (c.next.here .invalidNumber)
  else .ok c

def skipNumber (c : Cursor) : Except Fault Cursor := do
  if !c.sees isDigit then throw (c.next.here .invalidNumber)
  let zero := c.sees (· == 0x30)
  if zero && c.next.sees isDigit then throw (c.next.ahead .invalidNumber)
  let c := if zero then c.next else c.skipDigits
  if c.sees (· == 0x2e) then
    let c := c.next
    (← c.skipSomeDigits (c.ahead .invalidNumber)).skipExponent
  else c.skipExponent

/-- Passes a name and its colon. -/
def skipName (c : Cursor) : Except Fault Cursor := do
  let c := c.skipSpace
  match c.peek? with
  | none => throw (c.ahead .endOfObject)
  | some b => if b == 0x22 then (← c.next.skipString).colon else throw (c.ahead .nameNotString)

/-- What the scanner does next: pass a value, look for the first part of a bracket, or go on behind
a value. -/
inductive SkipTask
  | value
  | opened
  | behind

/-- Passes the beginning of a value: all of a scalar, or an opening bracket. -/
def skipValueStart (c : Cursor) (b : UInt8) : Except Fault (Option Bracket × Cursor) := do
  if b == 0x5b then return (some .list, c.next)
  else if b == 0x7b then return (some .object, c.next)
  else if b == 0x22 then return (none, ← c.next.skipString)
  else if b == 0x6e then return (none, ← c.next.readWord nullTail)
  else if b == 0x74 then return (none, ← c.next.readWord trueTail)
  else if b == 0x66 then return (none, ← c.next.readWord falseTail)
  else if b == 0x2d then return (none, ← c.next.skipNumber)
  else if isDigit b then return (none, ← c.skipNumber)
  else throw (c.ahead .expectedValue)

/-- Moves to the value of the next part of a bracket. -/
def skipPartStart (bracket : Bracket) (c : Cursor) : Except Fault Cursor :=
  match bracket with
  | .list => .ok c
  | .object => c.skipName

/-- Carries out tasks inside the open brackets. Every second one at the latest takes an octet. -/
def skipFrom : Nat → SkipTask → List Bracket → Cursor → Except Fault Cursor
  | 0, _, _, c => .error (c.here .endOfValue)
  | fuel + 1, .value, open_, c => do
    let c := c.skipSpace
    match c.peek? with
    | none => throw (c.ahead .endOfValue)
    | some b =>
      match ← c.skipValueStart b with
      | (none, c) => skipFrom fuel .behind open_ c
      | (some bracket, c) => skipFrom fuel .opened (bracket :: open_) c
  | _ + 1, _, [], c => .ok c
  | fuel + 1, .opened, bracket :: outer, c => do
    let c := c.skipSpace
    match c.peek? with
    | none => throw (c.ahead bracket.unclosed)
    | some b =>
      if b == bracket.closer then skipFrom fuel .behind outer c.next
      else skipFrom fuel .value (bracket :: outer) (← c.skipPartStart bracket)
  | fuel + 1, .behind, bracket :: outer, c => do
    let c := c.skipSpace
    match c.peek? with
    | none => throw (c.ahead bracket.unclosed)
    | some b =>
      if b == bracket.closer then skipFrom fuel .behind outer c.next
      else if b == 0x2c then skipFrom fuel .value (bracket :: outer) (← c.next.skipPartStart bracket)
      else throw (c.ahead bracket.unexpected)

/-- Passes a value of any depth, in a text of at most `length` octets. -/
def skipValue (length : Nat) (c : Cursor) : Except Fault Cursor :=
  skipFrom (2 * length + 2) .value [] c

end Cursor

end RequestScope.Json
