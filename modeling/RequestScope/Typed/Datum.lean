import RequestScope.Json.Fault
import RequestScope.Json.Value
import RequestScope.Text.Unsigned

/-!
# Data

What a typed value presents of itself when it is written as JSON. Not all data have a JSON value: an
integer may be too large, a map may have keys that are no texts, and a value may refuse to be
written. The first such part decides.
-/

namespace RequestScope

/-- A key of a map, as far as it can become a text. -/
inductive Datum.Key
  | text (s : String)
  | int (n : Int)
  | bool (b : Bool)
  | unsupported
deriving Repr, DecidableEq

/-- A value as it presents itself. -/
inductive Datum
  | null
  | bool (b : Bool)
  | int (n : Int)
  | double (x : Number.Double)
  | text (s : String)
  | sequence (items : List Datum)
  | map (entries : List (Datum.Key × Datum))
  | json (value : Json)
  | failing (reason : String)

inductive Datum.Fault
  | numberOutOfRange
  | keyNotText
  | failed (reason : String)
deriving Repr, DecidableEq

namespace Datum

/-- Splits a number of 64 bits and the words in front of it off the end of a text, which is given in
reverse. -/
def splitNumber? (words : String) (reversed : List Char) : Option (Nat × List Char) := do
  let digits := String.ofList (reversed.takeWhile Char.isDigit).reverse
  let number ← (Text.parseUnsigned (Text.maxOfBits 64) digits).toOption
  let rest ← words.toList.reverse.isPrefixOf? (reversed.dropWhile Char.isDigit)
  return (number, rest)

/-- Splits a place off the end of a text. -/
def splitPlace? (reason : String) : Option (String × Json.Position) := do
  let (column, rest) ← splitNumber? " column " reason.toList.reverse
  let (line, rest) ← splitNumber? " at line " rest
  return (String.ofList rest.reverse, ⟨line, column⟩)

/-- The wording of a fault. A place at the end of a reason is written like other places, and one on
no line at all is left out. -/
def Fault.message : Fault → String
  | .numberOutOfRange => "number out of range"
  | .keyNotText => "key must be a string"
  | .failed reason =>
    match splitPlace? reason with
    | none => reason
    | some (before, place) => if place.line = 0 then before else before ++ place.describe

def Key.render : Key → Except Fault String
  | .text s => .ok s
  | .int n => .ok (toString n)
  | .bool true => .ok "true"
  | .bool false => .ok "false"
  | .unsupported => .error .keyNotText

def intToJson (n : Int) : Except Fault Json :=
  if Json.minInt ≤ n ∧ n ≤ Json.maxInt then .ok (.ofInt n) else .error .numberOutOfRange

/-- The number of a double; what is not finite has none and becomes null. -/
def doubleToJson (x : Number.Double) : Json := if x.isFinite then .number (.double x) else .null

mutual

def toJson : Datum → Except Fault Json
  | .null => .ok .null
  | .bool b => .ok (.bool b)
  | .int n => intToJson n
  | .double x => .ok (doubleToJson x)
  | .text s => .ok (.string s)
  | .sequence items => (itemsToJson items).map .array
  | .map entries => (entriesToJson entries).map .ofMembers
  | .json value => .ok value
  | .failing reason => .error (.failed reason)

def itemsToJson : List Datum → Except Fault (List Json)
  | [] => .ok []
  | item :: items => do
    let value ← item.toJson
    return value :: (← itemsToJson items)

/-- The members for the entries of a map, each key before its value. -/
def entriesToJson : List (Key × Datum) → Except Fault (List (String × Json))
  | [] => .ok []
  | (key, item) :: entries => do
    let name ← key.render
    let value ← item.toJson
    return (name, value) :: (← entriesToJson entries)

end

end Datum

end RequestScope
