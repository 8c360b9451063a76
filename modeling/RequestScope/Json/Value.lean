import RequestScope.Dictionary
import RequestScope.Number.Decimal

/-!
# JSON values

The values that a context holds and that requests and answers carry. A number is exact when it is an
integer of at most 64 bits, with or without a sign; every other number is a double. The members of
an object stand in increasing order of their names, each name once, when the object comes from a
dictionary or from a reader.
-/

namespace RequestScope

inductive Json.Number
  | int (n : Int)
  | double (x : Number.Double)
deriving Repr, DecidableEq, Inhabited

inductive Json
  | null
  | bool (b : Bool)
  | number (n : Json.Number)
  | string (s : String)
  | array (items : List Json)
  | object (members : List (String × Json))
deriving Repr, Inhabited

namespace Json

def ofDictionary (d : Dictionary Json) : Json := .object d.toList

def ofInt (n : Int) : Json := .number (.int n)

/-- The object with the given members, of which the last with a name counts. -/
def ofMembers (members : List (String × Json)) : Json := ofDictionary (SortedMap.ofList members)

def string? : Json → Option String
  | .string s => some s
  | _ => none

def member? (name : String) : Json → Option Json
  | .object members => SortedMap.lookup name members
  | _ => none

/-- The least integer that is kept exactly. -/
def minInt : Int := -0x8000000000000000

/-- The greatest integer that is kept exactly. -/
def maxInt : Int := 0xffffffffffffffff

end Json

end RequestScope
