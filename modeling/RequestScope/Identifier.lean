import RequestScope.Settings.Keyword

/-!
# Request identifiers

A request is known by an identifier: the one that it brings, if that is acceptable, or a generated
one. A supply of identifiers answers each call with the next identifier of the wanted version and
keeps count of the calls.
-/

namespace RequestScope

open Settings (IdFormat)

def maxIdLength : Nat := 128

def isVisible (c : Char) : Bool := 0x21 ≤ c.toNat && c.toNat ≤ 0x7e

/-- Whether an identifier that a request brings may be used. -/
def isAcceptableId (id : String) : Bool :=
  let cs := id.toList
  !cs.isEmpty && cs.length ≤ maxIdLength && cs.all isVisible

/-- A source of identifiers: which one it gives for a version at its `n`-th call, counted from
zero. -/
abbrev IdSource := IdFormat → Nat → String

/-- The random identifier used where identifiers have to be known beforehand. -/
def mockV4 : String := "00000000-0000-4000-8000-000000000000"

/-- The ordered identifier used where identifiers have to be known beforehand. -/
def mockV7 : String := "00000000-0000-7000-8000-000000000000"

/-- The source that always gives the same two identifiers. -/
def IdSource.fixed (v4 v7 : String) : IdSource
  | .v4, _ => v4
  | .v7, _ => v7

def IdSource.mock : IdSource := IdSource.fixed mockV4 mockV7

/-- A source with the calls made to it so far, the latest first. -/
structure IdSupply where
  source : IdSource
  calls : List IdFormat

/-- A supply without calls. -/
def IdSupply.ofSource (source : IdSource) : IdSupply := ⟨source, []⟩

def IdSupply.next (supply : IdSupply) (format : IdFormat) : String × IdSupply :=
  (supply.source format supply.calls.length, { supply with calls := format :: supply.calls })

def IdSupply.take (supply : IdSupply) : List IdFormat → List String
  | [] => []
  | format :: formats =>
    let (id, supply) := supply.next format
    id :: supply.take formats

end RequestScope
