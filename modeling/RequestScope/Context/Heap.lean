import RequestScope.Context.Entries

/-!
# Handles and cells

Contexts are shared: a handle points to a cell that holds entries, and handles to one cell see each
other's changes. A handle consists of the owner that made the cell and the number of cells that this
owner had made before, so that owners never run into each other.
-/

namespace RequestScope

/-- A reference to a cell. -/
structure Handle where
  owner : Nat
  serial : Nat
deriving Repr, DecidableEq

namespace Handle

instance : LT Handle := ⟨fun a b => a.owner < b.owner ∨ (a.owner = b.owner ∧ a.serial < b.serial)⟩

instance : DecidableLT Handle := fun a b => inferInstanceAs
    (Decidable (a.owner < b.owner ∨ (a.owner = b.owner ∧ a.serial < b.serial)))

theorem lt_iff {a b : Handle} : a < b ↔ a.owner < b.owner ∨
    (a.owner = b.owner ∧ a.serial < b.serial) := Iff.rfl

instance : StrictTotal Handle where
  irrefl a h := by rw [lt_iff] at h; omega
  trans h h' := by rw [lt_iff] at *; omega
  connected {a b} hnot hne := by
    have : a.owner ≠ b.owner ∨ a.serial ≠ b.serial := by
      by_cases h : a.owner = b.owner
      · exact .inr fun h' => hne (by cases a; cases b; simp_all)
      · exact .inl h
    rw [lt_iff] at *
    omega

end Handle

/-- The cells by their handles. -/
abbrev Heap := SortedMap Handle Entries

namespace Heap

def read (heap : Heap) (h : Handle) : Entries := (heap.get? h).getD .empty

def write (heap : Heap) (h : Handle) (entries : Entries) : Heap := heap.insert h entries

theorem read_write (heap : Heap) (h h' : Handle) (entries : Entries) :
    (heap.write h entries).read h' = if h = h' then entries else heap.read h' := by
  rw [read, write, SortedMap.get?_insert]
  split <;> rfl

end Heap

end RequestScope
