/-!
# Sorted maps and dictionaries

Finite maps, kept as a list of entries with strictly increasing keys, so that equal maps are equal
lists and every printer writes the entries in one order. A dictionary has texts as keys.
`get?_insert`, `get?_erase` and `ext_get?` say that a map is its lookup function; everything else is
derived from lookups.
-/

namespace RequestScope

/-- The order of the keys of a map is strict and total. -/
class StrictTotal (κ : Type w) [LT κ] : Prop where
  irrefl (a : κ) : ¬ a < a
  trans {a b c : κ} : a < b → b < c → a < c
  connected {a b : κ} : ¬ a < b → a ≠ b → b < a

instance : StrictTotal String where
  irrefl := String.lt_irrefl
  trans := String.lt_trans
  connected {a b} hnot hne := by
    rcases String.le_total a b with h | h
    · exact absurd (String.le_antisymm h (String.not_lt.mp hnot)) hne
    · exact String.not_le.mp fun hle => hne (String.le_antisymm hle h)

/-- A finite map from `κ` to `α`. -/
structure SortedMap (κ : Type w) [LT κ] (α : Type u) where
  toList : List (κ × α)
  sorted : toList.Pairwise fun a b => a.1 < b.1

/-- A finite map from texts to `α`. -/
abbrev Dictionary (α : Type u) := SortedMap String α

namespace SortedMap

variable {κ : Type w} {α : Type u} {β : Type v}

/-! ### Entries in order -/

def lookup [DecidableEq κ] (k : κ) : List (κ × α) → Option α
  | [] => none
  | (k', v) :: rest => if k' = k then some v else lookup k rest

/-- Writes an entry at its place, over the entry of the same key. -/
def insertEntry [LT κ] [DecidableLT κ] [DecidableEq κ] (k : κ) (v : α) : List (κ × α) → List (κ × α)
  | [] => [(k, v)]
  | (k', v') :: rest =>
    if k < k' then (k, v) :: (k', v') :: rest
    else if k = k' then (k, v) :: rest
    else (k', v') :: insertEntry k v rest

theorem mem_of_lookup_eq_some [DecidableEq κ] {entries : List (κ × α)} {k : κ} {v : α}
    (h : lookup k entries = some v) :
    (k, v) ∈ entries := by
  induction entries with
  | nil => cases h
  | cons head rest ih =>
    rw [lookup] at h
    split at h
    · rename_i heq
      cases h
      exact heq ▸ List.mem_cons_self
    · exact List.mem_cons_of_mem _ (ih h)

theorem mem_insertEntry [LT κ] [DecidableLT κ] [DecidableEq κ] {k : κ} {v : α}
    {entries : List (κ × α)} {e : κ × α}
    (h : e ∈ insertEntry k v entries) : e = (k, v) ∨ e ∈ entries := by
  induction entries with
  | nil => simpa [insertEntry] using h
  | cons head rest ih =>
    rw [insertEntry] at h
    split at h
    · simpa using h
    · split at h
      · rcases List.mem_cons.mp h with h | h
        · exact .inl h
        · exact .inr (List.mem_cons_of_mem _ h)
      · rcases List.mem_cons.mp h with h | h
        · exact .inr (h ▸ List.mem_cons_self)
        · exact (ih h).imp id (List.mem_cons_of_mem _)

theorem lookup_insertEntry [LT κ] [DecidableLT κ] [DecidableEq κ] (k k' : κ) (v : α)
    (entries : List (κ × α)) :
    lookup k' (insertEntry k v entries) = if k = k' then some v else lookup k' entries := by
  induction entries with
  | nil => simp [insertEntry, lookup]
  | cons head rest ih =>
    rw [insertEntry]
    split
    · rw [lookup]
    · split
      · rename_i heq
        subst heq
        rw [lookup, lookup]
        split <;> rfl
      · rename_i hne
        rw [lookup, lookup, ih]
        by_cases hk : head.1 = k'
        · rw [if_pos hk, if_pos hk, if_neg fun heq => hne (heq.trans hk.symm)]
        · rw [if_neg hk, if_neg hk]

theorem pairwise_insertEntry [LT κ] [DecidableLT κ] [DecidableEq κ] [StrictTotal κ] (k : κ) (v : α)
    {entries : List (κ × α)}
    (h : entries.Pairwise fun a b => a.1 < b.1) : (insertEntry k v entries).Pairwise fun a b => a.1 < b.1 := by
  induction entries with
  | nil => simp [insertEntry]
  | cons head rest ih =>
    obtain ⟨hhead, hrest⟩ := List.pairwise_cons.mp h
    rw [insertEntry]
    split
    · rename_i hlt
      refine List.pairwise_cons.mpr ⟨fun e he => ?_, h⟩
      rcases List.mem_cons.mp he with he | he
      · exact he ▸ hlt
      · exact StrictTotal.trans hlt (hhead e he)
    · rename_i hnot
      split
      · rename_i heq
        exact List.pairwise_cons.mpr ⟨fun e he => heq ▸ hhead e he, hrest⟩
      · rename_i hne
        refine List.pairwise_cons.mpr ⟨fun e he => ?_, ih hrest⟩
        rcases mem_insertEntry he with he | he
        · exact he ▸ StrictTotal.connected hnot hne
        · exact hhead e he

theorem lookup_eq_none_of_lt [LT κ] [DecidableEq κ] [StrictTotal κ] {k : κ} {entries : List (κ × α)}
    (h : ∀ e ∈ entries, k < e.1) :
    lookup k entries = none := by
  induction entries with
  | nil => rfl
  | cons head rest ih =>
    have hne : head.1 ≠ k := fun heq => StrictTotal.irrefl k (heq ▸ h head List.mem_cons_self)
    rw [lookup, if_neg hne]
    exact ih fun e he => h e (List.mem_cons_of_mem _ he)

theorem lookup_eq_some_of_mem [LT κ] [DecidableEq κ] [StrictTotal κ] {entries : List (κ × α)}
    (h : entries.Pairwise fun a b => a.1 < b.1) {e : κ × α} (hmem : e ∈ entries) : lookup e.1 entries = some e.2 := by
  induction entries with
  | nil => cases hmem
  | cons head rest ih =>
    obtain ⟨hhead, hrest⟩ := List.pairwise_cons.mp h
    rw [lookup]
    rcases List.mem_cons.mp hmem with rfl | hmem
    · rw [if_pos rfl]
    · rw [if_neg fun heq : head.1 = e.1 => StrictTotal.irrefl e.1 (heq ▸ hhead e hmem), ih hrest hmem]

theorem eq_of_lookup_eq [LT κ] [DecidableEq κ] [StrictTotal κ] {left right : List (κ × α)}
    (hleft : left.Pairwise fun a b => a.1 < b.1) (hright : right.Pairwise fun a b => a.1 < b.1)
    (h : ∀ k, lookup k left = lookup k right) : left = right := by
  induction left generalizing right with
  | nil =>
    cases right with
    | nil => rfl
    | cons head rest => exact absurd (h head.1) (by simp [lookup])
  | cons head rest ih =>
    obtain ⟨hhead, hrest⟩ := List.pairwise_cons.mp hleft
    cases right with
    | nil => exact absurd (h head.1) (by simp [lookup])
    | cons head' rest' =>
      obtain ⟨hhead', hrest'⟩ := List.pairwise_cons.mp hright
      have hin : head ∈ head' :: rest' := mem_of_lookup_eq_some ((h head.1).symm.trans (by simp [lookup]))
      have hin' : head' ∈ head :: rest := mem_of_lookup_eq_some ((h head'.1).trans (by simp [lookup]))
      have heq : head = head' := by
        rcases List.mem_cons.mp hin with heq | hmem
        · exact heq
        · rcases List.mem_cons.mp hin' with heq | hmem'
          · exact heq.symm
          · exact absurd (StrictTotal.trans (hhead head' hmem') (hhead' head hmem)) (StrictTotal.irrefl _)
      subst heq
      refine congrArg (head :: ·) (ih hrest hrest' fun k => ?_)
      by_cases hk : head.1 = k
      · subst hk
        rw [lookup_eq_none_of_lt hhead, lookup_eq_none_of_lt hhead']
      · have := h k
        rwa [lookup, lookup, if_neg hk, if_neg hk] at this

/-! ### Operations -/

section

variable [LT κ]

def empty : SortedMap κ α := ⟨[], .nil⟩

instance : Inhabited (SortedMap κ α) := ⟨empty⟩

def size (m : SortedMap κ α) : Nat := m.toList.length

def isEmpty (m : SortedMap κ α) : Bool := m.toList.isEmpty

def keys (m : SortedMap κ α) : List κ := m.toList.map (·.1)

def map (f : α → β) (m : SortedMap κ α) : SortedMap κ β :=
  ⟨m.toList.map fun e => (e.1, f e.2), List.pairwise_map.mpr m.sorted⟩

variable [DecidableEq κ]

def get? (m : SortedMap κ α) (k : κ) : Option α := lookup k m.toList

def contains (m : SortedMap κ α) (k : κ) : Bool := (m.get? k).isSome

def erase (m : SortedMap κ α) (k : κ) : SortedMap κ α :=
  ⟨m.toList.filter fun e => e.1 != k, m.sorted.filter _⟩

variable [DecidableLT κ] [StrictTotal κ]

/-- The map with the value under the key. -/
def insert (m : SortedMap κ α) (k : κ) (v : α) : SortedMap κ α :=
  ⟨insertEntry k v m.toList, pairwise_insertEntry k v m.sorted⟩

/-- The map of the given entries; of two with the same key the later one counts. -/
def ofList (entries : List (κ × α)) : SortedMap κ α :=
  entries.foldl (fun m e => m.insert e.1 e.2) empty

end

@[simp] theorem get?_empty [LT κ] [DecidableEq κ] (k : κ) :
    (empty : SortedMap κ α).get? k = none := rfl

theorem get?_insert [LT κ] [DecidableEq κ] [DecidableLT κ] [StrictTotal κ] (m : SortedMap κ α)
    (k k' : κ) (v : α) :
    (m.insert k v).get? k' = if k = k' then some v else m.get? k' :=
  lookup_insertEntry k k' v m.toList

theorem get?_erase [LT κ] [DecidableEq κ] (m : SortedMap κ α) (k k' : κ) :
    (m.erase k).get? k' = if k = k' then none else m.get? k' := by
  obtain ⟨entries, hsorted⟩ := m
  change lookup k' (entries.filter fun e => e.1 != k) = if k = k' then none else lookup k' entries
  clear hsorted
  induction entries with
  | nil => simp [lookup]
  | cons head rest ih =>
    rw [List.filter_cons, lookup]
    by_cases hk : head.1 = k <;> by_cases hk' : head.1 = k' <;> grind [lookup]

theorem mem_toList_iff [LT κ] [DecidableEq κ] [StrictTotal κ] {m : SortedMap κ α} {k : κ} {v : α} :
    (k, v) ∈ m.toList ↔ m.get? k = some v :=
  ⟨lookup_eq_some_of_mem m.sorted, mem_of_lookup_eq_some⟩

theorem ext_get? [LT κ] [DecidableEq κ] [StrictTotal κ] {m n : SortedMap κ α}
    (h : ∀ k, m.get? k = n.get? k) : m = n := by
  cases m
  cases n
  congr
  exact eq_of_lookup_eq ‹_› ‹_› h

end SortedMap

end RequestScope
