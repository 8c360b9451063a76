import Mathlib.Data.List.Nodup
import RequestScope.Dictionary

/-!
# Maps from lists

A map that is made of entries with distinct keys has just these entries, and the entries of a map make
this map again in whatever order they are taken.
-/

namespace RequestScope.SortedMap

variable {κ : Type w} [LT κ] [DecidableEq κ] [StrictTotal κ] {α : Type u}

theorem mem_keys_iff {m : SortedMap κ α} {k : κ} : k ∈ m.keys ↔ ∃ a, m.get? k = some a := by
  rw [keys, List.mem_map]
  constructor
  · rintro ⟨⟨_, a⟩, hmem, rfl⟩
    exact ⟨a, mem_toList_iff.mp hmem⟩
  · rintro ⟨a, hget⟩
    exact ⟨(k, a), mem_toList_iff.mpr hget, rfl⟩

omit [DecidableEq κ] in
theorem nodup_keys (m : SortedMap κ α) : m.keys.Nodup := by
  refine List.pairwise_map.mpr (m.sorted.imp fun hlt heq => ?_)
  exact StrictTotal.irrefl _ (heq ▸ hlt)

theorem eq_empty_iff {m : SortedMap κ α} : m = empty ↔ ∀ k, m.get? k = none := by
  constructor
  · rintro rfl k
    rfl
  · intro h
    exact ext_get? h

variable [DecidableLT κ]

theorem get?_foldl_insert_of_notMem {entries : List (κ × α)} (m : SortedMap κ α) {k : κ}
    (h : k ∉ entries.map (·.1)) :
    (entries.foldl (fun m e => m.insert e.1 e.2) m).get? k = m.get? k := by
  induction entries generalizing m with
  | nil => rfl
  | cons e entries ih =>
    obtain ⟨hne, hrest⟩ := not_or.mp (fun hor => h (List.mem_cons.mpr hor))
    rw [List.foldl_cons, ih _ hrest, get?_insert, if_neg fun heq => hne heq.symm]

theorem get?_foldl_insert_of_mem {entries : List (κ × α)} (hnodup : (entries.map (·.1)).Nodup)
    (m : SortedMap κ α) {e : κ × α} (h : e ∈ entries) :
    (entries.foldl (fun m e => m.insert e.1 e.2) m).get? e.1 = some e.2 := by
  induction entries generalizing m with
  | nil => cases h
  | cons head entries ih =>
    obtain ⟨hhead, hrest⟩ := List.nodup_cons.mp hnodup
    rw [List.foldl_cons]
    obtain rfl | hmem := List.mem_cons.mp h
    · rw [get?_foldl_insert_of_notMem _ hhead, get?_insert, if_pos rfl]
    · exact ih hrest _ hmem

theorem get?_ofList_eq_some_iff {entries : List (κ × α)} (hnodup : (entries.map (·.1)).Nodup) {k : κ}
    {a : α} : (ofList entries).get? k = some a ↔ (k, a) ∈ entries := by
  constructor
  · intro hget
    by_cases hkey : k ∈ entries.map (·.1)
    · obtain ⟨⟨_, b⟩, hmem, rfl⟩ := List.mem_map.mp hkey
      have hfound := get?_foldl_insert_of_mem hnodup empty hmem
      rw [ofList, hfound] at hget
      cases hget
      exact hmem
    · rw [ofList, get?_foldl_insert_of_notMem _ hkey] at hget
      cases hget
  · intro hmem
    exact get?_foldl_insert_of_mem hnodup empty hmem

theorem toList_ofList_perm {entries : List (κ × α)} (hnodup : (entries.map (·.1)).Nodup) :
    (ofList entries).toList.Perm entries := by
  have hsorted : (ofList entries).toList.Nodup := List.Nodup.of_map _ (nodup_keys (ofList entries))
  refine (List.perm_ext_iff_of_nodup hsorted (List.Nodup.of_map _ hnodup)).mpr fun e => ?_
  exact mem_toList_iff.trans (get?_ofList_eq_some_iff hnodup)

theorem ofList_of_perm {m : SortedMap κ α} {entries : List (κ × α)} (h : entries.Perm m.toList) :
    ofList entries = m := by
  have hkeys : (entries.map (·.1)).Perm m.keys := h.map _
  have hnodup := hkeys.nodup_iff.mpr m.nodup_keys
  refine ext_get? fun k => Option.ext fun a => ?_
  rw [get?_ofList_eq_some_iff hnodup, h.mem_iff, mem_toList_iff]

end RequestScope.SortedMap
