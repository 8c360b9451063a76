import RequestScope.Proofs.Context.Keeping

/-!
# Contexts in contexts

A context that is stored in a context is stored as the object of its entries, so that nothing refers
back to it. A context can be stored in itself as well: what it held before is then one level further
down, and no value ever contains itself.
-/

namespace RequestScope

namespace Json

/-- The value to which names lead from a value on, one object after the other. -/
def at? (value : Json) : List String → Option Json
  | [] => some value
  | name :: names => (value.member? name).bind fun inner => inner.at? names

mutual

/-- How many brackets of a value are inside each other. -/
def depth : Json → Nat
  | .array items => depthOfItems items + 1
  | .object members => depthOfMembers members + 1
  | _ => 0

/-- The greatest depth of values in a row. -/
def depthOfItems : List Json → Nat
  | [] => 0
  | item :: items => max item.depth (depthOfItems items)

/-- The greatest depth of the values of members. -/
def depthOfMembers : List (String × Json) → Nat
  | [] => 0
  | (_, value) :: members => max value.depth (depthOfMembers members)

end

theorem depthOfMembers_le_iff {members : List (String × Json)} {n : Nat} :
    depthOfMembers members ≤ n ↔ ∀ member ∈ members, member.2.depth ≤ n := by
  induction members with
  | nil => simp [depthOfMembers]
  | cons member members ih =>
    obtain ⟨name, value⟩ := member
    simp [depthOfMembers, ih]

theorem member?_ofDictionary (entries : Entries) (key : String) :
    (ofDictionary entries).member? key = entries.get? key := rfl

end Json

namespace Entries

/-- The entries with their own object under a key. -/
def nest (entries : Entries) (key : String) : Entries := entries.insert key (.ofDictionary entries)

/-- The entries after that has been done for one key after the other. -/
def nestAll (entries : Entries) (keys : List String) : Entries := keys.foldl nest entries

theorem nestAll_append (entries : Entries) (front back : List String) :
    entries.nestAll (front ++ back) = (entries.nestAll front).nestAll back := List.foldl_append

theorem nestAll_concat (entries : Entries) (keys : List String) (key : String) :
    entries.nestAll (keys ++ [key]) = (entries.nestAll keys).nest key := by
  rw [nestAll_append]
  rfl

/-- The keys lead back through the objects that were put under them, the last one first. -/
theorem at?_nestAll (entries : Entries) (front back : List String) :
    (Json.ofDictionary (entries.nestAll (front ++ back))).at? back.reverse =
      some (.ofDictionary (entries.nestAll front)) := by
  induction back using List.reverseRecOn with
  | nil =>
    rw [List.append_nil]
    rfl
  | append_singleton back key ih =>
    have hmember : (Json.ofDictionary (entries.nestAll (front ++ (back ++ [key])))).member? key =
        some (.ofDictionary (entries.nestAll (front ++ back))) := by
      rw [Json.member?_ofDictionary, ← List.append_assoc, nestAll_concat, nest, SortedMap.get?_insert,
        if_pos rfl]
    rw [List.reverse_append, List.reverse_singleton, List.singleton_append, Json.at?, hmember,
      Option.bind_some, ih]

theorem depth_nest (entries : Entries) (key : String) :
    (Json.ofDictionary (entries.nest key)).depth = (Json.ofDictionary entries).depth + 1 := by
  -- The object that was put under the key is deeper than every value beside it.
  have hinner : ∀ member ∈ (entries.nest key).toList, member.2.depth ≤ (Json.ofDictionary entries).depth := by
    intro member hmember
    obtain rfl | hmember := SortedMap.mem_insertEntry hmember
    · exact Nat.le_refl _
    · exact (Json.depthOfMembers_le_iff.mp (Nat.le_refl _) member hmember).trans (Nat.le_succ _)
  have hself : (key, Json.ofDictionary entries) ∈ (entries.nest key).toList := by
    rw [SortedMap.mem_toList_iff, nest, SortedMap.get?_insert, if_pos rfl]
  have hle : Json.depthOfMembers (entries.nest key).toList ≤ (Json.ofDictionary entries).depth :=
    Json.depthOfMembers_le_iff.mpr hinner
  have hge : (Json.ofDictionary entries).depth ≤ Json.depthOfMembers (entries.nest key).toList :=
    Json.depthOfMembers_le_iff.mp (Nat.le_refl _) _ hself
  exact congrArg (· + 1) (Nat.le_antisymm hle hge)

theorem depth_nestAll (entries : Entries) (keys : List String) :
    (Json.ofDictionary (entries.nestAll keys)).depth = (Json.ofDictionary entries).depth + keys.length := by
  induction keys using List.reverseRecOn with
  | nil => rfl
  | append_singleton keys key ih =>
    rw [nestAll_concat, depth_nest, ih, List.length_append, List.length_singleton, Nat.add_assoc]

end Entries

namespace Store

/-- The operations that store a context in itself under one key after the other. -/
def selfInsertions (name : String) (keys : List String) : List Operation :=
  keys.map fun key => .insertContext name key name

section

variable {s : Store} {name source : String} {h h' : Handle} (hname : s.names.get? name = some h)

include hname

theorem apply_insertContext (hsource : s.names.get? source = some h') (key : String) :
    s.apply (.insertContext name key source) =
      (s.write h ((s.heap.read h).insert key (.ofDictionary (s.heap.read h'))), .value (s.found? h key)) := by
  rw [apply, withHandle_some hname, withHandle_some hsource]
  rfl

/-- A context that is stored in itself any number of times has its earlier contents below the keys. -/
theorem run_selfInsertions (keys : List String) :
    (s.run (selfInsertions name keys)).1.names.get? name = some h ∧
      (s.run (selfInsertions name keys)).1.heap.read h = (s.heap.read h).nestAll keys := by
  induction keys generalizing s with
  | nil => exact ⟨hname, rfl⟩
  | cons key keys ih =>
    have happly := apply_insertContext hname hname key
    have hafter : (s.run (selfInsertions name (key :: keys))).1 =
        ((s.write h ((s.heap.read h).nest key)).run (selfInsertions name keys)).1 := by
      rw [selfInsertions, List.map_cons, run, happly]
      rfl
    rw [hafter]
    obtain ⟨hnames, hread⟩ := ih (s := s.write h ((s.heap.read h).nest key)) hname
    refine ⟨hnames, hread.trans ?_⟩
    rw [write, Heap.read_write, if_pos rfl]
    rfl

/-- What was stored is the object of what the source held, and stays until its key is written. -/
theorem found?_insertContext (hmade : h.serial < s.made) (hsource : s.names.get? source = some h')
    (key : String) {later : List Operation}
    (hlater : (s.after (.insertContext name key source)).Spares h key later) :
    ((s.after (.insertContext name key source)).run later).1.found? h key =
      some (.ofDictionary (s.heap.read h')) := by
  rw [after, apply_insertContext hname hsource] at hlater ⊢
  refine (found?_run (s := s.write h _) hmade hlater).trans ?_
  rw [found?_write, if_pos rfl, SortedMap.get?_insert, if_pos rfl]

end

end Store

end RequestScope
