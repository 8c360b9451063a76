import Mathlib.Data.Finmap
import Mathlib.Data.Finset.Sort
import Mathlib.Data.String.Basic
import RequestScope.Context.Store

/-!
# Classes of handles

The operations of a store once more, without cells. A handle names a class, and a class holds one
finite map from keys to values, of which nothing is known but what it has under which key. To share a
handle is to name the same class, and to make or to copy one is to open a class.
-/

namespace RequestScope

/-- What a class holds. -/
abbrev Contents := Finmap fun _ : String => Json

/-- The finite map of entries. -/
def Entries.contents (entries : Entries) : Contents :=
  (entries.toList.map fun e => ⟨e.1, e.2⟩ : List (Sigma fun _ : String => Json)).toFinmap

@[simp] theorem Entries.lookup_contents (entries : Entries) (key : String) :
    entries.contents.lookup key = entries.get? key := by
  rw [contents, Finmap.dlookup_list_toFinmap, SortedMap.get?]
  induction entries.toList with
  | nil => rfl
  | cons head rest ih =>
    rw [List.map_cons, SortedMap.lookup]
    split
    · rename_i heq
      subst heq
      exact List.dlookup_cons_eq _ _ _
    · rename_i hne
      rw [List.dlookup_cons_ne _ _ fun heq => hne heq.symm]
      exact ih

theorem Entries.contents_insert (entries : Entries) (key : String) (value : Json) :
    Entries.contents (entries.insert key value) = entries.contents.insert key value := by
  refine Finmap.ext_lookup fun key' => ?_
  rw [lookup_contents, SortedMap.get?_insert]
  split
  · rename_i heq
    subst heq
    rw [Finmap.lookup_insert]
  · rename_i hne
    rw [Finmap.lookup_insert_of_ne _ fun heq => hne heq.symm, lookup_contents]

theorem Entries.contents_erase (entries : Entries) (key : String) :
    Entries.contents (entries.erase key) = entries.contents.erase key := by
  refine Finmap.ext_lookup fun key' => ?_
  rw [lookup_contents, SortedMap.get?_erase]
  split
  · rename_i heq
    subst heq
    rw [Finmap.lookup_erase]
  · rename_i hne
    rw [Finmap.lookup_erase_ne fun heq => hne heq.symm, lookup_contents]

theorem Entries.keys_contents (entries : Entries) :
    entries.contents.keys = (entries.toList.map (·.1)).toFinset := by
  ext key
  rw [Finmap.mem_keys, ← Finmap.lookup_isSome, lookup_contents, List.mem_toFinset, List.mem_map,
    Option.isSome_iff_exists]
  constructor
  · rintro ⟨value, hget⟩
    exact ⟨(key, value), SortedMap.mem_toList_iff.mpr hget, rfl⟩
  · rintro ⟨⟨_, value⟩, hmem, rfl⟩
    exact ⟨value, SortedMap.mem_toList_iff.mp hmem⟩

theorem Entries.card_contents (entries : Entries) : entries.contents.keys.card = entries.size := by
  have hnodup : (entries.toList.map (·.1)).Nodup := by
    refine List.pairwise_map.mpr (entries.sorted.imp fun hlt heq => ?_)
    exact StrictTotal.irrefl _ (heq ▸ hlt)
  rw [keys_contents, List.toFinset_card_of_nodup hnodup, List.length_map, SortedMap.size]

theorem Entries.isEmpty_contents (entries : Entries) :
    decide (entries.contents.keys = ∅) = entries.isEmpty := by
  rw [Bool.eq_iff_iff, decide_eq_true_iff, ← Finset.card_eq_zero, card_contents, SortedMap.size,
    List.length_eq_zero_iff, SortedMap.isEmpty, List.isEmpty_iff]

namespace Contents

/-- The keys in order, with their values. -/
def members (m : Contents) : List (String × Json) :=
  m.keys.sort.filterMap fun key => (m.lookup key).map (key, ·)

theorem mem_members {m : Contents} {key : String} {value : Json} :
    (key, value) ∈ m.members ↔ m.lookup key = some value := by
  have hkey : m.lookup key = some value → key ∈ m.keys := fun h =>
    Finmap.mem_keys.mpr (Finmap.mem_of_lookup_eq_some h)
  simp only [members, List.mem_filterMap, Finset.mem_sort, Option.map_eq_some_iff, Prod.mk.injEq]
  constructor
  · rintro ⟨_, -, _, hlookup, rfl, rfl⟩
    exact hlookup
  · intro hlookup
    exact ⟨key, hkey hlookup, value, hlookup, rfl, rfl⟩

theorem members_sorted (m : Contents) : m.members.Pairwise fun a b => a.1 < b.1 := by
  refine List.pairwise_filterMap.mpr (m.keys.sortedLT_sort.pairwise.imp fun hlt e he e' he' => ?_)
  obtain ⟨-, -, rfl⟩ := Option.map_eq_some_iff.mp he
  obtain ⟨-, -, rfl⟩ := Option.map_eq_some_iff.mp he'
  exact hlt

/-- A finite map as entries. -/
def entries (m : Contents) : Entries := ⟨m.members, m.members_sorted⟩

/-- Nothing of the entries is lost in their finite map. -/
@[simp] theorem entries_contents (entries : Entries) : entries.contents.entries = entries := by
  refine SortedMap.ext_get? fun key => Option.ext fun value => ?_
  rw [← SortedMap.mem_toList_iff, ← Entries.lookup_contents]
  exact mem_members

/-- The text under a key, if there is a text. -/
def text? (m : Contents) (key : String) : Option String :=
  match m.lookup key with
  | some (.string text) => some text
  | _ => none

end Contents

theorem Entries.text?_contents (entries : Entries) (key : String) :
    entries.contents.text? key = entries.text? key := by
  rw [Contents.text?, lookup_contents, text?]
  rcases entries.get? key with _ | value
  · rfl
  · cases value <;> rfl

/-- The class that each name names, what each class holds, and the number of classes opened so far. -/
structure Classes where
  named : String → Option Nat := fun _ => none
  holds : Nat → Contents := fun _ => ∅
  opened : Nat := 0

namespace Classes

def rename (x : Classes) (name : String) (c : Option Nat) : Classes :=
  { x with named := Function.update x.named name c }

def change (x : Classes) (c : Nat) (m : Contents) : Classes :=
  { x with holds := Function.update x.holds c m }

def openClass (x : Classes) (name : String) (m : Contents) : Classes :=
  { (x.rename name x.opened).change x.opened m with opened := x.opened + 1 }

def put (x : Classes) (c : Nat) (key : String) (value : Json) : Classes × Reply :=
  (x.change c ((x.holds c).insert key value), .value ((x.holds c).lookup key))

def withClass (x : Classes) (name : String) (work : Nat → Classes × Reply) : Classes × Reply :=
  match x.named name with
  | none => (x, .unknownName)
  | some c => work c

def ask (x : Classes) (name : String) (answer : Contents → Reply) : Classes × Reply :=
  x.withClass name fun c => (x, answer (x.holds c))

def apply (x : Classes) : Operation → Classes × Reply
  | .create name entries => (x.openClass name entries.contents, .done)
  | .clone source target => x.withClass source fun c => (x.rename target (some c), .done)
  | .fork source target => x.withClass source fun c => (x.openClass target (x.holds c), .done)
  | .drop name => x.withClass name fun _ => (x.rename name none, .done)
  | .insert name key value =>
    x.withClass name fun c =>
      match Entries.prepare key value with
      | .error failure => (x, .failed failure)
      | .ok json => x.put c key json
  | .insertContext name key source =>
    x.withClass name fun c => x.withClass source fun c' => x.put c key (.object (x.holds c').members)
  | .remove name key =>
    x.withClass name fun c =>
      (x.change c ((x.holds c).erase key), .value ((x.holds c).lookup key))
  | .get name key => x.ask name fun m => .value (m.lookup key)
  | .getText name key => x.ask name fun m => .text (m.text? key)
  | .getAs name key schema =>
    x.ask name fun m =>
      match m.lookup key with
      | none => .typed schema none
      | some value =>
        match schema.decode value with
        | .ok v => .typed schema (some v)
        | .error misread => .failed (.inContext (Entries.reading key) misread.message)
  | .contains name key => x.ask name fun m => .flag (m.lookup key).isSome
  | .requestId name => x.ask name fun m => .text (m.text? Entries.requestIdKey)
  | .size name => x.ask name fun m => .count m.keys.card
  | .isEmpty name => x.ask name fun m => .flag (decide (m.keys = ∅))
  | .entries name => x.ask name fun m => .entries m.entries
  | .shares name other =>
    x.withClass name fun c => x.withClass other fun c' => (x, .flag (decide (c = c')))

def run (x : Classes) : List Operation → Classes × List Reply
  | [] => (x, [])
  | operation :: rest =>
    let (x, reply) := x.apply operation
    let (x, replies) := x.run rest
    (x, reply :: replies)

end Classes

end RequestScope
