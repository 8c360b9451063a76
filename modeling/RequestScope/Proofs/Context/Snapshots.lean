import RequestScope.Proofs.Context.Guards
import RequestScope.Proofs.Context.Nesting

/-!
# Snapshots, copies and serializations

The entries of a context, a context that is made of them, a fork and the serialization all describe the
same contents. None of them goes on to follow the context, and the context follows none of them.
-/

namespace RequestScope

/-! ### Serialized entries -/

/-- Entries are serialized to the object that has just these members, and read back from it. -/
structure Entries.Serialized (entries : Entries) (json : Json) : Prop where
  written : (Schema.dictionary .any).toJson entries = .ok json
  members : json = .object entries.toList
  member? : ∀ key, json.member? key = entries.get? key
  read : (Schema.dictionary .any).decode json = .ok entries

theorem Entries.serialized (entries : Entries) : entries.Serialized (.ofDictionary entries) := by
  have hany : ∀ value : Schema.any.Carrier, Schema.any.Keeps value (id value : Json) := fun _ => ⟨rfl, rfl⟩
  have hsame : entries.toList.map (Prod.map id id) = entries.toList := by simp
  have hself : SortedMap.ofList entries.toList = entries := SortedMap.ofList_of_perm (.refl _)
  have hwritten : Datum.entriesToJson (entries.toList.map fun e => (.text e.1, .json e.2)) =
      .ok entries.toList :=
    (Schema.entriesToJson_map hany .text id (fun _ => rfl) entries.toList).trans (congrArg Except.ok hsame)
  have hread : Typed.decodeEntries .ok Schema.any.decode entries.toList = .ok entries.toList :=
    (congrArg (Typed.decodeEntries .ok Schema.any.decode) hsame).symm.trans
      (Schema.decodeEntries_map hany id (fun _ => rfl) entries.toList)
  exact
    { written := by
        change (Datum.entriesToJson (entries.toList.map fun e => (.text e.1, .json e.2))).map Json.ofMembers = _
        rw [hwritten, Except.map, Json.ofMembers, hself]
      members := rfl
      member? := fun _ => rfl
      read := by
        change (Typed.decodeEntries .ok Schema.any.decode entries.toList).map SortedMap.ofList = _
        rw [hread]
        exact congrArg Except.ok hself }

namespace Store

/-! ### Copies -/

/-- Each of some names has a cell of its own, and all these cells hold the same entries. -/
structure Holding (s : Store) (entries : Entries) (names : List String) : Prop where
  held : ∀ name ∈ names, ∃ h, s.names.get? name = some h ∧ h.serial < s.made ∧ s.heap.read h = entries
  apart : ∀ name ∈ names, ∀ other ∈ names, name ≠ other → s.names.get? name ≠ s.names.get? other

namespace Holding

variable {s : Store} {entries : Entries} {names : List String}

/-- A context that is made of the entries joins those that hold them. -/
theorem create (h : s.Holding entries names) {target : String} (hfresh : target ∉ names) :
    (s.create target entries).Holding entries (target :: names) := by
  have hself : (s.create target entries).names.get? target = some ⟨0, s.made⟩ := by
    rw [Store.create, SortedMap.get?_insert, if_pos rfl]
  have hother {name : String} (hname : name ∈ names) :
      (s.create target entries).names.get? name = s.names.get? name := by
    have hne : target ≠ name := fun heq => hfresh (heq ▸ hname)
    rw [Store.create, SortedMap.get?_insert, if_neg hne]
  have hnew {name : String} (hname : name ∈ names) : s.names.get? name ≠ some ⟨0, s.made⟩ := by
    obtain ⟨k, hk, hlt, -⟩ := h.held name hname
    rw [hk]
    intro heq
    obtain rfl := Option.some.inj heq
    exact Nat.lt_irrefl _ hlt
  constructor
  · intro name hname
    obtain rfl | hname := List.mem_cons.mp hname
    · refine ⟨_, hself, Nat.lt_succ_self _, ?_⟩
      rw [Store.create, Heap.read_write, if_pos rfl]
    · obtain ⟨k, hk, hlt, hread⟩ := h.held name hname
      have hne : (⟨0, s.made⟩ : Handle) ≠ k := fun heq => hnew hname (hk.trans (congrArg some heq.symm))
      refine ⟨k, (hother hname).trans hk, Nat.lt_succ_of_lt hlt, ?_⟩
      rw [Store.create, Heap.read_write, if_neg hne, hread]
  · intro name hname other hother' hne
    obtain rfl | hold := List.mem_cons.mp hname
    · have hold := (List.mem_cons.mp hother').resolve_left hne.symm
      rw [hself, hother hold]
      exact (hnew hold).symm
    · rw [hother hold]
      obtain rfl | hold' := List.mem_cons.mp hother'
      · rw [hself]
        exact hnew hold
      · rw [hother hold']
        exact h.apart name hold other hold' hne

theorem fork (h : s.Holding entries names) {name target : String} (hname : name ∈ names)
    (hfresh : target ∉ names) : (s.after (.fork name target)).Holding entries (target :: names) := by
  obtain ⟨k, hk, -, hread⟩ := h.held name hname
  have hafter : s.after (.fork name target) = s.create target entries := by
    rw [after, apply, withHandle_some hk, hread]
  rw [hafter]
  exact h.create hfresh

theorem alike (h : s.Holding entries names) {s' : Store} {names' : List String}
    (h' : s'.Holding entries names') {name name' : String} (hname : name ∈ names) (hname' : name' ∈ names') :
    s.Alike name s' name' := by
  obtain ⟨k, hk, hlt, hread⟩ := h.held name hname
  obtain ⟨k', hk', hlt', hread'⟩ := h'.held name' hname'
  exact alike_of_read_eq hk hk' hlt hlt' (hread'.trans hread.symm)

theorem not_shares (h : s.Holding entries names) {name other : String} (hname : name ∈ names)
    (hother : other ∈ names) (hne : name ≠ other) : ¬ s.Shares name other := by
  intro hshares
  obtain ⟨k, hk, hk'⟩ := shares_iff.mp hshares
  exact h.apart name hname other hother hne (hk.trans hk'.symm)

theorem untouched (h : s.Holding entries names) {name other : String} (hname : name ∈ names)
    (hother : other ∈ names) (hne : name ≠ other) : s.Untouched name other := by
  obtain ⟨k, hk, -, -⟩ := h.held name hname
  obtain ⟨k', hk', hlt', -⟩ := h.held other hother
  have hcells : k ≠ k' := fun heq => h.apart name hname other hother hne (hk.trans (heq ▸ hk'.symm))
  exact untouched_of_ne hk hk' hcells hlt'

end Holding

/-- Contexts made of the entries of a context, and a fork of it, cannot be told from it or from each other,
and neither shares nor is touched by what is done to another. -/
def CopiesApart (s : Store) (name : String) (entries : Entries) : Prop :=
  ∀ a b c, [name, a, b, c].Nodup →
    let s' := (s.run [.create a entries, .create b entries, .fork name c]).1
    ∀ n ∈ [name, a, b, c], s.Alike name s' n ∧ ∀ n' ∈ [name, a, b, c],
      s'.Alike n s' n' ∧ (n ≠ n' → ¬ s'.Shares n n' ∧ s'.Untouched n n')

theorem copiesApart {s : Store} {name : String} {h : Handle} (hname : s.names.get? name = some h)
    (hmade : h.serial < s.made) : s.CopiesApart name (s.heap.read h) := by
  intro a b c hnodup s'
  have horiginal : s.Holding (s.heap.read h) [name] :=
    { held := fun n hn => by
        obtain rfl := List.mem_singleton.mp hn
        exact ⟨h, hname, hmade, rfl⟩
      apart := fun n hn n' hn' hne => by
        obtain rfl := List.mem_singleton.mp hn
        obtain rfl := List.mem_singleton.mp hn'
        exact absurd rfl hne }
  -- Each copy joins the contexts that hold the entries; the fork is one of these, whichever was forked.
  have hcopies : s'.Holding (s.heap.read h) [c, b, a, name] := by
    have ha : a ∉ [name] := by simp_all [eq_comm]
    have hb : b ∉ [a, name] := by simp_all [eq_comm]
    have hc : c ∉ [b, a, name] := by simp_all [eq_comm]
    exact ((horiginal.create ha).create hb).fork (by simp) hc
  have hmem {n : String} (hn : n ∈ [name, a, b, c]) : n ∈ [c, b, a, name] := by
    simpa [or_comm, or_left_comm, or_assoc] using hn
  intro n hn
  refine ⟨horiginal.alike hcopies List.mem_cons_self (hmem hn), fun n' hn' => ?_⟩
  exact ⟨hcopies.alike hcopies (hmem hn) (hmem hn'), fun hne =>
    ⟨hcopies.not_shares (hmem hn) (hmem hn') hne, hcopies.untouched (hmem hn) (hmem hn') hne⟩⟩

/-! ### Contexts under a key -/

/-- To store a context under a key of a context with the handle `h` is to store the serialization of what
it holds at this moment. No guard is waited for, every handle to the cell sees the object, and no later
operation changes it but one that writes the key. -/
structure StoresSerialized (s : Store) (target : String) (h : Handle) (key source : String)
    (entries : Entries) : Prop where
  as_value : s.apply (.insertContext target key source) =
    s.apply (.insert target key ((Schema.dictionary .any).toDatum entries))
  previous : s.answer (.insertContext target key source) = s.answer (.get target key)
  stored : ∃ before, s.answer (.entries target) = .entries before ∧
    (s.after (.insertContext target key source)).answer (.entries target) =
      .entries (before.insert key (.ofDictionary entries))
  seen : s.SeenThrough (s.after (.insertContext target key source)) target key
    (some (.ofDictionary entries))
  lasting : ∀ later, (s.after (.insertContext target key source)).Spares h key later →
    ∀ other, ((s.after (.insertContext target key source)).run later).1.names.get? other = some h →
      ((s.after (.insertContext target key source)).run later).1.answer (.get other key) =
        .value (some (.ofDictionary entries))
  unblocked : ∀ guards, s.FreeAt guards target → s.FreeAt guards source →
    EndsAs guards s.heap (s.guarded (.insertContext target key source))
      (s.apply (.insertContext target key source))

theorem storesSerialized {s : Store} {target source : String} {h h' : Handle}
    (htarget : s.names.get? target = some h) (hsource : s.names.get? source = some h')
    (hmade : h.serial < s.made) (key : String) :
    s.StoresSerialized target h key source (s.heap.read h') := by
  have happly := apply_insertContext htarget hsource key
  have hafter : s.after (.insertContext target key source) =
      s.write h ((s.heap.read h).insert key (.ofDictionary (s.heap.read h'))) := congrArg Prod.fst happly
  have htarget' : (s.after (.insertContext target key source)).names.get? target = some h := by
    rw [hafter]
    exact htarget
  constructor
  · have hwritten := (s.heap.read h').serialized.written
    rw [happly, apply, withHandle_some htarget, insert_of_ok hwritten]
  · rw [answer, happly, answer_get htarget, found?]
  · refine ⟨s.heap.read h, answer_entries htarget, ?_⟩
    rw [answer_entries htarget', hafter, write, Heap.read_write, if_pos rfl]
  · rw [hafter]
    exact write_seenThrough htarget fun key' => SortedMap.get?_insert ..
  · intro later hlater other hother
    rw [answer_get hother, ← found?_insertContext htarget hmade hsource key hlater, found?]
  · intro guards hfree hfree'
    refine guarded_endsAs fun name hname => ?_
    obtain rfl | hname := List.mem_cons.mp hname
    · exact hfree
    · obtain rfl := List.mem_singleton.mp hname
      exact hfree'

/-- A context that is stored in itself under one key after the other is nested one level for each of them,
and the keys lead back to what it held before each time. -/
structure NestsItself (s : Store) (name : String) (entries : Entries) (keys : List String) : Prop where
  nested : (s.run (selfInsertions name keys)).1.answer (.entries name) = .entries (entries.nestAll keys)
  depth : (Json.ofDictionary (entries.nestAll keys)).depth =
    (Json.ofDictionary entries).depth + keys.length
  back : ∀ front rest, keys = front ++ rest →
    (Json.ofDictionary (entries.nestAll keys)).at? rest.reverse =
      some (.ofDictionary (entries.nestAll front))

theorem nestsItself {s : Store} {name : String} {h : Handle} (hname : s.names.get? name = some h)
    (keys : List String) : s.NestsItself name (s.heap.read h) keys := by
  obtain ⟨hname', hread⟩ := run_selfInsertions hname keys
  constructor
  · rw [answer_entries hname', hread]
  · exact Entries.depth_nestAll _ keys
  · rintro front rest rfl
    exact Entries.at?_nestAll _ front rest

/-- Whatever has been done to the contexts, what a context holds is described alike by its snapshot, by the
contexts that are made of it, by its fork and by its serialization, and none of them follows another. A
serialization that is stored in a context, be it the one that was serialized, is what this one held before,
and stays so. -/
theorem copies_describe_contents (operations : List Operation) {name : String} {cell : Handle}
    (hname : (run {} operations).1.names.get? name = some cell) :
    let s := (run {} operations).1
    ∃ entries, s.answer (.entries name) = .entries entries ∧ s.CopiesApart name entries ∧
      entries.Serialized (.ofDictionary entries) ∧
      (∀ a, (s.after (.create a entries)).answer (.entries a) = .entries entries) ∧
      (∀ target h, s.names.get? target = some h → ∀ key,
        s.StoresSerialized target h key name entries) ∧
      ∀ keys, s.NestsItself name entries keys := by
  intro s
  refine ⟨s.heap.read cell, answer_entries hname, copiesApart hname (serial_lt_of_reachable hname),
    (s.heap.read cell).serialized, fun a => ?_, fun target h htarget key => ?_, nestsItself hname⟩
  · have hself : (s.after (.create a (s.heap.read cell))).names.get? a = some ⟨0, s.made⟩ := by
      rw [after, apply, create, SortedMap.get?_insert, if_pos rfl]
    rw [answer_entries hself, after, apply, create, Heap.read_write, if_pos rfl]
  · exact storesSerialized htarget hname (serial_lt_of_reachable htarget) key

/-- A context with a clone: the clone takes the serialization of what both hold, and does not wait. -/
theorem copies_describe_contents_cloned :
    let s := (run {} [.create "a" .empty, .insert "a" "tenant" (.text "acme"), .clone "a" "b"]).1
    let entries : Entries := .ofList [("tenant", .string "acme")]
    s.names.get? "a" = some ⟨0, 0⟩ ∧ s.answer (.entries "a") = .entries entries ∧
      s.CopiesApart "a" entries ∧ s.StoresSerialized "b" ⟨0, 0⟩ "self" "a" entries ∧
      s.NestsItself "a" entries ["self", "self"] := by
  intro s entries
  have hname : s.names.get? "a" = some ⟨0, 0⟩ := by decide +kernel
  have hclone : s.names.get? "b" = some ⟨0, 0⟩ := by decide +kernel
  have hentries : s.answer (.entries "a") = .entries entries := rfl
  obtain ⟨entries', hentries', hcopies, -, -, hstores, hnests⟩ := copies_describe_contents _ hname
  obtain rfl : entries' = entries := Reply.entries.inj (hentries'.symm.trans hentries)
  exact ⟨hname, hentries, hcopies, hstores "b" _ hclone "self", hnests ["self", "self"]⟩

end Store

end RequestScope
