import RequestScope.Proofs.Context.Classes

/-!
# Handles and their classes

A store carries out every operation as the classes do: `Store.view` reads the class of a handle off
its cell, and each operation keeps the view. `Lineage` then follows the handles one by one, with the
clones that link them, and two handles turn out to share their entries just when a chain of clones
leads from one to the other.
-/

namespace RequestScope

theorem SortedMap.get?_insert_eq_update {α : Type} (m : Dictionary α) (key : String) (value : α) :
    (m.insert key value).get? = Function.update m.get? key (some value) := by
  funext key'
  rw [get?_insert, Function.update_apply]
  simp only [eq_comm]

theorem SortedMap.get?_erase_eq_update {α : Type} (m : Dictionary α) (key : String) :
    (m.erase key).get? = Function.update m.get? key none := by
  funext key'
  rw [get?_erase, Function.update_apply]
  simp only [eq_comm]

theorem Heap.read_write_eq_update (heap : Heap) (h : Handle) (entries : Entries) :
    (heap.write h entries).read = Function.update heap.read h entries := by
  funext h'
  rw [read_write, Function.update_apply]
  simp only [eq_comm]

namespace Store

/-! ### The classes of a store -/

/-- The cells of all handles belong to the store. -/
def Sound (s : Store) : Prop := ∀ name h, s.names.get? name = some h → h.owner = 0

/-- A store as classes: one for each cell. -/
def view (s : Store) : Classes :=
  ⟨fun name => (s.names.get? name).map Handle.serial, fun c => (s.heap.read ⟨0, c⟩).contents, s.made⟩

/-- What is done to a store is done to its classes. -/
def Refines (result : Store × Reply) (result' : Classes × Reply) : Prop :=
  result.1.Sound ∧ result' = (result.1.view, result.2)

theorem view_rename (s : Store) (name : String) (h : Handle) :
    view { s with names := s.names.insert name h } = s.view.rename name (some h.serial) := by
  have hnamed : Option.map Handle.serial ∘ (s.names.insert name h).get? =
      Function.update (Option.map Handle.serial ∘ s.names.get?) name (some h.serial) := by
    rw [SortedMap.get?_insert_eq_update, Function.comp_update]
    rfl
  exact congrArg (fun named : String → Option Nat => { s.view with named }) hnamed

theorem view_drop (s : Store) (name : String) :
    view { s with names := s.names.erase name } = s.view.rename name none := by
  have hnamed : Option.map Handle.serial ∘ (s.names.erase name).get? =
      Function.update (Option.map Handle.serial ∘ s.names.get?) name none := by
    rw [SortedMap.get?_erase_eq_update, Function.comp_update]
    rfl
  exact congrArg (fun named : String → Option Nat => { s.view with named }) hnamed

theorem view_write (s : Store) (c : Nat) (entries : Entries) :
    (s.write ⟨0, c⟩ entries).view = s.view.change c entries.contents := by
  have hinjective : Function.Injective (Handle.mk 0) := fun _ _ heq => congrArg Handle.serial heq
  have hread : Entries.contents ∘ (s.heap.write ⟨0, c⟩ entries).read ∘ Handle.mk 0 =
      Function.update (Entries.contents ∘ s.heap.read ∘ Handle.mk 0) c entries.contents := by
    rw [Heap.read_write_eq_update, Function.update_comp_eq_of_injective _ hinjective,
      Function.comp_update]
  exact congrArg (fun holds : Nat → Contents => { s.view with holds }) hread

theorem view_create (s : Store) (name : String) (entries : Entries) :
    (s.create name entries).view = s.view.openClass name entries.contents := by
  have hrename := (s.write ⟨0, s.made⟩ entries).view_rename name ⟨0, s.made⟩
  rw [view_write] at hrename
  exact congrArg (fun x : Classes => { x with opened := x.opened + 1 }) hrename

/-! ### Operations -/

theorem Sound.insert {s : Store} (hsound : s.Sound) (name : String) {h : Handle}
    (hown : h.owner = 0) (heap : Heap) (made : Nat) :
    Sound ⟨heap, s.names.insert name h, made⟩ := by
  intro name' h' hget
  change (s.names.insert name h).get? name' = some h' at hget
  rw [SortedMap.get?_insert] at hget
  split at hget
  · cases hget
    exact hown
  · exact hsound name' h' hget

theorem Sound.erase {s : Store} (hsound : s.Sound) (name : String) :
    Sound { s with names := s.names.erase name } := by
  intro name' h' hget
  change (s.names.erase name).get? name' = some h' at hget
  rw [SortedMap.get?_erase] at hget
  split at hget
  · cases hget
  · exact hsound name' h' hget

theorem withHandle_refines {s : Store} (hsound : s.Sound) (name : String)
    {work : Handle → Store × Reply} {work' : Nat → Classes × Reply}
    (hwork : ∀ c, Refines (work ⟨0, c⟩) (work' c)) :
    Refines (s.withHandle name work) (s.view.withClass name work') := by
  have hnamed : s.view.named name = (s.names.get? name).map Handle.serial := rfl
  rw [withHandle, Classes.withClass, hnamed]
  cases hget : s.names.get? name with
  | none => exact ⟨hsound, rfl⟩
  | some h =>
    obtain ⟨owner, c⟩ := h
    have hown : owner = 0 := hsound name _ hget
    subst hown
    exact hwork c

theorem ask_refines {s : Store} (hsound : s.Sound) (name : String) {answer : Entries → Reply}
    {answer' : Contents → Reply} (hanswer : ∀ entries, answer' entries.contents = answer entries) :
    Refines (s.ask name answer) (s.view.ask name answer') := by
  refine withHandle_refines hsound name fun c => ⟨hsound, ?_⟩
  have hholds : s.view.holds c = (s.heap.read ⟨0, c⟩).contents := rfl
  rw [hholds, hanswer]

theorem create_refines {s : Store} (hsound : s.Sound) (name : String) (entries : Entries) :
    Refines (s.create name entries, .done) (s.view.openClass name entries.contents, .done) :=
  ⟨hsound.insert name rfl _ _, by rw [view_create]⟩

theorem put_refines {s : Store} (hsound : s.Sound) (c : Nat) (key : String) (json : Json) :
    let before := s.heap.read ⟨0, c⟩
    Refines (s.write ⟨0, c⟩ (before.insert key json), .value (before.get? key))
      (s.view.put c key json) := by
  have hholds : s.view.holds c = (s.heap.read ⟨0, c⟩).contents := rfl
  refine ⟨hsound, ?_⟩
  rw [Classes.put, view_write, Entries.contents_insert, hholds, Entries.lookup_contents]

theorem apply_refines {s : Store} (hsound : s.Sound) (operation : Operation) :
    Refines (s.apply operation) (s.view.apply operation) := by
  cases operation with
  | create name entries => exact create_refines hsound name entries
  | clone source target =>
    refine withHandle_refines hsound source fun c => ⟨hsound.insert target rfl _ _, ?_⟩
    rw [view_rename]
  | fork source target =>
    exact withHandle_refines hsound source fun c => create_refines hsound target _
  | drop name =>
    refine withHandle_refines hsound name fun c => ⟨hsound.erase name, ?_⟩
    rw [view_drop]
  | insert name key value =>
    refine withHandle_refines hsound name fun c => ?_
    rw [Store.insert]
    cases Entries.prepare key value with
    | error failure => exact ⟨hsound, rfl⟩
    | ok json => exact put_refines hsound c key json
  | insertContext name key source =>
    refine withHandle_refines hsound name fun c => withHandle_refines hsound source fun c' => ?_
    have hobject : Json.object (s.view.holds c').members = .ofDictionary (s.heap.read ⟨0, c'⟩) :=
      congrArg Json.ofDictionary (Contents.entries_contents (s.heap.read ⟨0, c'⟩))
    rw [hobject]
    exact put_refines hsound c key _
  | remove name key =>
    refine withHandle_refines hsound name fun c => ⟨hsound, ?_⟩
    have hholds : s.view.holds c = (s.heap.read ⟨0, c⟩).contents := rfl
    rw [view_write, Entries.contents_erase, hholds, Entries.lookup_contents]
  | get name key =>
    rw [apply, Classes.apply]
    refine ask_refines hsound name fun entries => ?_
    rw [Entries.lookup_contents]
  | getText name key =>
    rw [apply, Classes.apply]
    refine ask_refines hsound name fun entries => ?_
    rw [Entries.text?_contents]
  | getAs name key schema =>
    rw [apply, Classes.apply]
    refine ask_refines hsound name fun entries => ?_
    rw [Entries.lookup_contents, Entries.read]
    cases entries.get? key with
    | none => rfl
    | some value =>
      simp only
      cases schema.decode value with
      | error misread => rfl
      | ok v => rfl
  | contains name key =>
    rw [apply, Classes.apply]
    refine ask_refines hsound name fun entries => ?_
    rw [Entries.lookup_contents]
    rfl
  | requestId name =>
    rw [apply, Classes.apply]
    refine ask_refines hsound name fun entries => ?_
    rw [Entries.text?_contents]
    rfl
  | size name =>
    rw [apply, Classes.apply]
    refine ask_refines hsound name fun entries => ?_
    rw [Entries.card_contents]
  | isEmpty name =>
    rw [apply, Classes.apply]
    refine ask_refines hsound name fun entries => ?_
    rw [Entries.isEmpty_contents]
  | entries name =>
    rw [apply, Classes.apply]
    refine ask_refines hsound name fun entries => ?_
    rw [Contents.entries_contents]
  | shares name other =>
    refine withHandle_refines hsound name fun c => ?_
    refine withHandle_refines hsound other fun c' => ⟨hsound, ?_⟩
    simp only [Handle.mk.injEq, true_and]

theorem run_refines {s : Store} (hsound : s.Sound) (operations : List Operation) :
    (s.run operations).1.Sound ∧
      s.view.run operations = ((s.run operations).1.view, (s.run operations).2) := by
  induction operations generalizing s with
  | nil => exact ⟨hsound, rfl⟩
  | cons operation rest ih =>
    obtain ⟨hsound', happly⟩ := apply_refines hsound operation
    obtain ⟨hsound'', hrun⟩ := ih hsound'
    refine ⟨hsound'', ?_⟩
    rw [Classes.run, happly]
    simp only [hrun]
    rfl

end Store

/-! ### Handles one by one -/

/-- The handle that each name stands for, by its number, the number of handles so far, and which of
them were cloned from which. -/
structure Lineage where
  current : String → Option Nat := fun _ => none
  count : Nat := 0
  clones : List (Nat × Nat) := []

namespace Lineage

/-- A further handle under a name. -/
def add (l : Lineage) (name : String) (links : List (Nat × Nat)) : Lineage :=
  ⟨Function.update l.current name (some l.count), l.count + 1, links ++ l.clones⟩

/-- What an operation does to the handles. -/
def record (l : Lineage) : Operation → Lineage
  | .create name _ => l.add name []
  | .clone source target =>
    match l.current source with
    | none => l
    | some i => l.add target [(i, l.count)]
  | .fork source target =>
    match l.current source with
    | none => l
    | some _ => l.add target []
  | .drop name => { l with current := Function.update l.current name none }
  | _ => l

/-- The handles after operations in a row. -/
def ofOperations (operations : List Operation) : Lineage := operations.foldl record {}

/-- Whether a chain of clones leads from one handle to another. -/
def Linked (l : Lineage) : Nat → Nat → Prop := Relation.EqvGen fun i j => (i, j) ∈ l.clones

/-- The handles of a store, and the cells that they point to. Handles that were dropped are still
counted, since a chain of clones may lead through them. -/
structure Describes (l : Lineage) (s : Store) (cell : Nat → Handle) : Prop where
  names : ∀ name, s.names.get? name = (l.current name).map cell
  current_lt : ∀ name i, l.current name = some i → i < l.count
  serial_lt : ∀ i < l.count, (cell i).serial < s.made
  clones : ∀ i j, (i, j) ∈ l.clones → i < l.count ∧ j < l.count ∧ cell i = cell j
  linked : ∀ i j, i < l.count → j < l.count → cell i = cell j → l.Linked i j

namespace Describes

variable {l : Lineage} {s : Store} {cell : Nat → Handle}

theorem linked_iff (hl : l.Describes s cell) {i j : Nat} (hi : i < l.count) (hj : j < l.count) :
    l.Linked i j ↔ cell i = cell j := by
  refine ⟨fun hlinked => ?_, hl.linked i j hi hj⟩
  clear hi hj
  induction hlinked with
  | rel i j hclone => exact (hl.clones i j hclone).2.2
  | refl i => rfl
  | symm i j _ ih => exact ih.symm
  | trans i j k _ _ ih ih' => exact ih.trans ih'

theorem congr (hl : l.Describes s cell) {s' : Store} (hnames : s'.names = s.names)
    (hmade : s'.made = s.made) : l.Describes s' cell :=
  ⟨hnames ▸ hl.names, hl.current_lt, hmade ▸ hl.serial_lt, hl.clones, hl.linked⟩

/-- A further handle points to a cell of its own, or is linked to one that points to the same cell. -/
theorem add (hl : l.Describes s cell) (name : String) {h : Handle} {links : List (Nat × Nat)}
    (heap : Heap) {made : Nat} (hmade : s.made ≤ made) (hserial : h.serial < made)
    (hlinks : ∀ i j, (i, j) ∈ links → i < l.count ∧ j = l.count ∧ cell i = h)
    (hlinked : ∀ j < l.count, cell j = h → ∃ i, (i, l.count) ∈ links) :
    (l.add name links).Describes ⟨heap, s.names.insert name h, made⟩
      (Function.update cell l.count h) := by
  have hself : Function.update cell l.count h l.count = h := Function.update_self ..
  have hold {i : Nat} (hi : i < l.count) : Function.update cell l.count h i = cell i :=
    Function.update_of_ne (Nat.ne_of_lt hi) ..
  have hmono {i j : Nat} (hij : l.Linked i j) : (l.add name links).Linked i j :=
    hij.mono fun _ _ => List.mem_append_right links
  have hnew {j : Nat} (hj : j < l.count) (hcell : cell j = h) :
      (l.add name links).Linked j l.count := by
    obtain ⟨i, hlink⟩ := hlinked j hj hcell
    obtain ⟨hi, -, hcell'⟩ := hlinks i _ hlink
    exact .trans _ i _ (hmono (hl.linked j i hj hi (hcell.trans hcell'.symm)))
      (.rel _ _ (List.mem_append_left _ hlink))
  -- Handles from before keep their cells and their links, so only what concerns the new one is new.
  refine ⟨fun name' => ?_, fun name' i hcurrent => ?_, fun i hi => ?_, fun i j hclone => ?_,
    fun i j hi hj hcell => ?_⟩
  · change (s.names.insert name h).get? name' =
      (Function.update l.current name (some l.count) name').map _
    rw [SortedMap.get?_insert_eq_update, Function.update_apply, Function.update_apply]
    split
    · rw [Option.map_some, hself]
    · rw [hl.names]
      exact Option.map_congr fun i hcurrent => (hold (hl.current_lt name' i hcurrent)).symm
  · change Function.update l.current name (some l.count) name' = some i at hcurrent
    rw [Function.update_apply] at hcurrent
    split at hcurrent
    · cases hcurrent
      exact Nat.lt_succ_self _
    · exact Nat.lt_succ_of_lt (hl.current_lt name' i hcurrent)
  · rcases Nat.lt_succ_iff_lt_or_eq.mp hi with hi | rfl
    · rw [hold hi]
      exact Nat.lt_of_lt_of_le (hl.serial_lt i hi) hmade
    · rw [hself]
      exact hserial
  · rcases List.mem_append.mp hclone with hlink | hclone
    · obtain ⟨hi, rfl, hcell⟩ := hlinks i j hlink
      exact ⟨Nat.lt_succ_of_lt hi, Nat.lt_succ_self _, by rw [hold hi, hself, hcell]⟩
    · obtain ⟨hi, hj, hcell⟩ := hl.clones i j hclone
      exact ⟨Nat.lt_succ_of_lt hi, Nat.lt_succ_of_lt hj, by rw [hold hi, hold hj, hcell]⟩
  · rcases Nat.lt_succ_iff_lt_or_eq.mp hi with hi | rfl
    · rcases Nat.lt_succ_iff_lt_or_eq.mp hj with hj | rfl
      · rw [hold hi, hold hj] at hcell
        exact hmono (hl.linked i j hi hj hcell)
      · rw [hold hi, hself] at hcell
        exact hnew hi hcell
    · rcases Nat.lt_succ_iff_lt_or_eq.mp hj with hj | rfl
      · rw [hself, hold hj] at hcell
        exact .symm _ _ (hnew hj hcell.symm)
      · exact .refl _

theorem drop (hl : l.Describes s cell) (name : String) :
    { l with current := Function.update l.current name none }.Describes
      { s with names := s.names.erase name } cell := by
  refine ⟨fun name' => ?_, fun name' i hcurrent => ?_, hl.serial_lt, hl.clones, hl.linked⟩
  · change (s.names.erase name).get? name' = (Function.update l.current name none name').map cell
    rw [SortedMap.get?_erase_eq_update, Function.update_apply, Function.update_apply]
    split
    · rfl
    · exact hl.names name'
  · change Function.update l.current name none name' = some i at hcurrent
    rw [Function.update_apply] at hcurrent
    split at hcurrent
    · cases hcurrent
    · exact hl.current_lt name' i hcurrent

/-- A handle to a cell of its own. -/
theorem create (hl : l.Describes s cell) (name : String) (entries : Entries) :
    (l.add name []).Describes (s.create name entries) (Function.update cell l.count ⟨0, s.made⟩) := by
  refine hl.add name _ (Nat.le_succ _) (Nat.lt_succ_self _) (fun i j hlink => ?_) fun j hj hcell => ?_
  · cases hlink
  · have hlt : (cell j).serial < s.made := hl.serial_lt j hj
    rw [hcell] at hlt
    exact absurd hlt (Nat.lt_irrefl _)

end Describes

end Lineage

namespace Store

theorem withHandle_names {s : Store} (name : String) {work : Handle → Store × Reply}
    (hwork : ∀ h, (work h).1.names = s.names ∧ (work h).1.made = s.made) :
    (s.withHandle name work).1.names = s.names ∧ (s.withHandle name work).1.made = s.made := by
  rw [withHandle]
  split
  · exact ⟨rfl, rfl⟩
  · exact hwork _

theorem insert_names (s : Store) (h : Handle) (key : String) (value : Datum) :
    (s.insert h key value).1.names = s.names ∧ (s.insert h key value).1.made = s.made := by
  rw [insert]
  split
  · exact ⟨rfl, rfl⟩
  · exact ⟨rfl, rfl⟩

theorem apply_describes {l : Lineage} {s : Store} {cell : Nat → Handle} (hl : l.Describes s cell)
    (operation : Operation) :
    ∃ cell', (l.record operation).Describes (s.apply operation).1 cell' := by
  -- What a handle points to is decided when it is made; changes of entries leave names and cells be.
  have hkeep {s' : Store} (hnames : s'.names = s.names ∧ s'.made = s.made) :
      ∃ cell', l.Describes s' cell' := ⟨cell, hl.congr hnames.1 hnames.2⟩
  cases operation with
  | create name entries => exact ⟨_, hl.create name entries⟩
  | clone source target =>
    rw [apply, withHandle, Lineage.record, hl.names]
    cases hcurrent : l.current source with
    | none => exact ⟨cell, hl⟩
    | some i =>
      have hi := hl.current_lt source i hcurrent
      have hserial := hl.serial_lt i hi
      refine ⟨_, hl.add target _ (Nat.le_refl _) hserial (fun i' j hlink => ?_) fun _ _ _ => ?_⟩
      · cases List.mem_singleton.mp hlink
        exact ⟨hi, rfl, rfl⟩
      · exact ⟨i, List.mem_singleton_self _⟩
  | fork source target =>
    rw [apply, withHandle, Lineage.record, hl.names]
    cases hcurrent : l.current source with
    | none => exact ⟨cell, hl⟩
    | some i => exact ⟨_, hl.create target _⟩
  | drop name =>
    rw [apply, withHandle]
    split
    · rename_i hunknown
      have hcurrent : l.current name = none := by
        rw [hl.names] at hunknown
        exact Option.map_eq_none_iff.mp hunknown
      rw [Lineage.record, ← hcurrent, Function.update_eq_self]
      exact ⟨cell, hl⟩
    · exact ⟨cell, hl.drop name⟩
  | insert name key value => exact hkeep (withHandle_names name fun h => s.insert_names h key value)
  | insertContext name key source =>
    refine hkeep (withHandle_names name fun h => ?_)
    exact withHandle_names source fun _ => s.insert_names h key _
  | shares name other =>
    exact hkeep (withHandle_names name fun _ => withHandle_names other fun _ => ⟨rfl, rfl⟩)
  | _ => exact hkeep (withHandle_names _ fun _ => ⟨rfl, rfl⟩)

theorem run_describes {l : Lineage} {s : Store} {cell : Nat → Handle} (hl : l.Describes s cell)
    (operations : List Operation) :
    ∃ cell', (operations.foldl Lineage.record l).Describes (s.run operations).1 cell' := by
  induction operations generalizing l s cell with
  | nil => exact ⟨cell, hl⟩
  | cons operation rest ih =>
    obtain ⟨cell', hl'⟩ := apply_describes hl operation
    exact ih hl'

/-! ### What is seen through handles -/

/-- What a store answers. -/
def answer (s : Store) (operation : Operation) : Reply := (s.apply operation).2

/-- A store after an operation. -/
def after (s : Store) (operation : Operation) : Store := (s.apply operation).1

/-- Whether a store answers that two handles share their entries. -/
def Shares (s : Store) (name other : String) : Prop := s.answer (.shares name other) = .flag true

/-- Every handle that shares the entries of the named one shows a value under a key, and otherwise all
handles show what they showed before. -/
structure SeenThrough (s s' : Store) (name key : String) (value : Option Json) : Prop where
  here : ∀ other, s.Shares name other → s'.answer (.get other key) = .value value
  elsewhere : ∀ other key', ¬ (s.Shares name other ∧ key = key') →
    s'.answer (.get other key') = s.answer (.get other key')

theorem withHandle_some {s : Store} {name : String} {h : Handle} (hget : s.names.get? name = some h)
    (work : Handle → Store × Reply) : s.withHandle name work = work h := by
  rw [withHandle, hget]

theorem answer_get {s : Store} {name : String} {h : Handle} (hget : s.names.get? name = some h)
    (key : String) : s.answer (.get name key) = .value ((s.heap.read h).get? key) := by
  rw [answer, apply, ask, withHandle_some hget]

theorem answer_get_unknown {s : Store} {name : String} (hget : s.names.get? name = none)
    (key : String) : s.answer (.get name key) = .unknownName := by
  rw [answer, apply, ask, withHandle, hget]

theorem shares_iff {s : Store} {name other : String} :
    s.Shares name other ↔ ∃ h, s.names.get? name = some h ∧ s.names.get? other = some h := by
  rw [Shares, answer, apply, withHandle]
  cases s.names.get? name with
  | none => simp
  | some h =>
    simp only [withHandle]
    cases s.names.get? other with
    | none => simp
    | some h' => simp [eq_comm]

theorem shares_equivalence (s : Store) :
    Equivalence fun a b : {name // s.names.contains name = true} => s.Shares a b where
  refl a := by
    obtain ⟨h, hget⟩ := Option.isSome_iff_exists.mp a.2
    exact shares_iff.mpr ⟨h, hget, hget⟩
  symm hshares := by
    obtain ⟨h, hget, hget'⟩ := shares_iff.mp hshares
    exact shares_iff.mpr ⟨h, hget', hget⟩
  trans hshares hshares' := by
    obtain ⟨h, hget, hget'⟩ := shares_iff.mp hshares
    obtain ⟨h', hget'', hget'''⟩ := shares_iff.mp hshares'
    rw [hget'] at hget''
    cases hget''
    exact shares_iff.mpr ⟨h, hget, hget'''⟩

theorem shares_iff_linked {l : Lineage} {s : Store} {cell : Nat → Handle} (hl : l.Describes s cell)
    (a b : String) :
    s.Shares a b ↔ ∃ i j, l.current a = some i ∧ l.current b = some j ∧ l.Linked i j := by
  rw [shares_iff]
  simp only [hl.names, Option.map_eq_some_iff]
  constructor
  · rintro ⟨h, ⟨i, hi, rfl⟩, j, hj, hcell⟩
    have hlinked := hl.linked i j (hl.current_lt a i hi) (hl.current_lt b j hj) hcell.symm
    exact ⟨i, j, hi, hj, hlinked⟩
  · rintro ⟨i, j, hi, hj, hlinked⟩
    have hcell := (hl.linked_iff (hl.current_lt a i hi) (hl.current_lt b j hj)).mp hlinked
    exact ⟨cell i, ⟨i, hi, rfl⟩, j, hj, hcell.symm⟩

/-- A change of one cell under one key. -/
theorem write_seenThrough {s : Store} {name : String} {h : Handle} (hget : s.names.get? name = some h)
    {entries : Entries} {key : String} {value : Option Json}
    (hentries : ∀ key', entries.get? key' = if key = key' then value else (s.heap.read h).get? key') :
    s.SeenThrough (s.write h entries) name key value := by
  have hread (h' : Handle) :
      (s.write h entries).heap.read h' = if h = h' then entries else s.heap.read h' :=
    Heap.read_write ..
  refine ⟨fun other hshares => ?_, fun other key' hnot => ?_⟩
  · obtain ⟨h', hname, hother⟩ := shares_iff.mp hshares
    rw [hget] at hname
    cases hname
    have hother' : (s.write h entries).names.get? other = some h := hother
    rw [answer_get hother', hread, if_pos rfl, hentries, if_pos rfl]
  · cases hother : s.names.get? other with
    | none =>
      have hother' : (s.write h entries).names.get? other = none := hother
      rw [answer_get_unknown hother', answer_get_unknown hother]
    | some h' =>
      have hother' : (s.write h entries).names.get? other = some h' := hother
      rw [answer_get hother', answer_get hother, hread]
      split
      · rename_i heq
        subst heq
        have hkey : key ≠ key' := fun heq => hnot ⟨shares_iff.mpr ⟨h, hget, hother⟩, heq⟩
        rw [hentries, if_neg hkey]
      · rfl

theorem insert_seenThrough {s : Store} {name key : String} (hname : s.names.contains name = true)
    {value : Datum} {json : Json} (hvalue : Entries.prepare key value = .ok json) :
    s.SeenThrough (s.after (.insert name key value)) name key (some json) := by
  obtain ⟨h, hget⟩ := Option.isSome_iff_exists.mp hname
  have hafter : s.after (.insert name key value) = s.write h ((s.heap.read h).insert key json) := by
    rw [after, apply, withHandle_some hget, insert, hvalue]
  rw [hafter]
  exact write_seenThrough hget fun key' => SortedMap.get?_insert ..

theorem remove_seenThrough {s : Store} {name : String} (hname : s.names.contains name = true)
    (key : String) : s.SeenThrough (s.after (.remove name key)) name key none := by
  obtain ⟨h, hget⟩ := Option.isSome_iff_exists.mp hname
  have hafter : s.after (.remove name key) = s.write h ((s.heap.read h).erase key) := by
    rw [after, apply, withHandle_some hget]
  rw [hafter]
  exact write_seenThrough hget fun key' => SortedMap.get?_erase ..

theorem insertContext_seenThrough {s : Store} {name source : String}
    (hname : s.names.contains name = true) (hsource : s.names.contains source = true) (key : String) :
    ∃ entries, s.answer (.entries source) = .entries entries ∧
      s.SeenThrough (s.after (.insertContext name key source)) name key
        (some (.ofDictionary entries)) := by
  obtain ⟨h, hget⟩ := Option.isSome_iff_exists.mp hname
  obtain ⟨h', hget'⟩ := Option.isSome_iff_exists.mp hsource
  refine ⟨s.heap.read h', ?_, ?_⟩
  · rw [answer, apply, ask, withHandle_some hget']
  · have hafter : s.after (.insertContext name key source) =
        s.write h ((s.heap.read h).insert key (.ofDictionary (s.heap.read h'))) := by
      rw [after, apply, withHandle_some hget, withHandle_some hget']
      rfl
    rw [hafter]
    exact write_seenThrough hget fun key' => SortedMap.get?_insert ..

/-- The keys behind a handle, as all questions about them have it. -/
theorem exists_keys {s : Store} {name : String} (hname : s.names.contains name = true) :
    ∃ keys : Finset String,
      s.answer (.size name) = .count keys.card ∧
      (s.answer (.isEmpty name) = .flag true ↔ keys = ∅) ∧
      ∀ key, (s.answer (.contains name key) = .flag true ↔ key ∈ keys) ∧
        ((∃ value, s.answer (.get name key) = .value (some value)) ↔ key ∈ keys) := by
  obtain ⟨h, hget⟩ := Option.isSome_iff_exists.mp hname
  have hask (answer : Entries → Reply) : (s.ask name answer).2 = answer (s.heap.read h) := by
    rw [ask, withHandle_some hget]
  have hmem (key : String) :
      key ∈ (s.heap.read h).contents.keys ↔ ((s.heap.read h).get? key).isSome := by
    rw [Finmap.mem_keys, ← Finmap.lookup_isSome, Entries.lookup_contents]
  refine ⟨(s.heap.read h).contents.keys, ?_, ?_, fun key => ⟨?_, ?_⟩⟩
  · rw [answer, apply, hask, Entries.card_contents]
  · rw [answer, apply, hask, Reply.flag.injEq, ← Entries.isEmpty_contents, decide_eq_true_iff]
  · rw [answer, apply, hask, Reply.flag.injEq, hmem, SortedMap.contains]
  · simp only [answer_get hget, Reply.value.injEq, hmem, Option.isSome_iff_exists]

theorem describes_empty : Lineage.Describes {} {} fun _ => ⟨0, 0⟩ where
  names _ := rfl
  current_lt _ _ hcurrent := by cases hcurrent
  serial_lt _ hlt := by cases hlt
  clones _ _ hclone := by cases hclone
  linked _ _ hlt := by cases hlt

theorem sound_empty : Sound {} := fun _ _ hget => by cases hget

/-- Whatever is done to handles, the answers are those of the classes. Two handles share their
entries just when a chain of clones links them, a change is seen through all handles that share and
through no other, and what is asked about keys is answered for the same finite set of keys. -/
theorem handles_refine_maps (operations : List Operation) :
    let s := (run {} operations).1
    let l := Lineage.ofOperations operations
    (run {} operations).2 = (Classes.run {} operations).2 ∧
    (∀ a b, s.Shares a b ↔ ∃ i j, l.current a = some i ∧ l.current b = some j ∧ l.Linked i j) ∧
    (Equivalence fun a b : {name // s.names.contains name = true} => s.Shares a b) ∧
    ∀ name, s.names.contains name = true →
      (∀ key value json, Entries.prepare key value = .ok json →
        s.SeenThrough (s.after (.insert name key value)) name key (some json)) ∧
      (∀ key source, s.names.contains source = true →
        ∃ entries, s.answer (.entries source) = .entries entries ∧
          s.SeenThrough (s.after (.insertContext name key source)) name key
            (some (.ofDictionary entries))) ∧
      (∀ key, s.SeenThrough (s.after (.remove name key)) name key none) ∧
      ∃ keys : Finset String,
        s.answer (.size name) = .count keys.card ∧
        (s.answer (.isEmpty name) = .flag true ↔ keys = ∅) ∧
        ∀ key, (s.answer (.contains name key) = .flag true ↔ key ∈ keys) ∧
          ((∃ value, s.answer (.get name key) = .value (some value)) ↔ key ∈ keys) := by
  obtain ⟨-, hrun⟩ := run_refines sound_empty operations
  obtain ⟨cell, hl⟩ := run_describes describes_empty operations
  refine ⟨?_, shares_iff_linked hl, shares_equivalence _, fun name hname =>
    ⟨?_, ?_, ?_, exists_keys hname⟩⟩
  · exact (congrArg Prod.snd hrun).symm
  · exact fun key value json hvalue => insert_seenThrough hname hvalue
  · exact fun key source hsource => insertContext_seenThrough hname hsource key
  · exact fun key => remove_seenThrough hname key

/-- With a clone and a fork of one context, a removal is seen through the clone and not through the
fork. -/
theorem handles_refine_maps_cloned :
    let s := (run {} [.create "a" .empty, .clone "a" "b", .fork "a" "c"]).1
    s.names.contains "a" = true ∧ s.Shares "a" "b" ∧ ¬ s.Shares "a" "c" ∧
      s.SeenThrough (s.after (.remove "a" "key")) "a" "key" none := by
  intro s
  have hname : s.names.contains "a" = true := by decide
  obtain ⟨-, -, -, hseen⟩ :=
    handles_refine_maps [.create "a" .empty, .clone "a" "b", .fork "a" "c"]
  refine ⟨hname, rfl, fun hshares => ?_, (hseen "a" hname).2.2.1 "key"⟩
  cases hshares

end Store

end RequestScope
