import RequestScope.Proofs.Context.Keeping

/-!
# Copies of contexts

Whoever has a handle, and those that come of it, sees what is behind these handles and which of them
share it, and nothing else of a store. Two stores are twins for such an observer if the handles it knows
point to cells with the same entries, and share them in the same way. Every operation keeps twins, so
contexts with the same entries are told apart by no operations, and operations on one context leave
another that does not share with it as it was.
-/

namespace RequestScope

namespace Operation

/-- The names whose handles an operation needs. -/
def uses : Operation → List String
  | .create _ _ => []
  | .clone source _ => [source]
  | .fork source _ => [source]
  | .drop name => [name]
  | .insert name _ _ => [name]
  | .insertContext name _ source => [name, source]
  | .remove name _ => [name]
  | .get name _ => [name]
  | .getText name _ => [name]
  | .getAs name _ _ => [name]
  | .contains name _ => [name]
  | .requestId name => [name]
  | .size name => [name]
  | .isEmpty name => [name]
  | .entries name => [name]
  | .shares name other => [name, other]

/-- The names that stand for other handles, or for none, behind an operation. -/
def binds : Operation → List String
  | .create name _ | .clone _ name | .fork _ name | .drop name => [name]
  | _ => []

/-- The names that an observer knows behind an operation. -/
def known (names : List String) : Operation → List String
  | .create name _ | .clone _ name | .fork _ name => name :: names
  | .drop name => names.filter (· ≠ name)
  | _ => names

/-- The same operation on handles with other names. -/
def rename (f : String → String) : Operation → Operation
  | .create name held => .create (f name) held
  | .clone source target => .clone (f source) (f target)
  | .fork source target => .fork (f source) (f target)
  | .drop name => .drop (f name)
  | .insert name key value => .insert (f name) key value
  | .insertContext name key source => .insertContext (f name) key (f source)
  | .remove name key => .remove (f name) key
  | .get name key => .get (f name) key
  | .getText name key => .getText (f name) key
  | .getAs name key schema => .getAs (f name) key schema
  | .contains name key => .contains (f name) key
  | .requestId name => .requestId (f name)
  | .size name => .size (f name)
  | .isEmpty name => .isEmpty (f name)
  | .entries name => .entries (f name)
  | .shares name other => .shares (f name) (f other)

end Operation

/-- Operations of an observer who knows some names: each goes through handles that are known by then. -/
def OwnHandles : List String → List Operation → Prop
  | _, [] => True
  | names, operation :: rest =>
    (∀ name ∈ operation.uses, name ∈ names) ∧ OwnHandles (operation.known names) rest

namespace Store

/-- No operations of an observer who knows a name alone tell what is behind it from what is behind
another name, in this store or in another. -/
def Alike (s : Store) (name : String) (s' : Store) (name' : String) : Prop :=
  ∀ operations, OwnHandles [name] operations → ∀ f : String → String, f.Injective → f name = name' →
    (s'.run (operations.map (.rename f))).2 = (s.run operations).2

/-- Whatever an observer does who knows the first name alone, what is behind the second is as it was. -/
def Untouched (s : Store) (name other : String) : Prop :=
  ∀ operations, OwnHandles [name] operations → (∀ operation ∈ operations, other ∉ operation.binds) →
    (s.run operations).1.answer (.entries other) = s.answer (.entries other) ∧
      s.Alike other (s.run operations).1 other

/-- Two stores for an observer who knows some names, which `f` takes to those of the second store. -/
structure Twins (names : List String) (f : String → String) (twin : Handle → Handle → Prop)
    (s s' : Store) : Prop where
  named : ∀ name ∈ names, ∃ h h', s.names.get? name = some h ∧ s'.names.get? (f name) = some h' ∧ twin h h'
  same : ∀ h h', twin h h' → s'.heap.read h' = s.heap.read h
  unique : ∀ h h' k k', twin h h' → twin k k' → (h = k ↔ h' = k')
  made : ∀ h h', twin h h' → h.serial < s.made ∧ h'.serial < s'.made

/-- The results of an operation are twins with the same answer. -/
def Matches (names : List String) (f : String → String) (result result' : Store × Reply) : Prop :=
  (∃ twin, Twins names f twin result.1 result'.1) ∧ result'.2 = result.2

section

variable {names : List String} {f : String → String} {twin : Handle → Handle → Prop} {s s' : Store}

/-! ### What operations do to twins -/

namespace Twins

theorem write (h : Twins names f twin s s') {c c' : Handle} (hcell : twin c c') (entries : Entries) :
    Twins names f twin (s.write c entries) (s'.write c' entries) where
  named := h.named
  same k k' hk := by
    change (s'.heap.write c' entries).read k' = (s.heap.write c entries).read k
    rw [Heap.read_write, Heap.read_write, h.same k k' hk]
    simp only [h.unique c c' k k' hcell hk]
  unique := h.unique
  made := h.made

theorem bind (h : Twins names f twin s s') (hf : f.Injective) {c c' : Handle} (hcell : twin c c')
    (target : String) :
    Twins (target :: names) f twin { s with names := s.names.insert target c }
      { s' with names := s'.names.insert (f target) c' } where
  named name hname := by
    simp only [SortedMap.get?_insert, hf.eq_iff]
    by_cases heq : target = name
    · exact ⟨c, c', if_pos heq, if_pos heq, hcell⟩
    · obtain ⟨k, k', hk, hk', htwin⟩ :=
        h.named name ((List.mem_cons.mp hname).resolve_left fun hname => heq hname.symm)
      exact ⟨k, k', (if_neg heq).trans hk, (if_neg heq).trans hk', htwin⟩
  same := h.same
  unique := h.unique
  made := h.made

theorem drop (h : Twins names f twin s s') (hf : f.Injective) (name : String) :
    Twins (names.filter (· ≠ name)) f twin { s with names := s.names.erase name }
      { s' with names := s'.names.erase (f name) } where
  named other hother := by
    obtain ⟨hother, hne⟩ := List.mem_filter.mp hother
    have hne : ¬ name = other := fun heq => of_decide_eq_true hne heq.symm
    obtain ⟨k, k', hk, hk', htwin⟩ := h.named other hother
    refine ⟨k, k', ?_, ?_, htwin⟩
    · rw [SortedMap.get?_erase, if_neg hne, hk]
    · rw [SortedMap.get?_erase, if_neg fun heq => hne (hf heq), hk']
  same := h.same
  unique := h.unique
  made := h.made

theorem create (h : Twins names f twin s s') (hf : f.Injective) (target : String) (entries : Entries) :
    ∃ twin', Twins (target :: names) f twin' (s.create target entries) (s'.create (f target) entries) := by
  -- The cells that are made are twins of each other, and of no cell from before.
  have hnew {k k' : Handle} (hk : twin k k') : (⟨0, s.made⟩ : Handle) ≠ k ∧ (⟨0, s'.made⟩ : Handle) ≠ k' := by
    obtain ⟨hlt, hlt'⟩ := h.made k k' hk
    exact ⟨fun heq => by simp [← heq] at hlt, fun heq => by simp [← heq] at hlt'⟩
  let twin' (k k' : Handle) : Prop := twin k k' ∨ k = ⟨0, s.made⟩ ∧ k' = ⟨0, s'.made⟩
  have hwritten : Twins names f twin'
      ⟨s.heap.write ⟨0, s.made⟩ entries, s.names, s.made + 1⟩
      ⟨s'.heap.write ⟨0, s'.made⟩ entries, s'.names, s'.made + 1⟩ :=
    { named := fun name hname => by
        obtain ⟨k, k', hk, hk', htwin⟩ := h.named name hname
        exact ⟨k, k', hk, hk', .inl htwin⟩
      same := by
        rintro k k' (hk | ⟨rfl, rfl⟩)
        · rw [Heap.read_write, Heap.read_write, if_neg (hnew hk).1, if_neg (hnew hk).2, h.same k k' hk]
        · rw [Heap.read_write, Heap.read_write, if_pos rfl, if_pos rfl]
      unique := by
        rintro k k' l l' (hk | ⟨rfl, rfl⟩) (hl | ⟨rfl, rfl⟩)
        · exact h.unique k k' l l' hk hl
        · simp [(hnew hk).1.symm, (hnew hk).2.symm]
        · simp [(hnew hl).1, (hnew hl).2]
        · simp
      made := by
        rintro k k' (hk | ⟨rfl, rfl⟩)
        · obtain ⟨hlt, hlt'⟩ := h.made k k' hk
          exact ⟨Nat.lt_succ_of_lt hlt, Nat.lt_succ_of_lt hlt'⟩
        · exact ⟨Nat.lt_succ_self _, Nat.lt_succ_self _⟩ }
  exact ⟨twin', hwritten.bind hf (.inr ⟨rfl, rfl⟩) target⟩

end Twins

theorem matches_withHandle (h : Twins names f twin s s') {names' : List String} {name : String}
    (hname : name ∈ names) {work work' : Handle → Store × Reply}
    (hwork : ∀ c c', twin c c' → Matches names' f (work c) (work' c')) :
    Matches names' f (s.withHandle name work) (s'.withHandle (f name) work') := by
  obtain ⟨c, c', hc, hc', htwin⟩ := h.named name hname
  rw [withHandle_some hc, withHandle_some hc']
  exact hwork c c' htwin

theorem matches_ask (h : Twins names f twin s s') {name : String} (hname : name ∈ names)
    (answer : Entries → Reply) : Matches names f (s.ask name answer) (s'.ask (f name) answer) := by
  refine matches_withHandle h hname fun c c' htwin => ⟨⟨twin, h⟩, ?_⟩
  exact congrArg answer (h.same c c' htwin)

theorem matches_insert (h : Twins names f twin s s') {c c' : Handle} (hcell : twin c c') (key : String)
    (value : Datum) : Matches names f (s.insert c key value) (s'.insert c' key value) := by
  rw [insert, insert]
  cases Entries.prepare key value with
  | error failure => exact ⟨⟨twin, h⟩, rfl⟩
  | ok json =>
    simp only [h.same c c' hcell]
    exact ⟨⟨twin, h.write hcell _⟩, rfl⟩

/-- One operation of an observer keeps twins, and is answered alike. -/
theorem matches_apply (h : Twins names f twin s s') (hf : f.Injective) (operation : Operation)
    (huses : ∀ name ∈ operation.uses, name ∈ names) :
    Matches (operation.known names) f (s.apply operation) (s'.apply (operation.rename f)) := by
  cases operation with
  | create name entries => exact ⟨h.create hf name entries, rfl⟩
  | clone source target =>
    exact matches_withHandle h (huses _ List.mem_cons_self) fun c c' htwin =>
      ⟨⟨twin, h.bind hf htwin target⟩, rfl⟩
  | fork source target =>
    refine matches_withHandle h (huses _ List.mem_cons_self) fun c c' htwin => ?_
    rw [h.same c c' htwin]
    exact ⟨h.create hf target _, rfl⟩
  | drop name =>
    exact matches_withHandle h (huses _ List.mem_cons_self) fun c c' htwin =>
      ⟨⟨twin, h.drop hf name⟩, rfl⟩
  | insert name key value =>
    exact matches_withHandle h (huses _ List.mem_cons_self) fun c c' htwin =>
      matches_insert h htwin key value
  | insertContext name key source =>
    refine matches_withHandle h (huses _ List.mem_cons_self) fun c c' htwin => ?_
    refine matches_withHandle h (huses _ (List.mem_cons_of_mem _ List.mem_cons_self)) fun k k' hk => ?_
    rw [h.same k k' hk]
    exact matches_insert h htwin key _
  | remove name key =>
    refine matches_withHandle h (huses _ List.mem_cons_self) fun c c' htwin => ?_
    simp only [h.same c c' htwin]
    exact ⟨⟨twin, h.write htwin _⟩, rfl⟩
  | shares name other =>
    refine matches_withHandle h (huses _ List.mem_cons_self) fun c c' htwin => ?_
    refine matches_withHandle h (huses _ (List.mem_cons_of_mem _ List.mem_cons_self)) fun k k' hk => ?_
    refine ⟨⟨twin, h⟩, ?_⟩
    simp only [h.unique c c' k k' htwin hk]
  | _ => exact matches_ask h (huses _ List.mem_cons_self) _

theorem replies_of_twins (h : Twins names f twin s s') (hf : f.Injective) {operations : List Operation}
    (hown : OwnHandles names operations) :
    (s'.run (operations.map (.rename f))).2 = (s.run operations).2 := by
  -- Names become known and forgotten, and cells are made: the induction is over all relations of cells.
  induction operations generalizing names twin s s' with
  | nil => rfl
  | cons operation rest ih =>
    obtain ⟨huses, hrest⟩ := hown
    obtain ⟨⟨twin', htwins⟩, hreply⟩ := matches_apply h hf operation huses
    exact congrArg₂ List.cons hreply (ih htwins hrest)

end

/-- What is behind two names is alike if it has the same entries. -/
theorem alike_of_read_eq {s s' : Store} {name name' : String} {h h' : Handle}
    (hname : s.names.get? name = some h) (hname' : s'.names.get? name' = some h')
    (hmade : h.serial < s.made) (hmade' : h'.serial < s'.made) (hread : s'.heap.read h' = s.heap.read h) :
    s.Alike name s' name' := by
  intro operations hown f hf heq
  have htwins : Twins [name] f (fun k k' => k = h ∧ k' = h') s s' :=
    { named := fun other hother => by
        obtain rfl := List.mem_singleton.mp hother
        exact ⟨h, h', hname, heq ▸ hname', rfl, rfl⟩
      same := by
        rintro k k' ⟨rfl, rfl⟩
        exact hread
      unique := by
        rintro k k' l l' ⟨rfl, rfl⟩ ⟨rfl, rfl⟩
        simp
      made := by
        rintro k k' ⟨rfl, rfl⟩
        exact ⟨hmade, hmade'⟩ }
  exact replies_of_twins htwins hf hown

/-! ### What an observer does not know -/

/-- An observer who knows some names has no handle to the cell of another name. -/
structure Apart (names : List String) (other : String) (cell : Handle) (s : Store) : Prop where
  named : s.names.get? other = some cell
  made : cell.serial < s.made
  apart : ∀ name ∈ names, ∃ h, s.names.get? name = some h ∧ h ≠ cell

namespace Apart

variable {names : List String} {other : String} {cell : Handle} {s : Store}

theorem congr (h : Apart names other cell s) {s' : Store} (hs' : s'.names = s.names ∧ s'.made = s.made) :
    Apart names other cell s' :=
  ⟨hs'.1 ▸ h.named, hs'.2 ▸ h.made, hs'.1 ▸ h.apart⟩

theorem bind (h : Apart names other cell s) {target : String} (hother : other ≠ target) {c : Handle}
    (hc : c ≠ cell) (heap : Heap) {made : Nat} (hmade : s.made ≤ made) :
    Apart (target :: names) other cell ⟨heap, s.names.insert target c, made⟩ where
  named := by
    rw [SortedMap.get?_insert, if_neg hother.symm]
    exact h.named
  made := Nat.lt_of_lt_of_le h.made hmade
  apart name hname := by
    rw [SortedMap.get?_insert]
    by_cases heq : target = name
    · exact ⟨c, if_pos heq, hc⟩
    · rw [if_neg heq]
      exact h.apart name ((List.mem_cons.mp hname).resolve_left fun hname => heq hname.symm)

theorem create (h : Apart names other cell s) {target : String} (hother : other ≠ target)
    (entries : Entries) : Apart (target :: names) other cell (s.create target entries) := by
  refine h.bind hother ?_ _ (Nat.le_succ _)
  rintro rfl
  exact Nat.lt_irrefl _ h.made

theorem drop (h : Apart names other cell s) {name : String} (hother : other ≠ name) :
    Apart (names.filter (· ≠ name)) other cell { s with names := s.names.erase name } where
  named := by
    rw [SortedMap.get?_erase, if_neg hother.symm]
    exact h.named
  made := h.made
  apart name' hname' := by
    obtain ⟨hname', hne⟩ := List.mem_filter.mp hname'
    rw [SortedMap.get?_erase, if_neg fun heq => of_decide_eq_true hne heq.symm]
    exact h.apart name' hname'

theorem withHandle {names' : List String} {name : String} (h : Apart names other cell s)
    (hname : name ∈ names) {work : Handle → Store × Reply}
    (hwork : ∀ c, c ≠ cell → Apart names' other cell (work c).1) :
    Apart names' other cell (s.withHandle name work).1 := by
  obtain ⟨c, hc, hne⟩ := h.apart name hname
  rw [withHandle_some hc]
  exact hwork c hne

theorem not_writes (h : Apart names other cell s) {operation : Operation}
    (huses : ∀ name ∈ operation.uses, name ∈ names) (key : String) : ¬ operation.Writes s cell key := by
  have hnot {name : String} (hname : name ∈ operation.uses) : s.names.get? name ≠ some cell := by
    obtain ⟨c, hc, hne⟩ := h.apart name (huses name hname)
    rw [hc]
    exact fun heq => hne (Option.some.inj heq)
  intro hwrites
  cases operation with
  | insert name key' value => exact hnot List.mem_cons_self hwrites.1
  | insertContext name key' source => exact hnot List.mem_cons_self hwrites.1
  | remove name key' => exact hnot List.mem_cons_self hwrites.1
  | _ => exact hwrites

theorem after (h : Apart names other cell s) {operation : Operation}
    (huses : ∀ name ∈ operation.uses, name ∈ names) (hbinds : other ∉ operation.binds) :
    Apart (operation.known names) other cell (s.after operation) := by
  cases operation with
  | create name entries => exact h.create (List.ne_of_not_mem_cons hbinds) entries
  | clone source target =>
    exact h.withHandle (huses _ List.mem_cons_self) fun c hc =>
      h.bind (List.ne_of_not_mem_cons hbinds) hc _ (Nat.le_refl _)
  | fork source target =>
    exact h.withHandle (huses _ List.mem_cons_self) fun c _ =>
      h.create (List.ne_of_not_mem_cons hbinds) _
  | drop name =>
    exact h.withHandle (huses _ List.mem_cons_self) fun _ _ => h.drop (List.ne_of_not_mem_cons hbinds)
  | insert name key value => exact h.congr (withHandle_names name fun c => s.insert_names c key value)
  | insertContext name key source =>
    exact h.congr (withHandle_names name fun c => withHandle_names source fun _ => s.insert_names c key _)
  | shares name other' =>
    exact h.congr (withHandle_names name fun _ => withHandle_names other' fun _ => ⟨rfl, rfl⟩)
  | _ => exact h.congr (withHandle_names _ fun _ => ⟨rfl, rfl⟩)

/-- The cell that an observer has no handle to keeps its name and its entries. -/
theorem run (h : Apart names other cell s) {operations : List Operation}
    (hown : OwnHandles names operations) (hbinds : ∀ operation ∈ operations, other ∉ operation.binds) :
    (s.run operations).1.names.get? other = some cell ∧ cell.serial < (s.run operations).1.made ∧
      (s.run operations).1.heap.read cell = s.heap.read cell := by
  induction operations generalizing names s with
  | nil => exact ⟨h.named, h.made, rfl⟩
  | cons operation rest ih =>
    obtain ⟨huses, hrest⟩ := hown
    obtain ⟨hnamed, hmade, hread⟩ := ih (h.after huses (hbinds _ List.mem_cons_self)) hrest
      fun operation' hmem => hbinds operation' (List.mem_cons_of_mem _ hmem)
    refine ⟨hnamed, hmade, hread.trans (SortedMap.ext_get? fun key => ?_)⟩
    exact found?_after h.made (h.not_writes huses key)

end Apart

theorem answer_entries {s : Store} {name : String} {h : Handle} (hname : s.names.get? name = some h) :
    s.answer (.entries name) = .entries (s.heap.read h) := by
  rw [answer, apply, ask, withHandle_some hname]

/-- What is done through handles to one cell does not touch another. -/
theorem untouched_of_ne {s : Store} {name other : String} {h h' : Handle}
    (hname : s.names.get? name = some h) (hother : s.names.get? other = some h') (hne : h ≠ h')
    (hmade : h'.serial < s.made) : s.Untouched name other := by
  intro operations hown hbinds
  have hapart : Apart [name] other h' s :=
    { named := hother
      made := hmade
      apart := fun name' hname' => by
        obtain rfl := List.mem_singleton.mp hname'
        exact ⟨h, hname, hne⟩ }
  obtain ⟨hother', hmade', hread⟩ := hapart.run hown hbinds
  constructor
  · rw [answer_entries hother', answer_entries hother, hread]
  · exact alike_of_read_eq hother hother' hmade hmade' hread

end Store

end RequestScope
