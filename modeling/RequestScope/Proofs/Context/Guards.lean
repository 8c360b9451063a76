import RequestScope.Proofs.Context.Copies

/-!
# Guards of cells

A cell is read under a shared guard and changed under an exclusive one. Who asks for a guard waits until
the guards that forbid it are given back, and waits for ever for a guard of its own. Each operation is
given here with the guards that it takes: it holds one at a time, and serializes what it stores before it
asks for the guard of the cell that it changes. So an operation comes to its end wherever no guard is held
of the cells that it goes to, and does what it does to a store; an insertion into the very cell that is
serialized is no exception.
-/

namespace RequestScope

/-- A guard of a cell that is held. -/
structure Guard where
  cell : Handle
  exclusive : Bool
deriving DecidableEq

/-- A computation on cells, guard by guard. -/
inductive Guarded (ρ : Type)
  | finish (result : ρ)
  | share (cell : Handle) (next : Entries → Guarded ρ)
  | own (cell : Handle) (next : Entries → Guarded ρ)
  | put (cell : Handle) (entries : Entries) (next : Guarded ρ)
  | place (cell : Handle) (entries : Entries) (next : Guarded ρ)
  | release (guard : Guard) (next : Guarded ρ)

namespace Guarded

variable {ρ : Type}

/-- The result of a computation, with the guards and the cells behind it, unless it waits for a guard.
A shared guard waits for an exclusive one, an exclusive guard for any, and a cell is changed under an
exclusive guard only. A new cell is not guarded yet. -/
def run : Guarded ρ → List Guard → Heap → Option (ρ × List Guard × Heap)
  | .finish result, guards, heap => some (result, guards, heap)
  | .share cell next, guards, heap =>
    if ⟨cell, true⟩ ∈ guards then none else (next (heap.read cell)).run (⟨cell, false⟩ :: guards) heap
  | .own cell next, guards, heap =>
    if ∃ guard ∈ guards, guard.cell = cell then none
    else (next (heap.read cell)).run (⟨cell, true⟩ :: guards) heap
  | .put cell entries next, guards, heap =>
    if ⟨cell, true⟩ ∈ guards then next.run guards (heap.write cell entries) else none
  | .place cell entries next, guards, heap => next.run guards (heap.write cell entries)
  | .release guard next, guards, heap => next.run (guards.erase guard) heap

/-- Looks at a cell under a shared guard. -/
def look (cell : Handle) (next : Entries → Guarded ρ) : Guarded ρ :=
  .share cell fun entries => .release ⟨cell, false⟩ (next entries)

/-- Changes a cell under an exclusive guard. -/
def change (cell : Handle) (update : Entries → Entries) (next : Entries → Guarded ρ) : Guarded ρ :=
  .own cell fun entries => .put cell (update entries) (.release ⟨cell, true⟩ (next entries))

section

variable {guards : List Guard} {cell : Handle} (hfree : ∀ guard ∈ guards, guard.cell ≠ cell)

include hfree

theorem run_look (next : Entries → Guarded ρ) (heap : Heap) :
    (look cell next).run guards heap = (next (heap.read cell)).run guards heap := by
  have hnot : (⟨cell, true⟩ : Guard) ∉ guards := fun hmem => hfree _ hmem rfl
  rw [look, run, if_neg hnot, run, List.erase_cons_head]

theorem run_change (update : Entries → Entries) (next : Entries → Guarded ρ) (heap : Heap) :
    (change cell update next).run guards heap =
      (next (heap.read cell)).run guards (heap.write cell (update (heap.read cell))) := by
  have hnot : ¬ ∃ guard ∈ guards, guard.cell = cell := fun ⟨guard, hmem, heq⟩ => hfree guard hmem heq
  rw [change, run, if_neg hnot, run, if_pos List.mem_cons_self, run, List.erase_cons_head]

end

/-- Who changes a cell while looking at it waits for itself. -/
theorem run_change_inside_share (cell : Handle) (update : Entries → Entries)
    (next : Entries → Entries → Guarded ρ) (guards : List Guard) (heap : Heap) :
    (share cell fun seen => change cell update (next seen)).run guards heap = none := by
  rw [run]
  split
  · rfl
  · rw [change, run, if_pos ⟨_, List.mem_cons_self, rfl⟩]

end Guarded

namespace Store

variable (s : Store)

/-- A computation on the cell that a name stands for. -/
def guardedAt (name : String) (work : Handle → Guarded Reply) : Guarded Reply :=
  match s.names.get? name with
  | none => .finish .unknownName
  | some h => work h

/-- An answer to a question about a cell. -/
def guardedAsk (name : String) (answer : Entries → Reply) : Guarded Reply :=
  s.guardedAt name fun h => .look h fun entries => .finish (answer entries)

/-- The storing of a value, which is serialized first. -/
def guardedInsert (h : Handle) (key : String) (value : Datum) : Guarded Reply :=
  match Entries.prepare key value with
  | .error failure => .finish (.failed failure)
  | .ok json => .change h (·.insert key json) fun before => .finish (.value (before.get? key))

/-- An operation with the guards that it takes. -/
def guarded : Operation → Guarded Reply
  | .create _ entries => .place ⟨0, s.made⟩ entries (.finish .done)
  | .clone source _ => s.guardedAt source fun _ => .finish .done
  | .fork source _ =>
    s.guardedAt source fun h => .look h fun entries => .place ⟨0, s.made⟩ entries (.finish .done)
  | .drop name => s.guardedAt name fun _ => .finish .done
  | .insert name key value => s.guardedAt name fun h => guardedInsert h key value
  | .insertContext name key source =>
    s.guardedAt name fun h => s.guardedAt source fun other =>
      .look other fun entries => guardedInsert h key (.json (.ofDictionary entries))
  | .remove name key =>
    s.guardedAt name fun h =>
      .change h (·.erase key) fun before => .finish (.value (before.get? key))
  | .get name key => s.guardedAsk name fun entries => .value (entries.get? key)
  | .getText name key => s.guardedAsk name fun entries => .text (entries.text? key)
  | .getAs name key schema =>
    s.guardedAsk name fun entries =>
      match entries.read key schema with
      | .ok v => .typed schema v
      | .error failure => .failed failure
  | .contains name key => s.guardedAsk name fun entries => .flag (entries.contains key)
  | .requestId name => s.guardedAsk name fun entries => .text entries.requestId?
  | .size name => s.guardedAsk name fun entries => .count entries.size
  | .isEmpty name => s.guardedAsk name fun entries => .flag entries.isEmpty
  | .entries name => s.guardedAsk name .entries
  | .shares name other =>
    s.guardedAt name fun h => s.guardedAt other fun h' => .finish (.flag (decide (h = h')))

/-- No guard is held of the cells that a name stands for. -/
def FreeAt (guards : List Guard) (name : String) : Prop :=
  ∀ h, s.names.get? name = some h → ∀ guard ∈ guards, guard.cell ≠ h

variable {s} {guards : List Guard}

/-- A computation comes to its end as the given result, with the guards as they were. -/
def EndsAs (guards : List Guard) (heap : Heap) (computation : Guarded Reply) (result : Store × Reply) : Prop :=
  computation.run guards heap = some (result.2, guards, result.1.heap)

theorem endsAs_at {name : String} (hfree : s.FreeAt guards name) {work : Handle → Guarded Reply}
    {work' : Handle → Store × Reply}
    (hwork : ∀ h, (∀ guard ∈ guards, guard.cell ≠ h) → EndsAs guards s.heap (work h) (work' h)) :
    EndsAs guards s.heap (s.guardedAt name work) (s.withHandle name work') := by
  rw [guardedAt, withHandle]
  cases hget : s.names.get? name with
  | none => rfl
  | some h => exact hwork h (hfree h hget)

theorem endsAs_ask {name : String} (hfree : s.FreeAt guards name) (answer : Entries → Reply) :
    EndsAs guards s.heap (s.guardedAsk name answer) (s.ask name answer) :=
  endsAs_at hfree fun _ hcell => Guarded.run_look hcell _ _

theorem endsAs_insert {h : Handle} (hcell : ∀ guard ∈ guards, guard.cell ≠ h) (key : String) (value : Datum) :
    EndsAs guards s.heap (guardedInsert h key value) (s.insert h key value) := by
  rw [guardedInsert, insert]
  cases Entries.prepare key value with
  | error failure => rfl
  | ok json => exact Guarded.run_change hcell _ _ _

/-- An operation waits for nobody where no guard is held of the cells that it goes to. It does there what
it does to the store, and gives back every guard that it took. -/
theorem guarded_endsAs {operation : Operation} (hfree : ∀ name ∈ operation.uses, s.FreeAt guards name) :
    EndsAs guards s.heap (s.guarded operation) (s.apply operation) := by
  cases operation with
  | create name entries => rfl
  | clone source target => exact endsAs_at (hfree _ List.mem_cons_self) fun _ _ => rfl
  | fork source target =>
    exact endsAs_at (hfree _ List.mem_cons_self) fun h hcell => Guarded.run_look hcell _ _
  | drop name => exact endsAs_at (hfree _ List.mem_cons_self) fun _ _ => rfl
  | insert name key value =>
    exact endsAs_at (hfree _ List.mem_cons_self) fun h hcell => endsAs_insert hcell key value
  | insertContext name key source =>
    refine endsAs_at (hfree _ List.mem_cons_self) fun h hcell => ?_
    refine endsAs_at (hfree _ (List.mem_cons_of_mem _ List.mem_cons_self)) fun h' hcell' => ?_
    -- The guard of the source is given back before that of the target is asked for, so the two may be one.
    exact (Guarded.run_look hcell' _ _).trans (endsAs_insert hcell key _)
  | remove name key =>
    exact endsAs_at (hfree _ List.mem_cons_self) fun h hcell => Guarded.run_change hcell _ _ _
  | shares name other =>
    exact endsAs_at (hfree _ List.mem_cons_self) fun h _ =>
      endsAs_at (hfree _ (List.mem_cons_of_mem _ List.mem_cons_self)) fun _ _ => rfl
  | _ => exact endsAs_ask (hfree _ List.mem_cons_self) _

end Store

end RequestScope
