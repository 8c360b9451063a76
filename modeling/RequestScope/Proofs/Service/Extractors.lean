import RequestScope.Proofs.Extent.Accounts
import RequestScope.Service.ContextLayer
import RequestScope.Service.Lookup

/-!
# What the extractors find

A handler comes to the context of its request by four ways: it is the current one, the request carries it,
and it is what either of the two extractors finds. This module says what they find on any machine, and where
in a run all four are ways to one context: in the extent of the layer that was called last.
-/

namespace RequestScope

/-! ### Machines that look the same -/

/-- Two machines that differ at most in how the same cells were written. -/
structure Machine.Matches {ε ρ : Type} (s s' : Machine ε ρ) : Prop where
  session : s'.session = s.session
  slot : s'.world.slot = s.world.slot
  lent : s'.world.lent = s.world.lent
  read : ∀ h, s'.world.heap.read h = s.world.heap.read h

namespace Machine

variable {ε ρ : Type} {s s' s'' : Machine ε ρ}

theorem Matches.refl (s : Machine ε ρ) : s.Matches s := ⟨rfl, rfl, rfl, fun _ => rfl⟩

theorem Matches.trans (h : s.Matches s') (h' : s'.Matches s'') : s.Matches s'' :=
  ⟨h'.session.trans h.session, h'.slot.trans h.slot, h'.lent.trans h.lent,
    fun own => (h'.read own).trans (h.read own)⟩

theorem Matches.find? (h : s.Matches s') (target : Target) : s'.find? target = s.find? target := by
  cases target with
  | current => exact h.slot
  | lent => exact congrArg List.head? h.lent
  | register name => exact congrArg (·.registers.get? name) h.session

theorem read_modify (s : Machine ε ρ) (own h : Handle) (change : Entries → Entries) :
    (s.modify own change).world.heap.read h =
      if own = h then change (s.world.heap.read own) else s.world.heap.read h :=
  Heap.read_write _ _ _ _

theorem find?_modify (s : Machine ε ρ) (own : Handle) (change : Entries → Entries) (target : Target) :
    (s.modify own change).find? target = s.find? target := by
  cases target <;> rfl

theorem matches_modify_id (s : Machine ε ρ) (own : Handle) : s.Matches (s.modify own id) := by
  refine ⟨rfl, rfl, rfl, fun h => ?_⟩
  rw [read_modify]
  split
  · rename_i heq
    rw [heq, id]
  · rfl

end Machine

/-! ### The extractors -/

namespace Work

variable (s : Machine LogRecord Outcome)

/-- The context of the innermost extent, or else the one that the request carries. -/
def found? : Option Target :=
  if (s.find? .current).isSome then some .current
  else if (s.find? carried).isSome then some carried
  else none

/-- Both extractors find one context or none. The one that may find none then says so, and the other one
fails. -/
def ExtractorsAgree : Prop :=
  ∃ found s', s.Matches s' ∧ found.bind s.find? = (s.find? .current).or (s.find? carried) ∧
    (found = none ↔ s.find? .current = none ∧ s.find? carried = none) ∧
    ∀ again,
      (∀ next, (optionalContext next).poll again s = (next found).poll again s') ∧
      ∀ next, (requiredContext next).poll again s =
        match found with
        | some target => (next target).poll again s'
        | none => (.done (.returned (.failure noContext)), s')

theorem exists_poll_probe (target : Target) :
    ∃ s', s.Matches s' ∧ ∀ again next,
      (probe target next).poll again s = (next (s.find? target).isSome).poll again s' := by
  cases hfind : s.find? target with
  | none =>
    refine ⟨s, .refl s, fun again next => ?_⟩
    rw [probe, Program.inspect, Program.poll, hfind]
    rfl
  | some h =>
    refine ⟨s.modify h id, s.matches_modify_id h, fun again next => ?_⟩
    rw [probe, Program.inspect, Program.poll, hfind]
    rfl

theorem exists_poll_optionalContext :
    ∃ s', s.Matches s' ∧ ∀ again next,
      (optionalContext next).poll again s = (next (found? s)).poll again s' := by
  obtain ⟨s', hs', hprobe⟩ := exists_poll_probe s .current
  cases hcurrent : (s.find? .current).isSome with
  | true =>
    refine ⟨s', hs', fun again next => ?_⟩
    simp only [optionalContext, hprobe, hcurrent, found?, if_true]
  | false =>
    obtain ⟨s'', hs'', hprobe'⟩ := exists_poll_probe s' carried
    refine ⟨s'', hs'.trans hs'', fun again next => ?_⟩
    simp only [optionalContext, hprobe, hcurrent, hprobe', hs'.find?, found?]
    cases (s.find? carried).isSome with
    | true => rfl
    | false => rfl

theorem found?_spec : (found? s).bind s.find? = (s.find? .current).or (s.find? carried) ∧
    (found? s = none ↔ s.find? .current = none ∧ s.find? carried = none) := by
  cases hcurrent : s.find? .current with
  | some own => simp [found?, hcurrent]
  | none =>
    cases hcarried : s.find? carried with
    | some own => simp [found?, hcurrent, hcarried]
    | none => simp [found?, hcurrent, hcarried]

theorem extractorsAgree : ExtractorsAgree s := by
  obtain ⟨s', hs', hoptional⟩ := exists_poll_optionalContext s
  obtain ⟨hfound, hnone⟩ := found?_spec s
  refine ⟨found? s, s', hs', hfound, hnone, fun again => ⟨hoptional again, fun next => ?_⟩⟩
  rw [requiredContext, hoptional]
  cases found? s with
  | none => rfl
  | some target => rfl

/-- The extractors themselves put nothing into a register. -/
theorem optionalContext_putsBy {register : String} {calls : (m : Mode) → Program LogRecord Outcome m → Prop}
    {next : Option Target → Work} (hnext : ∀ found, (next found).PutsBy register calls) :
    (optionalContext next).PutsBy register calls := by
  have hprobe (target : Target) {next : Bool → Work} (hnext : ∀ found, (next found).PutsBy register calls) :
      (probe target next).PutsBy register calls := fun entries => hnext entries.isSome
  refine hprobe .current fun found => ?_
  cases found with
  | true => exact hnext (some .current)
  | false =>
    refine hprobe carried fun found => ?_
    cases found with
    | true => exact hnext (some carried)
    | false => exact hnext none

theorem requiredContext_putsBy {register : String} {calls : (m : Mode) → Program LogRecord Outcome m → Prop}
    {next : Target → Work} (hnext : ∀ target, (next target).PutsBy register calls) :
    (requiredContext next).PutsBy register calls := by
  refine optionalContext_putsBy fun found => ?_
  cases found with
  | none => trivial
  | some target => exact hnext target

/-! ### Four ways to a context -/

inductive Way
  | ambient
  | extension
  | required
  | optional

/-- Goes on with the context that the way leads to; a way that leads nowhere ends elsewhere. -/
def Way.reach (way : Way) (next : Target → Work) (absent : Work) : Work :=
  match way with
  | .ambient => next .current
  | .extension => next carried
  | .required => requiredContext next
  | .optional => optionalContext fun
    | some target => next target
    | none => absent

/-- All ways lead to one context: what is inserted by one of them is what is read by all. -/
structure OneContext (own : Handle) : Prop where
  reach : ∀ way : Way, ∃ target s', s.Matches s' ∧ s.find? target = some own ∧
    ∀ again next absent, (way.reach next absent).poll again s = (next target).poll again s'
  insert : ∀ (inserting reading : Way) key value, ∃ s',
    (∀ h, s'.world.heap.read h =
      if own = h then (s.world.heap.read own).insert key value else s.world.heap.read h) ∧
    ∀ again next absent,
      (inserting.reach (fun target => .insert target key value fun _ =>
        reading.reach (fun target => .inspect target next) absent) absent).poll again s =
          (next (some ((s.world.heap.read own).insert key value))).poll again s'

variable {s} {own : Handle}

theorem exists_poll_reach (hcurrent : s.find? .current = some own) (hcarried : s.find? carried = some own)
    (way : Way) : ∃ target s', s.Matches s' ∧ s.find? target = some own ∧
      ∀ again next absent, (way.reach next absent).poll again s = (next target).poll again s' := by
  obtain ⟨s', hs', hoptional⟩ := exists_poll_optionalContext s
  have hfound : found? s = some .current := by simp [found?, hcurrent]
  rw [hfound] at hoptional
  cases way with
  | ambient => exact ⟨.current, s, .refl s, hcurrent, fun _ _ _ => rfl⟩
  | extension => exact ⟨carried, s, .refl s, hcarried, fun _ _ _ => rfl⟩
  | required =>
    refine ⟨.current, s', hs', hcurrent, fun again next absent => ?_⟩
    rw [Way.reach, requiredContext, hoptional]
  | optional =>
    refine ⟨.current, s', hs', hcurrent, fun again next absent => ?_⟩
    rw [Way.reach, hoptional]

theorem poll_access {target : Target} (hfind : s.find? target = some own) (change : Entries → Entries) (again)
    (next : Option Entries → Work) :
    (Program.access target change next).poll again s =
      (next (some (s.world.heap.read own))).poll again (s.modify own change) := by
  rw [Program.poll, hfind]

theorem oneContext (hcurrent : s.find? .current = some own) (hcarried : s.find? carried = some own) :
    OneContext s own := by
  refine ⟨exists_poll_reach hcurrent hcarried, fun inserting reading key value => ?_⟩
  obtain ⟨target, s₁, hs₁, htarget, hinserting⟩ := exists_poll_reach hcurrent hcarried inserting
  let s₂ := s₁.modify own (·.insert key value)
  have hfind (target : Target) : s₂.find? target = s.find? target :=
    (s₁.find?_modify own _ target).trans (hs₁.find? target)
  obtain ⟨target', s₃, hs₃, htarget', hreading⟩ :=
    exists_poll_reach ((hfind .current).trans hcurrent) ((hfind carried).trans hcarried) reading
  have hread (h : Handle) : s₃.world.heap.read h =
      if own = h then (s.world.heap.read own).insert key value else s.world.heap.read h := by
    rw [hs₃.read, Machine.read_modify, hs₁.read, hs₁.read]
  refine ⟨s₃.modify own id, fun h => ?_, fun again next absent => ?_⟩
  · rw [(s₃.matches_modify_id own).read, hread]
  · rw [hinserting, Program.insert, poll_access ((hs₁.find? target).trans htarget), hreading,
      Program.inspect, poll_access ((hs₃.find? target').trans htarget'), hread, if_pos rfl]

end Work

namespace ContextLayer

/-- The programs of calls of a context layer, with anything behind the call. -/
inductive IsCall : (m : Mode) → Program LogRecord Outcome m → Prop
  | around (layer : ContextLayer) (ids : IdSupply) (inner : Service) (request : Http.Request)
      (next : Outcome → Work) : IsCall .async ((layer.around ids inner request).bind next)

theorem IsCall.bind {m : Mode} (program : Program LogRecord Outcome m)
    (next : Outcome → Program LogRecord Outcome m) (h : IsCall m program) : IsCall m (program.bind next) := by
  cases h with
  | around layer ids inner request rest =>
    exact .around layer ids inner request fun outcome => (rest outcome).bind next

theorem release_putsBy (layer : ContextLayer) (id : Option String) (outcome : Outcome) :
    (layer.release id outcome).PutsBy "carried" IsCall := by
  cases outcome with
  | response r =>
    change (layer.echoId id r).PutsBy "carried" IsCall
    unfold echoId
    split
    · split
      · trivial
      · trivial
    · trivial
  | failure f => trivial
  | value v => trivial

/-- A layer may stand around whatever it stands around by itself. -/
theorem around_putsBy (layer : ContextLayer) (ids : IdSupply) {inner : Service} {request : Http.Request}
    (hinner : (inner request).PutsBy "carried" IsCall) :
    (layer.around ids inner request).PutsBy "carried" IsCall := by
  refine ⟨fun _ => .around layer ids inner request .ret, ?_, fun _ => trivial⟩
  exact Program.PutsBy.bind hinner (layer.release_putsBy _) IsCall.bind

/-- The context of the chain's innermost extent is the current one, and there is none outside all extents. -/
theorem find?_current_of_binds {point : Point LogRecord Outcome} (hbinds : point.chain.Binds) :
    match point.chain.extents with
    | [] => point.machine.find? .current = none
    | own :: _ => own ≠ none ∧ point.machine.find? .current = own := by
  obtain ⟨program, ⟨extents, lent⟩, x⟩ := point
  cases extents with
  | nil => rfl
  | cons own outer => exact ⟨hbinds own List.mem_cons_self, rfl⟩

theorem isSome_created?_iff {point : Point LogRecord Outcome} (hputs : point.program.PutsBy "carried" IsCall) :
    (point.created? "carried").isSome ↔ IsCall point.mode point.program := by
  constructor
  · intro hsome
    obtain ⟨own, hcreated⟩ := Option.isSome_iff_exists.mp hsome
    exact Point.calls_of_created hputs hcreated
  · intro hcall
    obtain ⟨program, chain, x⟩ := point
    cases hcall with
    | around layer ids inner request next => rfl

/-- In every run of a program in which layers alone give contexts to the request, at every point: both
extractors find the context of the innermost extent, outside all extents the one that the request carries,
and where there is neither, the one says so and the other fails as an internal error. What the request
carries is the context of the layer that was called last. In the extent of that context and in no further
one, all ways lead to it. The points tell all that the run reports. -/
theorem extractors_agree_throughout (program : Work) (hputs : program.PutsBy "carried" IsCall) (number : Nat)
    (turns : List Turn) (depth : Nat) (schedule : List (Choice × Heap)) :
    let run := (Process.ofProgram number turns program).journey depth schedule
    Work.noContext.response.status = .internalServerError ∧ run.2.events = Point.reports run.1 ∧
    ∀ before point rest, run.1 = before ++ point :: rest →
      let s := point.machine
      let latest := Point.lastCreated "carried" before
      Work.ExtractorsAgree s ∧
      (match point.chain.extents with
        | [] => s.find? .current = none
        | own :: _ => own ≠ none ∧ s.find? .current = own) ∧
      ((point.created? "carried").isSome ↔ IsCall point.mode point.program) ∧
      s.find? carried = latest ∧
      ∀ own outer, latest = some own → point.chain.extents = some own :: outer → Work.OneContext s own := by
  intro run
  obtain ⟨hevents, hpoints⟩ := Process.journey_holds hputs number turns depth schedule
  refine ⟨rfl, hevents, fun before point rest hrun => ?_⟩
  intro s latest
  obtain ⟨hcarried, hprogram, hbinds⟩ := hpoints before point rest hrun
  refine ⟨Work.extractorsAgree s, find?_current_of_binds hbinds, isSome_created?_iff hprogram, hcarried, ?_⟩
  intro own outer hlatest hextents
  have hcurrent : s.find? .current = some own := by
    change point.chain.extents.head?.join = some own
    rw [hextents]
    rfl
  exact Work.oneContext hcurrent (hcarried.trans hlatest)

/-- A handler inside two layers goes on after a suspension. -/
theorem extractors_agree_stacked :
    let layer : ContextLayer := {}
    let ids := IdSupply.ofSource fun _ _ => ""
    let handler : Service := fun _ =>
      .pause (Work.requiredContext fun target => .insert target "key" .null fun _ => .ret (.value .null))
    let request : Http.Request := ⟨"GET", ⟨"/", none⟩, [], []⟩
    let program := layer.around ids (layer.around ids handler) request
    let run := (Process.ofProgram 0 [] program).journey 0 [(.root, .empty), (.root, .empty)]
    program.PutsBy "carried" IsCall ∧ ∃ before point rest, run.1 = before ++ point :: rest ∧
      point.chain.extents = [some ⟨0, 1⟩, some ⟨0, 0⟩] ∧ Work.OneContext point.machine ⟨0, 1⟩ := by
  intro layer ids handler request program run
  have hputs : program.PutsBy "carried" IsCall := by
    refine layer.around_putsBy ids (layer.around_putsBy ids ?_)
    exact Work.requiredContext_putsBy fun target _ => trivial
  have hget : run.1[7]?.map (·.chain.extents) = some [some ⟨0, 1⟩, some ⟨0, 0⟩] := by decide +kernel
  obtain ⟨point, hpoint, hextents⟩ := Option.map_eq_some_iff.mp hget
  obtain ⟨hlength, rfl⟩ := List.getElem?_eq_some_iff.mp hpoint
  have hrun : run.1 = run.1.take 7 ++ run.1[7] :: run.1.drop 8 := by
    rw [← List.drop_eq_getElem_cons, List.take_append_drop]
  have hlatest : Point.lastCreated "carried" (run.1.take 7) = some ⟨0, 1⟩ := by decide +kernel
  obtain ⟨-, -, hpoints⟩ := extractors_agree_throughout program hputs 0 [] 0 [(.root, .empty), (.root, .empty)]
  obtain ⟨-, -, -, -, hone⟩ := hpoints _ _ _ hrun
  exact ⟨hputs, _, _, _, hrun, hextents, hone _ _ hlatest hextents⟩

end ContextLayer

end RequestScope
