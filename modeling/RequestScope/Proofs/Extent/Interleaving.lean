import RequestScope.Proofs.Extent.Ownership

/-!
# Processes side by side

Several processes of one thread are polled in any order. A schedule names, for each poll, the process
and what is polled of it; `Process.choicesFor` picks out what concerns one of them. Since polls are
private, a process cannot tell this schedule from the one in which it is alone, and neither can it tell
the rounds of `finishAll` from its own.
-/

namespace RequestScope

variable {ε ρ : Type}

namespace Process

/-- A process that has only what is its own. -/
structure Sound (id : Nat) (p : Process ε ρ) : Prop where
  session : p.session.Sound id
  root : OwnedBy id p.root.Holds

theorem Sound.owned {id : Nat} {p : Process ε ρ} (hsound : p.Sound id) : OwnedBy id p.Holds :=
  fun h hholds => hholds.elim (hsound.root h) (hsound.session.owned h)

theorem ofProgram_sound (id : Nat) (turns : List Turn) (program : Program ε ρ .async) :
    (ofProgram id turns program).Sound id := by
  refine ⟨⟨rfl, ?_⟩, .ready program⟩
  rintro h (⟨name, hget⟩ | ⟨name, wrapped, hget, -⟩ | ⟨progress, hmem, -⟩)
  · cases hget
  · cases hget
  · cases hmem

theorem advanceIn_private {id : Nat} (depth : Nat) {progress : Progress ε ρ}
    (hprogress : OwnedBy id progress.Holds) :
    Private id (advanceIn depth progress) fun progress => OwnedBy id progress.Holds := by
  cases progress with
  | ended exit => exact .of_pure hprogress
  | running future =>
    refine (future.pollInAt_private depth hprogress).bind fun result hresult => ?_
    cases result with
    | done exit => exact .of_pure (.none id)
    | pending future => exact .of_pure hresult

theorem stepIn_private {id : Nat} {p : Process ε ρ} (hsound : p.Sound id) {heap heap' : Heap}
    (hagree : heap.AgreeOn id heap') (depth : Nat) (choice : Choice) :
    (p.stepIn depth choice heap).1 = (p.stepIn depth choice heap').1 ∧
      (p.stepIn depth choice heap).1.Sound id ∧
      (p.stepIn depth choice heap).2.AgreeOn id (p.stepIn depth choice heap').2 ∧
      (p.stepIn depth choice heap).2.AgreeOff id heap := by
  have houtside : OwnedBy id (CallChain.Holds {}) := by
    rintro h (hextent | hlent)
    · cases hextent
    · cases hlent
  have halike : Alike id ⟨heap, p.session⟩ ⟨heap', p.session⟩ := ⟨rfl, hsound.session, hagree⟩
  cases choice with
  | root =>
    obtain ⟨heq, howned, halike', hoff⟩ := advanceIn_private depth hsound.root {} _ _ houtside halike
    have hsame := congr (congrArg mk heq) halike'.session_eq
    exact ⟨hsame, ⟨halike'.sound, howned⟩, halike'.agree, hoff⟩
  | task number =>
    rw [stepIn, stepIn]
    cases hget : p.session.tasks[number]? with
    | none => exact ⟨rfl, hsound, hagree, fun _ _ => rfl⟩
    | some progress =>
      have hprogress := hsound.session.of_task (List.mem_of_getElem? hget)
      obtain ⟨heq, howned, halike', hoff⟩ := advanceIn_private depth hprogress {} _ _ houtside halike
      let put (progress : Progress ε ρ) (s : Session ε ρ) : Process ε ρ :=
        { p with session := { s with tasks := s.tasks.set number progress } }
      have hsame := congr (congrArg put heq) halike'.session_eq
      refine ⟨hsame, ⟨?_, hsound.root⟩, halike'.agree, hoff⟩
      refine halike'.sound.withTasks (fun progress hmem => ?_) _
      rcases List.mem_or_eq_of_mem_set hmem with hmem | rfl
      · exact halike'.sound.of_task hmem
      · exact howned

/-! ### Ways to go on with a process -/

/-- A way to go on with a process. -/
abbrev Way (ε ρ : Type) := Process ε ρ → World → Process ε ρ × World

/-- A way that depends on the cells of the owner and on no others, changes the cells of the owner and
no others, and leaves the slot empty. -/
def Confined (id : Nat) (run : Way ε ρ) : Prop :=
  ∀ p heap heap', p.Sound id → heap.AgreeOn id heap' →
    ∃ p' after after', run p { heap } = (p', { heap := after }) ∧
      run p { heap := heap' } = (p', { heap := after' }) ∧
      p'.Sound id ∧ after.AgreeOn id after' ∧ after.AgreeOff id heap

theorem Confined.stay (id : Nat) : Confined (ε := ε) (ρ := ρ) id Prod.mk :=
  fun p heap heap' hsound hagree => ⟨p, heap, heap', rfl, rfl, hsound, hagree, fun _ _ => rfl⟩

theorem Confined.bind {id : Nat} {run next : Way ε ρ} (hrun : Confined id run)
    (hnext : Confined id next) : Confined id fun p world => next (run p world).1 (run p world).2 := by
  intro p heap heap' hsound hagree
  obtain ⟨p', after, after', heq, heq', hsound', hagree', hoff⟩ := hrun p heap heap' hsound hagree
  obtain ⟨p'', last, last', hlast, hlast', hsound'', hagree'', hoff'⟩ :=
    hnext p' after after' hsound' hagree'
  refine ⟨p'', last, last', ?_, ?_, hsound'', hagree'', fun h hother => ?_⟩
  · simp only [heq, hlast]
  · simp only [heq', hlast']
  · exact (hoff' h hother).trans (hoff h hother)

theorem step_confined (id depth : Nat) (choice : Choice) :
    Confined (ε := ε) (ρ := ρ) id (step depth choice) := by
  intro p heap heap' hsound hagree
  obtain ⟨heq, hsound', hagree', hoff⟩ := stepIn_private hsound hagree depth choice
  refine ⟨_, _, _, step_machine .., ?_, hsound', hagree', hoff⟩
  rw [step_machine, heq]

theorem follow_confined (id depth : Nat) (schedule : List Choice) :
    Confined (ε := ε) (ρ := ρ) id (follow depth schedule) := by
  induction schedule with
  | nil => exact .stay id
  | cons choice schedule ih => exact (step_confined id depth choice).bind ih

theorem round_confined (id depth : Nat) : Confined (ε := ε) (ρ := ρ) id (round depth) := by
  have htasks : Confined (ε := ε) (ρ := ρ) id fun p world =>
      if p.root.isEnded then (p, world) else p.pollTasks depth world := by
    intro p heap heap' hsound hagree
    by_cases hended : p.root.isEnded
    · simp only [if_pos hended]
      exact Confined.stay id p heap heap' hsound hagree
    · simp only [if_neg hended]
      exact follow_confined id depth _ p heap heap' hsound hagree
  exact (step_confined id depth .root).bind htasks

/-! ### One process among several -/

/-- Goes on with one of several processes. -/
def among (run : Way ε ρ) (number : Nat) (processes : List (Process ε ρ)) (world : World) :
    List (Process ε ρ) × World :=
  match processes[number]? with
  | none => (processes, world)
  | some p =>
    let (p, world) := run p world
    (processes.set number p, world)

/-- Goes on with several processes in turn. -/
def amongAll (run : Way ε ρ) : List Nat → List (Process ε ρ) → World →
    List (Process ε ρ) × World
  | [], processes, world => (processes, world)
  | number :: numbers, processes, world =>
    let (processes, world) := among run number processes world
    amongAll run numbers processes world

/-- Follows a schedule of several processes. -/
def followAmong (depth : Nat) : List (Nat × Choice) → List (Process ε ρ) → World →
    List (Process ε ρ) × World
  | [], processes, world => (processes, world)
  | (number, choice) :: schedule, processes, world =>
    let (processes, world) := among (step depth choice) number processes world
    followAmong depth schedule processes world

/-- What concerns one process in a schedule of several. -/
def choicesFor (number : Nat) (schedule : List (Nat × Choice)) : List Choice :=
  schedule.filterMap fun (number', choice) => if number' = number then some choice else none

/-- Processes that are numbered and have only what is their own. -/
def AllSound (processes : List (Process ε ρ)) : Prop :=
  ∀ number (p : Process ε ρ), processes[number]? = some p → p.Sound number

theorem AllSound.set {processes : List (Process ε ρ)} (hsound : AllSound processes) {number : Nat}
    {p : Process ε ρ} (hp : p.Sound number) : AllSound (processes.set number p) := by
  intro number' p' hget
  rw [List.getElem?_set] at hget
  split at hget
  · rename_i hsame
    subst hsame
    split at hget
    · cases hget
      exact hp
    · cases hget
  · exact hsound number' p' hget

section

variable {number : Nat} {processes : List (Process ε ρ)} {run : Way ε ρ}

theorem among_none (hget : processes[number]? = none) (world : World) :
    among run number processes world = (processes, world) := by
  rw [among, hget]

theorem among_some {p p' : Process ε ρ} {world world' : World} (hget : processes[number]? = some p)
    (hrun : run p world = (p', world')) :
    among run number processes world = (processes.set number p', world') := by
  simp only [among, hget, hrun]

theorem among_sound (hsound : AllSound processes) (hrun : Confined number run) (heap : Heap) :
    ∃ processes' after, among run number processes { heap } = (processes', { heap := after }) ∧
      AllSound processes' := by
  cases hget : processes[number]? with
  | none => exact ⟨processes, heap, among_none hget _, hsound⟩
  | some p =>
    obtain ⟨p', after, -, heq, -, hsound', -, -⟩ :=
      hrun p heap heap (hsound number p hget) (.refl number heap)
    exact ⟨processes.set number p', after, among_some hget heq, hsound.set hsound'⟩

end

theorem followAmong_sound (depth : Nat) (schedule : List (Nat × Choice))
    {processes : List (Process ε ρ)} (hsound : AllSound processes) (heap : Heap) :
    AllSound (followAmong depth schedule processes { heap }).1 := by
  induction schedule generalizing processes heap with
  | nil => exact hsound
  | cons choice schedule ih =>
    obtain ⟨number, choice⟩ := choice
    obtain ⟨processes', after, hstep, hsound'⟩ :=
      among_sound hsound (step_confined number depth choice) heap
    rw [followAmong, hstep]
    exact ih hsound' after

/-- A process among others looks as it looks alone. -/
structure Accompanied (number : Nat) (processes : List (Process ε ρ)) (heap : Heap) (p : Process ε ρ)
    (alone : Heap) : Prop where
  sound : AllSound processes
  get : processes[number]? = some p
  agree : heap.AgreeOn number alone

namespace Accompanied

variable {number : Nat} {processes : List (Process ε ρ)} {heap : Heap} {p : Process ε ρ}
  {alone : Heap} {run : Way ε ρ}

theorem self (h : Accompanied number processes heap p alone) (hrun : Confined number run) :
    ∃ processes' after p' after',
      among run number processes { heap } = (processes', { heap := after }) ∧
      run p { heap := alone } = (p', { heap := after' }) ∧
      Accompanied number processes' after p' after' := by
  obtain ⟨p', after, after', heq, halone, hsound, hagree, -⟩ :=
    hrun p heap alone (h.sound number p h.get) h.agree
  have hlt : number < processes.length := (List.getElem?_eq_some_iff.mp h.get).1
  exact ⟨processes.set number p', after, p', after', among_some h.get heq, halone, h.sound.set hsound,
    List.getElem?_set_self hlt, hagree⟩

theorem other (h : Accompanied number processes heap p alone) {number' : Nat} (hne : number' ≠ number)
    (hrun : Confined number' run) :
    ∃ processes' after, among run number' processes { heap } = (processes', { heap := after }) ∧
      Accompanied number processes' after p alone := by
  cases hget : processes[number']? with
  | none => exact ⟨processes, heap, among_none hget _, h⟩
  | some p' =>
    obtain ⟨p'', after, -, heq, -, hsound, -, hoff⟩ :=
      hrun p' heap heap (h.sound number' p' hget) (.refl number' heap)
    refine ⟨processes.set number' p'', after, among_some hget heq, h.sound.set hsound, ?_,
      fun h' hown => ?_⟩
    · rw [List.getElem?_set_ne hne]
      exact h.get
    · have hother : h'.owner ≠ number' := fun heq => hne (heq.symm.trans hown)
      exact (hoff h' hother).trans (h.agree h' hown)

/-- A process among others follows its own choices as it follows them alone. -/
theorem follow (h : Accompanied number processes heap p alone) (depth : Nat)
    (schedule : List (Nat × Choice)) :
    ∃ processes' after p' after',
      followAmong depth schedule processes { heap } = (processes', { heap := after }) ∧
      p.follow depth (choicesFor number schedule) { heap := alone } = (p', { heap := after' }) ∧
      Accompanied number processes' after p' after' := by
  induction schedule generalizing processes heap p alone with
  | nil => exact ⟨processes, heap, p, alone, rfl, rfl, h⟩
  | cons choice schedule ih =>
    obtain ⟨number', choice⟩ := choice
    by_cases hmine : number' = number
    · subst hmine
      obtain ⟨processes', after, p', after', hamong, halone, h'⟩ :=
        h.self (step_confined number' depth choice)
      have hchoices : choicesFor number' ((number', choice) :: schedule) =
          choice :: choicesFor number' schedule := by
        simp [choicesFor]
      rw [followAmong, hchoices, Process.follow, hamong, halone]
      exact ih h'
    · obtain ⟨processes', after, hamong, h'⟩ := h.other hmine (step_confined number' depth choice)
      have hchoices :
          choicesFor number ((number', choice) :: schedule) = choicesFor number schedule := by
        simp [choicesFor, hmine]
      rw [followAmong, hchoices, hamong]
      exact ih h'

/-- When each of some processes goes on, those go on that are among them, and they go on as they do
alone. -/
theorem sweep (h : Accompanied number processes heap p alone) (hrun : ∀ id, Confined id run)
    {numbers : List Nat} (hnodup : numbers.Nodup) :
    ∃ processes' after p' after',
      amongAll run numbers processes { heap } = (processes', { heap := after }) ∧
      (if number ∈ numbers then run p { heap := alone } else (p, { heap := alone })) =
        (p', { heap := after' }) ∧
      Accompanied number processes' after p' after' := by
  induction numbers generalizing processes heap p alone with
  | nil => exact ⟨processes, heap, p, alone, rfl, rfl, h⟩
  | cons number' numbers ih =>
    -- The process goes on when its number comes, and then never again, as numbers do not repeat.
    obtain ⟨hnotin, hnodup⟩ := List.nodup_cons.mp hnodup
    by_cases hmine : number' = number
    · subst hmine
      obtain ⟨processes', after, p', after', hamong, halone, h'⟩ := h.self (hrun number')
      obtain ⟨processes'', after'', p'', after''', hsweep, hrest, h''⟩ := ih h' hnodup
      rw [if_neg hnotin] at hrest
      refine ⟨processes'', after'', p'', after''', ?_, ?_, h''⟩
      · rw [amongAll, hamong]
        exact hsweep
      · rw [if_pos List.mem_cons_self, halone, hrest]
    · obtain ⟨processes', after, hamong, h'⟩ := h.other hmine (hrun number')
      obtain ⟨processes'', after'', p'', after''', hsweep, hrest, h''⟩ := ih h' hnodup
      refine ⟨processes'', after'', p'', after''', ?_, ?_, h''⟩
      · rw [amongAll, hamong]
        exact hsweep
      · simp only [List.mem_cons, Ne.symm hmine, false_or, hrest]

end Accompanied

/-! ### Rounds -/

theorem finish_isOver {p : Process ε ρ} (hover : p.isOver = true) (depth rounds : Nat)
    (world : World) : p.finish depth rounds world = (p, world) := by
  cases rounds with
  | zero => rfl
  | succ rounds => rw [finish, if_pos hover]

theorem round_isOver {p : Process ε ρ} (hover : p.isOver = true) (depth : Nat) (world : World) :
    p.round depth world = (p, world) := by
  obtain ⟨root, session⟩ := p
  cases root with
  | running future => cases hover
  | ended exit => rfl

theorem finish_succ (p : Process ε ρ) (depth rounds : Nat) (world : World) :
    p.finish depth (rounds + 1) world =
      (p.round depth world).1.finish depth rounds (p.round depth world).2 := by
  by_cases hover : p.isOver = true
  · rw [round_isOver hover, finish_isOver hover, finish_isOver hover]
  · rw [finish, if_neg hover]

/-- A round of several processes goes on with each in turn. -/
theorem foldl_round (depth : Nat) (done rest : List (Process ε ρ)) (world : World) :
    rest.foldl (fun (done, world) p =>
        let (p, world) := p.round depth world
        (done ++ [p], world)) (done, world) =
      amongAll (round depth) (List.range' done.length rest.length) (done ++ rest) world := by
  induction rest generalizing done world with
  | nil => simp [amongAll]
  | cons p rest ih =>
    have hget : (done ++ p :: rest)[done.length]? = some p := by simp
    have hset (p' : Process ε ρ) :
        (done ++ p :: rest).set done.length p' = (done ++ [p']) ++ rest := by simp
    have hlength (p' : Process ε ρ) : (done ++ [p']).length = done.length + 1 := by simp
    have hround : among (round depth) done.length (done ++ p :: rest) world =
        (done ++ [(p.round depth world).1] ++ rest, (p.round depth world).2) := by
      rw [among_some hget (p.round depth world).eta.symm, hset]
    rw [List.foldl_cons, List.length_cons, List.range'_succ, amongAll, hround]
    rw [← hlength (p.round depth world).1]
    exact ih _ _

end Process

open Process

/-- Served side by side, a process finishes as it finishes alone. -/
theorem finishAll_alone {number : Nat} {processes : List (Process ε ρ)} {heap : Heap} {p : Process ε ρ}
    {alone : Heap} (h : Accompanied number processes heap p alone) (depth rounds : Nat) :
    (finishAll depth rounds processes { heap }).1[number]? =
      some (p.finish depth rounds { heap := alone }).1 := by
  induction rounds generalizing processes heap p alone with
  | zero => exact h.get
  | succ rounds ih =>
    have hmem : p ∈ processes := List.mem_of_getElem? h.get
    have hlt : number < processes.length := (List.getElem?_eq_some_iff.mp h.get).1
    by_cases hall : processes.all isOver
    · have hover : p.isOver = true := List.all_eq_true.mp hall p hmem
      rw [finishAll, if_pos hall, finish_isOver hover]
      exact h.get
    · obtain ⟨processes', after, p', after', hsweep, hround, h'⟩ :=
        h.sweep (round_confined · depth) (List.nodup_range' (s := 0) (n := processes.length))
      rw [if_pos (List.mem_range'_1.mpr ⟨Nat.zero_le _, by omega⟩)] at hround
      have hpass := foldl_round depth [] processes { heap }
      simp only [List.length_nil, List.nil_append, hsweep] at hpass
      rw [finishAll, if_neg hall, hpass, finish_succ, hround]
      exact ih h'

end RequestScope
