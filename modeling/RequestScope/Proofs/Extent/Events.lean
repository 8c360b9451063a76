import RequestScope.Proofs.Extent.Refinement

/-!
# Events are only added

Programs report events and never look at those that were reported before. So a computation that starts
behind some events does what it does without them, and leaves them behind its own. `Heedless` is this
property; every operation has it, computations that are put one behind the other keep it, and so every
poll and every choice of a schedule has it.
-/

namespace RequestScope

variable {ε ρ α β : Type}

/-- The session with events that were reported before its own. -/
def Session.behind (s : Session ε ρ) (past : List ε) : Session ε ρ := { s with events := s.events ++ past }

theorem Session.behind_nil (s : Session ε ρ) : s.behind [] = s := by
  rw [behind, List.append_nil]

def Scene.behind (x : Scene ε ρ) (past : List ε) : Scene ε ρ := { x with session := x.session.behind past }

/-- A computation that does the same whatever was reported before. -/
def Heedless (act : Scoped ε ρ α) : Prop :=
  ∀ chain x past, act chain (x.behind past) = ((act chain x).1, (act chain x).2.behind past)

namespace Heedless

open Scoped

variable {act : Scoped ε ρ α}

theorem of_pure (a : α) : Heedless (pure a : Scoped ε ρ α) := fun _ _ _ => rfl

theorem bind {next : α → Scoped ε ρ β} (hact : Heedless act) (hnext : ∀ a, Heedless (next a)) :
    Heedless (act >>= next) := by
  intro chain x past
  rw [bind_apply, bind_apply, hact chain x past]
  exact hnext _ chain _ past

theorem within (hact : Heedless act) (f : CallChain → CallChain) : Heedless (withReader f act) :=
  fun chain x past => hact (f chain) x past

theorem find? (target : Target) : Heedless (ε := ε) (ρ := ρ) (find? target) := by
  intro chain x past
  cases target <;> rfl

theorem binding (target : Target) : Heedless (ε := ε) (ρ := ρ) (binding target) :=
  (find? target).bind fun _ => of_pure _

theorem update (h : Handle) (change : Entries → Entries) :
    Heedless (ε := ε) (ρ := ρ) (update h change) := fun _ _ _ => rfl

theorem assign (register : String) (h : Handle) : Heedless (ε := ε) (ρ := ρ) (assign register h) :=
  fun _ _ _ => rfl

theorem make (register : String) (entries : Entries) :
    Heedless (ε := ε) (ρ := ρ) (make register entries) := fun _ _ _ => rfl

theorem report (event : ε) : Heedless (ρ := ρ) (report event) := fun _ _ _ => rfl

theorem keep (name : String) (binding : Binding) (body : Program ε ρ .async) :
    Heedless (keep name binding body) := fun _ _ _ => rfl

theorem start (name : String) (binding : Binding) (body : Program ε ρ .async) :
    Heedless (start name binding body) := fun _ _ _ => rfl

theorem takeWrapped? (name : String) : Heedless (ε := ε) (ρ := ρ) (takeWrapped? name) := by
  intro chain x past
  have hwraps : (x.behind past).session.wraps = x.session.wraps := rfl
  rw [Scoped.takeWrapped?, bind_apply, bind_apply, session_apply, session_apply, hwraps]
  cases x.session.wraps.get? name <;> rfl

theorem takeTask? (name : String) : Heedless (ε := ε) (ρ := ρ) (takeTask? name) := by
  intro chain x past
  have hnamed : (x.behind past).session.named = x.session.named := rfl
  rw [Scoped.takeTask?, bind_apply, bind_apply, session_apply, session_apply, hnamed]
  cases x.session.named.get? name <;> rfl

theorem taskExit? (task : Nat) : Heedless (ε := ε) (ρ := ρ) (taskExit? task) := by
  intro chain x past
  have htasks : (x.behind past).session.tasks = x.session.tasks := rfl
  rw [Scoped.taskExit?, bind_apply, bind_apply, session_apply, session_apply, htasks]
  rcases x.session.tasks[task]? with _ | _ | exit <;> rfl

theorem takeTurn : Heedless (ε := ε) (ρ := ρ) takeTurn := by
  intro chain x past
  have hturns : (x.behind past).session.turns = x.session.turns := rfl
  rw [Scoped.takeTurn, bind_apply, bind_apply, session_apply, session_apply, hturns]
  cases x.session.turns <;> rfl

theorem inside {m : Mode} {body : Scoped ε ρ (Poll ε ρ m)} (hbody : Heedless body) (binding : Binding) :
    Heedless (inside binding body) := by
  intro chain x past
  cases binding with
  | free => exact hbody chain x past
  | held own =>
    rw [inside_held, inside_held]
    split
    · rfl
    · exact hbody (chain.enter own) x past

theorem side {poll : Scoped ε ρ (Poll ε ρ .async)} (hpoll : Heedless poll) : Heedless (side poll) :=
  hpoll.bind fun _ => of_pure _

theorem sides {first second : Scoped ε ρ (Poll ε ρ .async)} (hfirst : Heedless first)
    (hsecond : Heedless second) : Heedless (sides first second) := by
  refine hfirst.side.bind fun result => ?_
  cases result with
  | error text => exact of_pure _
  | ok a =>
    refine hsecond.side.bind fun result' => ?_
    cases result' with
    | error text => exact of_pure _
    | ok b => exact of_pure _

theorem pair {pollLeft pollRight : Scoped ε ρ (Poll ε ρ .async)} (hleft : Heedless pollLeft)
    (hright : Heedless pollRight) (left right : Future ε ρ) :
    Heedless (pair pollLeft pollRight left right) := by
  refine takeTurn.bind fun turn => ?_
  cases turn with
  | leftFirst => exact (hleft.sides hright).bind fun _ => of_pure _
  | rightFirst => exact (hright.sides hleft).bind fun _ => of_pure _
  | leftOnly => exact hleft.side.bind fun _ => of_pure _
  | rightOnly => exact hright.side.bind fun _ => of_pure _

theorem times {again : Future ε ρ → Scoped ε ρ (Poll ε ρ .async)}
    (hagain : ∀ future, Heedless (again future)) (polls : Nat) (future : Future ε ρ) :
    Heedless (times again polls future) := by
  induction polls generalizing future with
  | zero => exact of_pure none
  | succ polls ih =>
    refine (hagain future).bind fun result => ?_
    cases result with
    | done exit => exact of_pure _
    | pending future => exact ih future

end Heedless

/-! ### Polls -/

section

open Heedless

variable {againIn : Future ε ρ → Scoped ε ρ (Poll ε ρ .async)}

theorem Program.pollIn_heedless (hagain : ∀ future, Heedless (againIn future)) {m : Mode}
    (program : Program ε ρ m) : Heedless (program.pollIn againIn) := by
  induction program with
  | ret value => exact of_pure _
  | panic text => exact of_pure _
  | emit event next ih => exact (report event).bind fun _ => ih
  | access target change next ih =>
    rw [Program.pollIn]
    refine (find? target).bind fun found => ?_
    cases found with
    | none => exact ih none
    | some h => exact (update h change).bind fun before => ih (some before)
  | hold target register next ih =>
    rw [Program.pollIn]
    refine (find? target).bind fun found => ?_
    cases found with
    | none => exact ih false
    | some h => exact (assign register h).bind fun _ => ih true
  | create register entries next ih => exact (make register entries).bind fun _ => ih
  | shares target other next ih =>
    rw [Program.pollIn]
    refine (find? target).bind fun found => (find? other).bind fun found' => ?_
    cases found with
    | none => exact ih none
    | some h =>
      cases found' with
      | none => exact ih none
      | some h' => exact ih (some (decide (h = h')))
  | withCurrent body next ihbody ih =>
    rw [Program.pollIn]
    refine (find? .current).bind fun found => ?_
    cases found with
    | none => exact ih none
    | some h =>
      refine (ihbody.within (·.lend h)).bind fun result => ?_
      cases result with
      | done exit =>
        cases exit with
        | returned value => exact ih (some value)
        | panicked text => exact of_pure _
  | runSync target body next ihbody ih =>
    rw [Program.pollIn]
    refine (binding target).bind fun binding => (ihbody.inside binding).bind fun result => ?_
    cases result with
    | done exit =>
      cases exit with
      | returned value => exact ih value
      | panicked text => exact of_pure _
  | catchSync body next ihbody ih =>
    rw [Program.pollIn]
    refine ihbody.bind fun result => ?_
    cases result with
    | done exit => exact ih exit
  | run target body next ihbody ih =>
    rw [Program.pollIn]
    refine (binding target).bind fun binding => (ihbody.inside binding).bind fun result => ?_
    cases result with
    | done exit =>
      cases exit with
      | returned value => exact ih value
      | panicked text => exact of_pure _
    | pending future => exact of_pure _
  | catchPanic body next ihbody ih =>
    rw [Program.pollIn]
    refine ihbody.bind fun result => ?_
    cases result with
    | done exit => exact ih exit
    | pending future => exact of_pure _
  | wrap name body next ihbody ih =>
    exact (binding .current).bind fun binding => (keep name binding body).bind fun _ => ih
  | awaitWrapped name next ih =>
    rw [Program.pollIn]
    refine (takeWrapped? name).bind fun found => ?_
    cases found with
    | none => exact of_pure _
    | some wrapped =>
      refine ((hagain (.ready wrapped.2)).inside wrapped.1).bind fun result => ?_
      cases result with
      | done exit =>
        cases exit with
        | returned value => exact ih value
        | panicked text => exact of_pure _
      | pending future => exact of_pure _
  | spawn name wrapped body next ihbody ih =>
    exact (binding .current).bind fun binding => (start name _ body).bind fun _ => ih
  | awaitTask name next ih =>
    rw [Program.pollIn]
    refine (takeTask? name).bind fun found => ?_
    cases found with
    | none => exact of_pure _
    | some task =>
      refine (taskExit? task).bind fun found => ?_
      cases found with
      | none => exact of_pure _
      | some exit => exact ih exit
  | pause next ih => exact of_pure _
  | join left right next ihleft ihright ih =>
    rw [Program.pollIn]
    refine (pair ihleft ihright _ _).bind fun result => ?_
    cases result with
    | both a b => exact ih a b
    | panicked text => exact of_pure _
    | waiting left right => exact of_pure _
  | abandon target polls body next ihbody ih =>
    cases polls with
    | zero =>
      rw [Program.pollIn]
      exact ih none
    | succ polls =>
      rw [Program.pollIn]
      refine (binding target).bind fun binding => (ihbody.inside binding).bind fun result => ?_
      cases result with
      | done exit =>
        cases exit with
        | returned value => exact ih (some value)
        | panicked text => exact of_pure _
      | pending future =>
        refine (times hagain polls _).bind fun found => ?_
        cases found with
        | none => exact ih none
        | some exit =>
          cases exit with
          | returned value => exact ih (some value)
          | panicked text => exact of_pure _

theorem Program.pollIn_emitAll {m : Mode} (events : List ε) (value : ρ) (chain : CallChain)
    (x : Scene ε ρ) :
    (Program.emitAll events (.ret value) : Program ε ρ m).pollIn againIn chain x =
      (.done (.returned value),
        { x with session := { x.session with events := events.reverse ++ x.session.events } }) := by
  induction events generalizing x with
  | nil => rfl
  | cons event events ih =>
    have hemit : (Program.emitAll (event :: events) (.ret value) : Program ε ρ m) =
        .emit event (Program.emitAll events (.ret value)) := rfl
    rw [hemit, Program.pollIn, Scoped.bind_apply, ih, List.reverse_cons, List.append_assoc]
    rfl

theorem Future.pollIn_heedless (hagain : ∀ future, Heedless (againIn future)) (future : Future ε ρ) :
    Heedless (future.pollIn againIn) := by
  induction future with
  | ready program => exact program.pollIn_heedless hagain
  | ended value => exact of_pure _
  | within binding body next ih =>
    refine (ih.inside binding).bind fun result => ?_
    cases result with
    | done exit =>
      cases exit with
      | returned value => exact (next value).pollIn_heedless hagain
      | panicked text => exact of_pure _
    | pending future => exact of_pure _
  | caught body next ih =>
    refine ih.bind fun result => ?_
    cases result with
    | done exit => exact (next exit).pollIn_heedless hagain
    | pending future => exact of_pure _
  | joined left right next ihleft ihright =>
    refine (pair ihleft ihright left right).bind fun result => ?_
    cases result with
    | both a b => exact (next a b).pollIn_heedless hagain
    | panicked text => exact of_pure _
    | waiting left right => exact of_pure _
  | awaiting task next =>
    refine (taskExit? task).bind fun found => ?_
    cases found with
    | none => exact of_pure _
    | some exit => exact (next exit).pollIn_heedless hagain

theorem Future.pollInAt_heedless (depth : Nat) (future : Future ε ρ) :
    Heedless (future.pollInAt depth) := by
  induction depth generalizing future with
  | zero => exact future.pollIn_heedless fun future => of_pure (Poll.pending future)
  | succ depth ih => exact future.pollIn_heedless ih

end

namespace Process

theorem advanceIn_heedless (depth : Nat) (progress : Progress ε ρ) :
    Heedless (advanceIn depth progress) := by
  cases progress with
  | ended exit => exact .of_pure _
  | running future =>
    refine (future.pollInAt_heedless depth).bind fun result => ?_
    cases result with
    | done exit => exact .of_pure _
    | pending future => exact .of_pure _

/-- A poll of a task does the same whatever was reported before, and leaves the root alone. -/
theorem stepIn_task_behind (depth number : Nat) (session : Session ε ρ) (heap : Heap) :
    ∃ (session' : Session ε ρ) (heap' : Heap), ∀ root past,
      (⟨root, session.behind past⟩ : Process ε ρ).stepIn depth (.task number) heap =
        (⟨root, session'.behind past⟩, heap') := by
  have htasks (past : List ε) : (session.behind past).tasks = session.tasks := rfl
  cases hget : session.tasks[number]? with
  | none =>
    refine ⟨session, heap, fun root past => ?_⟩
    rw [stepIn, htasks, hget]
  | some progress =>
    have hadvance (past : List ε) :
        advanceIn depth progress {} ⟨heap, session.behind past⟩ = _ :=
      advanceIn_heedless depth progress {} ⟨heap, session⟩ past
    let x := (advanceIn depth progress {} ⟨heap, session⟩).2
    let put := x.session.tasks.set number (advanceIn depth progress {} ⟨heap, session⟩).1
    refine ⟨{ x.session with tasks := put }, x.heap, fun root past => ?_⟩
    rw [stepIn, htasks, hget]
    simp only [hadvance]
    rfl

end Process

end RequestScope
