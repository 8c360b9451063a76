import RequestScope.Proofs.Extent.CallChain

/-!
# The slot and the call chain

The slot of a thread is a cell that every extent writes, and the call chain is an argument that nobody
writes; this module proves that programs cannot tell them apart. `Realizes` compares a computation on
machines with one in a call chain from every place in the code at once: the machine holds the context
of the innermost extent in its slot before, and it holds the same one after, whatever was polled,
suspended, dropped or panicked in between. One lemma for each combinator and one case for each
constructor give `Future.pollAt_realizes`, and a schedule is a row of polls.
-/

namespace RequestScope

variable {ε ρ α β : Type}

/-- The machine of a scene at a place in the code. -/
def Scene.machine (x : Scene ε ρ) (chain : CallChain) : Machine ε ρ :=
  ⟨⟨x.heap, chain.current, chain.lent⟩, x.session⟩

/-- A computation on machines does what another one does in a call chain, whatever the chain. -/
def Realizes (run : Machine ε ρ → α × Machine ε ρ) (act : Scoped ε ρ α) : Prop :=
  ∀ chain x, run (x.machine chain) = ((act chain x).1, (act chain x).2.machine chain)

open Scoped

theorem find?_machine (target : Target) (chain : CallChain) (x : Scene ε ρ) :
    find? target chain x = ((x.machine chain).find? target, x) := by
  cases target <;> rfl

theorem binding_machine (target : Target) (chain : CallChain) (x : Scene ε ρ) :
    binding target chain x = ((x.machine chain).binding target, x) := by
  cases target <;> rfl

theorem pollWithin_machine {m : Mode} {run : Machine ε ρ → Poll ε ρ m × Machine ε ρ}
    {act : Scoped ε ρ (Poll ε ρ m)} (h : Realizes run act) (binding : Binding) (chain : CallChain)
    (x : Scene ε ρ) :
    pollWithin run binding (x.machine chain) =
      ((inside binding act chain x).1, binding, (inside binding act chain x).2.machine chain) := by
  cases binding with
  | free => simp only [pollWithin, inside, h chain x]
  | held own =>
    have hlent : (x.machine chain).isLent = chain.isLent := rfl
    have henter : (x.machine chain).exchange own = (chain.current, x.machine (chain.enter own)) :=
      rfl
    rw [pollWithin, hlent, inside_held]
    split
    · rfl
    · -- What the second exchange finds in the slot is `own` again, since the body gave it back.
      rw [henter]
      simp only [h (chain.enter own) x]
      rfl

theorem takeWrapped?_cases (name : String) (chain : CallChain) (x : Scene ε ρ) :
    ((x.machine chain).takeWrapped? name = none ∧ takeWrapped? name chain x = (none, x)) ∨
      ∃ binding body x',
        (x.machine chain).takeWrapped? name = some (binding, body, x'.machine chain) ∧
        takeWrapped? name chain x = (some (binding, body), x') := by
  have hmachine : (x.machine chain).takeWrapped? name = (x.session.wraps.get? name).map _ := rfl
  rw [hmachine, takeWrapped?, bind_apply, session_apply]
  cases x.session.wraps.get? name with
  | none => exact .inl ⟨rfl, rfl⟩
  | some wrapped => exact .inr ⟨wrapped.1, wrapped.2, _, rfl, rfl⟩

theorem takeTask?_cases (name : String) (chain : CallChain) (x : Scene ε ρ) :
    ((x.machine chain).takeTask? name = none ∧ takeTask? name chain x = (none, x)) ∨
      ∃ task x', (x.machine chain).takeTask? name = some (task, x'.machine chain) ∧
        takeTask? name chain x = (some task, x') := by
  have hmachine : (x.machine chain).takeTask? name = (x.session.named.get? name).map _ := rfl
  rw [hmachine, takeTask?, bind_apply, session_apply]
  cases x.session.named.get? name with
  | none => exact .inl ⟨rfl, rfl⟩
  | some task => exact .inr ⟨task, _, rfl, rfl⟩

theorem taskExit?_machine (task : Nat) (chain : CallChain) (x : Scene ε ρ) :
    taskExit? task chain x = ((x.machine chain).taskExit? task, x) := by
  have hsession : (x.machine chain).session = x.session := rfl
  rw [Machine.taskExit?, hsession, taskExit?, bind_apply, session_apply]
  rcases x.session.tasks[task]? with _ | _ | exit <;> rfl

theorem takeTurn_machine (chain : CallChain) (x : Scene ε ρ) :
    (x.machine chain).takeTurn = ((takeTurn chain x).1, (takeTurn chain x).2.machine chain) := by
  have hsession : (x.machine chain).session = x.session := rfl
  rw [Machine.takeTurn, hsession, takeTurn, bind_apply, session_apply]
  cases x.session.turns <;> rfl

/-- Whatever a dropped future exchanges with the slot, it exchanges back. -/
theorem Future.drop_eq (future : Future ε ρ) (s : Machine ε ρ) : future.drop s = s := by
  induction future generalizing s with
  | ready program => rfl
  | ended value => rfl
  | within binding body next ih =>
    cases binding with
    | free => exact ih s
    | held own =>
      rw [Future.drop]
      split
      · exact ih s
      · simp only [Machine.exchange, ih]
  | caught body next ih => exact ih s
  | joined left right next ihleft ihright => rw [Future.drop, ihleft, ihright]
  | awaiting task next => rfl

theorem side_machine {run : Machine ε ρ → Poll ε ρ .async × Machine ε ρ}
    {act : Scoped ε ρ (Poll ε ρ .async)} (h : Realizes run act) (other : Future ε ρ) :
    Realizes (pollSide run other) (side act) := by
  intro chain x
  rw [pollSide, h chain x, side, bind_apply]
  rcases act chain x with ⟨result, x'⟩
  cases result with
  | done exit =>
    cases exit with
    | returned value => rfl
    | panicked text => simp only [Poll.side, Future.drop_eq]; rfl
  | pending future => rfl

theorem sides_machine {first second : Machine ε ρ → Poll ε ρ .async × Machine ε ρ}
    {firstIn secondIn : Scoped ε ρ (Poll ε ρ .async)} (hfirst : Realizes first firstIn)
    (hsecond : Realizes second secondIn) (untouched : Future ε ρ) :
    Realizes (pollBoth first second untouched) (sides firstIn secondIn) := by
  intro chain x
  rw [pollBoth, side_machine hfirst untouched chain x, sides, bind_apply]
  rcases side firstIn chain x with ⟨result, x'⟩
  cases result with
  | error text => rfl
  | ok a =>
    simp only [side_machine hsecond a chain x', bind_apply]
    rcases side secondIn chain x' with ⟨result', x''⟩
    cases result' with
    | error text => rfl
    | ok b => rfl

theorem pair_machine {pollLeft pollRight : Machine ε ρ → Poll ε ρ .async × Machine ε ρ}
    {leftIn rightIn : Scoped ε ρ (Poll ε ρ .async)} (hleft : Realizes pollLeft leftIn)
    (hright : Realizes pollRight rightIn) (left right : Future ε ρ) :
    Realizes (pollPair pollLeft pollRight left right) (pair leftIn rightIn left right) := by
  intro chain x
  rw [pollPair, takeTurn_machine, pair, bind_apply]
  rcases takeTurn chain x with ⟨turn, x'⟩
  cases turn with
  | leftFirst =>
    simp only [sides_machine hleft hright right chain x', bind_apply]
    rcases sides leftIn rightIn chain x' with ⟨⟨text⟩ | ⟨a, b⟩, x''⟩ <;> rfl
  | rightFirst =>
    simp only [sides_machine hright hleft left chain x', bind_apply]
    rcases sides rightIn leftIn chain x' with ⟨⟨text⟩ | ⟨b, a⟩, x''⟩ <;> rfl
  | leftOnly =>
    simp only [side_machine hleft right chain x', bind_apply]
    rcases side leftIn chain x' with ⟨⟨text⟩ | a, x''⟩ <;> rfl
  | rightOnly =>
    simp only [side_machine hright left chain x', bind_apply]
    rcases side rightIn chain x' with ⟨⟨text⟩ | b, x''⟩ <;> rfl

theorem times_machine {again : Future ε ρ → Machine ε ρ → Poll ε ρ .async × Machine ε ρ}
    {againIn : Future ε ρ → Scoped ε ρ (Poll ε ρ .async)}
    (h : ∀ future, Realizes (again future) (againIn future)) (polls : Nat) (future : Future ε ρ) :
    Realizes (pollTimes again polls future) (times againIn polls future) := by
  induction polls generalizing future with
  | zero => intro chain x; rw [pollTimes, Future.drop_eq]; rfl
  | succ polls ih =>
    intro chain x
    rw [pollTimes, h future chain x, times, bind_apply]
    rcases againIn future chain x with ⟨result, x'⟩
    cases result with
    | done exit => rfl
    | pending future => exact ih future chain x'

theorem Program.poll_realizes {again : Future ε ρ → Machine ε ρ → Poll ε ρ .async × Machine ε ρ}
    {againIn : Future ε ρ → Scoped ε ρ (Poll ε ρ .async)}
    (hagain : ∀ future, Realizes (again future) (againIn future)) {m : Mode}
    (program : Program ε ρ m) : Realizes (program.poll again) (program.pollIn againIn) := by
  -- The call chain is universally quantified in `Realizes`, so that the hypotheses for bodies serve
  -- inside their extents and those for what follows serve outside again.
  induction program with
  | ret value => intro chain x; rfl
  | panic text => intro chain x; rfl
  | emit event next ih =>
    intro chain x
    rw [Program.poll, Program.pollIn, bind_apply]
    exact ih chain (report event chain x).2
  | access target change next ih =>
    intro chain x
    rw [Program.poll, Program.pollIn, bind_apply, find?_machine]
    cases (x.machine chain).find? target with
    | none => exact ih none chain x
    | some h => exact ih (some (x.heap.read h)) chain (update h change chain x).2
  | hold target register next ih =>
    intro chain x
    rw [Program.poll, Program.pollIn, bind_apply, find?_machine]
    cases (x.machine chain).find? target with
    | none => exact ih false chain x
    | some h => exact ih true chain (assign register h chain x).2
  | create register entries next ih =>
    intro chain x
    rw [Program.poll, Program.pollIn, bind_apply]
    exact ih chain (make register entries chain x).2
  | shares target other next ih =>
    intro chain x
    rw [Program.poll, Program.pollIn, bind_apply, find?_machine, bind_apply, find?_machine]
    cases (x.machine chain).find? target with
    | none => exact ih none chain x
    | some h =>
      cases (x.machine chain).find? other with
      | none => exact ih none chain x
      | some h' => exact ih (some (decide (h = h'))) chain x
  | withCurrent body next ihbody ih =>
    intro chain x
    rw [Program.poll, Program.pollIn, bind_apply, find?_machine]
    cases (x.machine chain).find? .current with
    | none => exact ih none chain x
    | some h =>
      have hlend : (x.machine chain).lend h = x.machine (chain.lend h) := rfl
      simp only [hlend, ihbody (chain.lend h) x, bind_apply, withReader_apply]
      rcases body.pollIn againIn (chain.lend h) x with ⟨result, x'⟩
      cases result with
      | done exit =>
        cases exit with
        | returned value => exact ih (some value) chain x'
        | panicked text => rfl
  | runSync target body next ihbody ih =>
    intro chain x
    rw [Program.poll, Program.pollIn, bind_apply, binding_machine, bind_apply,
      pollWithin_machine ihbody]
    rcases inside ((x.machine chain).binding target) (body.pollIn againIn) chain x
      with ⟨result, x'⟩
    cases result with
    | done exit =>
      cases exit with
      | returned value => exact ih value chain x'
      | panicked text => rfl
  | catchSync body next ihbody ih =>
    intro chain x
    rw [Program.poll, Program.pollIn, bind_apply, ihbody chain x]
    rcases body.pollIn againIn chain x with ⟨result, x'⟩
    cases result with
    | done exit => exact ih exit chain x'
  | run target body next ihbody ih =>
    intro chain x
    rw [Program.poll, Program.pollIn, bind_apply, binding_machine, bind_apply,
      pollWithin_machine ihbody]
    rcases inside ((x.machine chain).binding target) (body.pollIn againIn) chain x
      with ⟨result, x'⟩
    cases result with
    | done exit =>
      cases exit with
      | returned value => exact ih value chain x'
      | panicked text => rfl
    | pending future => rfl
  | catchPanic body next ihbody ih =>
    intro chain x
    rw [Program.poll, Program.pollIn, bind_apply, ihbody chain x]
    rcases body.pollIn againIn chain x with ⟨result, x'⟩
    cases result with
    | done exit => exact ih exit chain x'
    | pending future => rfl
  | wrap name body next ihbody ih =>
    intro chain x
    rw [Program.poll, Program.pollIn, bind_apply]
    exact ih chain (keep name (.ofHandle? chain.current) body chain x).2
  | awaitWrapped name next ih =>
    intro chain x
    rw [Program.poll, Program.pollIn, bind_apply]
    obtain ⟨hmachine, hscene⟩ | ⟨binding, body, x', hmachine, hscene⟩ :=
      takeWrapped?_cases name chain x
    · rw [hmachine, hscene]
      rfl
    · rw [hmachine, hscene]
      simp only [bind_apply, pollWithin_machine (hagain _)]
      rcases inside binding (againIn (.ready body)) chain x' with ⟨result, x''⟩
      cases result with
      | done exit =>
        cases exit with
        | returned value => exact ih value chain x''
        | panicked text => rfl
      | pending future => rfl
  | spawn name wrapped body next ihbody ih =>
    intro chain x
    rw [Program.poll, Program.pollIn, bind_apply]
    exact ih chain (start name (if wrapped then .ofHandle? chain.current else .free) body chain x).2
  | awaitTask name next ih =>
    intro chain x
    rw [Program.poll, Program.pollIn, bind_apply]
    obtain ⟨hmachine, hscene⟩ | ⟨task, x', hmachine, hscene⟩ := takeTask?_cases name chain x
    · rw [hmachine, hscene]
      rfl
    · rw [hmachine, hscene]
      simp only [bind_apply, taskExit?_machine]
      cases (x'.machine chain).taskExit? task with
      | none => rfl
      | some exit => exact ih exit chain x'
  | pause next => intro chain x; rfl
  | join left right next ihleft ihright ih =>
    intro chain x
    rw [Program.poll, Program.pollIn, bind_apply, pair_machine ihleft ihright]
    rcases pair (left.pollIn againIn) (right.pollIn againIn) (.ready left) (.ready right) chain x
      with ⟨result, x'⟩
    cases result with
    | both a b => exact ih a b chain x'
    | panicked text => rfl
    | waiting left right => rfl
  | abandon target polls body next ihbody ih =>
    intro chain x
    cases polls with
    | zero => rw [Program.poll, Program.pollIn]; exact ih none chain x
    | succ polls =>
      rw [Program.poll, Program.pollIn, bind_apply, binding_machine, bind_apply,
        pollWithin_machine ihbody]
      rcases inside ((x.machine chain).binding target) (body.pollIn againIn) chain x
        with ⟨result, x'⟩
      cases result with
      | done exit =>
        cases exit with
        | returned value => exact ih (some value) chain x'
        | panicked text => rfl
      | pending future =>
        simp only [times_machine hagain polls _ chain x', bind_apply]
        rcases times againIn polls (.within _ future .ret) chain x'
          with ⟨_ | ⟨value⟩ | ⟨text⟩, x''⟩
        · exact ih none chain x''
        · exact ih (some value) chain x''
        · rfl

theorem Future.poll_realizes {again : Future ε ρ → Machine ε ρ → Poll ε ρ .async × Machine ε ρ}
    {againIn : Future ε ρ → Scoped ε ρ (Poll ε ρ .async)}
    (hagain : ∀ future, Realizes (again future) (againIn future)) (future : Future ε ρ) :
    Realizes (future.poll again) (future.pollIn againIn) := by
  induction future with
  | ready program => exact program.poll_realizes hagain
  | ended value => intro chain x; rfl
  | within binding body next ih =>
    intro chain x
    rw [Future.poll, Future.pollIn, bind_apply, pollWithin_machine ih]
    rcases inside binding (body.pollIn againIn) chain x with ⟨result, x'⟩
    cases result with
    | done exit =>
      cases exit with
      | returned value => exact (next value).poll_realizes hagain chain x'
      | panicked text => rfl
    | pending future => rfl
  | caught body next ih =>
    intro chain x
    rw [Future.poll, Future.pollIn, bind_apply, ih chain x]
    rcases body.pollIn againIn chain x with ⟨result, x'⟩
    cases result with
    | done exit => exact (next exit).poll_realizes hagain chain x'
    | pending future => rfl
  | joined left right next ihleft ihright =>
    intro chain x
    rw [Future.poll, Future.pollIn, bind_apply, pair_machine ihleft ihright]
    rcases pair (left.pollIn againIn) (right.pollIn againIn) left right chain x with ⟨result, x'⟩
    cases result with
    | both a b => exact (next a b).poll_realizes hagain chain x'
    | panicked text => rfl
    | waiting left right => rfl
  | awaiting task next =>
    intro chain x
    rw [Future.poll, Future.pollIn, bind_apply, taskExit?_machine]
    cases (x.machine chain).taskExit? task with
    | none => rfl
    | some exit => exact (next exit).poll_realizes hagain chain x

theorem Future.exists_pollAt (depth : Nat) :
    ∃ again : Future ε ρ → Machine ε ρ → Poll ε ρ .async × Machine ε ρ, pollAt depth = poll again := by
  cases depth with
  | zero => exact ⟨_, rfl⟩
  | succ depth => exact ⟨_, rfl⟩

theorem Future.exists_pollInAt (depth : Nat) :
    ∃ againIn : Future ε ρ → Scoped ε ρ (Poll ε ρ .async), pollInAt depth = pollIn againIn := by
  cases depth with
  | zero => exact ⟨_, rfl⟩
  | succ depth => exact ⟨_, rfl⟩

theorem Future.pollAt_realizes (depth : Nat) (future : Future ε ρ) :
    Realizes (future.pollAt depth) (future.pollInAt depth) := by
  induction depth generalizing future with
  | zero => exact future.poll_realizes fun _ _ _ => rfl
  | succ depth ih => exact future.poll_realizes ih

/-! ### Schedules -/

namespace Process

theorem advance_realizes (depth : Nat) (progress : Progress ε ρ) :
    Realizes (advance depth progress) (advanceIn depth progress) := by
  intro chain x
  cases progress with
  | ended exit => rfl
  | running future =>
    rw [advance, advanceIn, bind_apply, future.pollAt_realizes depth chain x]
    rcases future.pollInAt depth chain x with ⟨result, x'⟩
    cases result with
    | done exit => rfl
    | pending future => rfl

theorem step_machine (depth : Nat) (choice : Choice) (p : Process ε ρ) (heap : Heap) :
    p.step depth choice { heap } =
      ((p.stepIn depth choice heap).1, { heap := (p.stepIn depth choice heap).2 }) := by
  -- Between polls the slot is empty, which is how it looks outside all extents.
  have houtside (progress : Progress ε ρ) : advance depth progress ⟨{ heap }, p.session⟩ = _ :=
    advance_realizes depth progress {} ⟨heap, p.session⟩
  cases choice with
  | root =>
    rw [step, stepIn, houtside]
    rfl
  | task number =>
    rw [step, stepIn]
    cases p.session.tasks[number]? with
    | none => rfl
    | some progress =>
      simp only [houtside]
      rfl

/-- Under every schedule, the machine with one slot does what the programs do in their call chains:
each look at the current context finds that of the innermost extent around it, or none. -/
theorem follow_eq_followIn (depth : Nat) (schedule : List Choice) (p : Process ε ρ) (heap : Heap) :
    p.follow depth schedule { heap } =
      ((p.followIn depth schedule heap).1, { heap := (p.followIn depth schedule heap).2 }) := by
  induction schedule generalizing p heap with
  | nil => rfl
  | cons choice schedule ih =>
    rw [follow, followIn, step_machine]
    exact ih _ _

end Process

end RequestScope
