import Mathlib.Data.List.Basic
import RequestScope.Proofs.Extent.Refinement

/-!
# The points of a run

At each point of a run a program is about to go on at a place in the code, and finds the cells and the
session as the run has left them. A trail lists the points of a poll in their order: those inside extents,
those of both sides of a join, and those of the futures that are polled on the way. From one point to the
next it goes by what `Program.pollIn` does there.
-/

namespace RequestScope

variable {ε ρ α : Type}

structure Point (ε ρ : Type) where
  {mode : Mode}
  program : Program ε ρ mode
  chain : CallChain
  scene : Scene ε ρ

/-- The machine as the program finds it. -/
def Point.machine (point : Point ε ρ) : Machine ε ρ := point.scene.machine point.chain

abbrev Trail (ε ρ : Type) := CallChain → Scene ε ρ → List (Point ε ρ)

namespace Trail

def none : Trail ε ρ := fun _ _ => []

def here {m : Mode} (program : Program ε ρ m) (rest : Trail ε ρ) : Trail ε ρ :=
  fun chain x => ⟨program, chain, x⟩ :: rest chain x

/-- Goes the trail of a computation and on from where the computation ends. -/
def behind (trail : Trail ε ρ) (act : Scoped ε ρ α) (next : α → Trail ε ρ) : Trail ε ρ :=
  fun chain x => trail chain x ++ next (act chain x).1 chain (act chain x).2

/-- Goes on from where a computation ends that comes by no point. -/
def after (act : Scoped ε ρ α) (next : α → Trail ε ρ) : Trail ε ρ :=
  fun chain x => next (act chain x).1 chain (act chain x).2

def within (f : CallChain → CallChain) (trail : Trail ε ρ) : Trail ε ρ := fun chain => trail (f chain)

def inside (binding : Binding) (trail : Trail ε ρ) : Trail ε ρ :=
  match binding with
  | .free => trail
  | .held own => fun chain x => if chain.isLent then [] else trail (chain.enter own) x

def sides (first second : Trail ε ρ) (poll : Scoped ε ρ (Poll ε ρ .async)) : Trail ε ρ :=
  first.behind (Scoped.side poll) fun
    | .error _ => none
    | .ok _ => second

def pair (left right : Trail ε ρ) (pollLeft pollRight : Scoped ε ρ (Poll ε ρ .async)) : Trail ε ρ :=
  after Scoped.takeTurn fun
    | .leftFirst => left.sides right pollLeft
    | .rightFirst => right.sides left pollRight
    | .leftOnly => left
    | .rightOnly => right

def times (again : Future ε ρ → Trail ε ρ) (againIn : Future ε ρ → Scoped ε ρ (Poll ε ρ .async)) :
    Nat → Future ε ρ → Trail ε ρ
  | 0, _ => none
  | polls + 1, future =>
    (again future).behind (againIn future) fun
      | .done _ => none
      | .pending future => times again againIn polls future

end Trail

open Trail in
/-- The points of a poll of a program. -/
def Program.trail (again : Future ε ρ → Trail ε ρ) (againIn : Future ε ρ → Scoped ε ρ (Poll ε ρ .async))
    {m : Mode} (program : Program ε ρ m) : Trail ε ρ :=
  here program <|
    match program with
    | .ret _ => none
    | .panic _ => none
    | .emit event next => after (Scoped.report event) fun _ => next.trail again againIn
    | .access target change next =>
      after (Scoped.find? target) fun
        | .none => (next .none).trail again againIn
        | .some h => after (Scoped.update h change) fun before => (next before).trail again againIn
    | .hold target register next =>
      after (Scoped.find? target) fun
        | .none => (next false).trail again againIn
        | .some h => after (Scoped.assign register h) fun _ => (next true).trail again againIn
    | .create register entries next => after (Scoped.make register entries) fun _ => next.trail again againIn
    | .shares target other next =>
      after (Scoped.find? target) fun found => after (Scoped.find? other) fun found' =>
        match found, found' with
        | .some h, .some h' => (next (decide (h = h'))).trail again againIn
        | _, _ => (next .none).trail again againIn
    | .withCurrent body next =>
      after (Scoped.find? .current) fun
        | .none => (next .none).trail again againIn
        | .some h =>
          ((body.trail again againIn).within (·.lend h)).behind
              (withReader (·.lend h) (body.pollIn againIn)) fun
            | .done (.returned value) => (next value).trail again againIn
            | .done (.panicked _) => none
    | .runSync target body next =>
      after (Scoped.binding target) fun binding =>
        ((body.trail again againIn).inside binding).behind (Scoped.inside binding (body.pollIn againIn)) fun
          | .done (.returned value) => (next value).trail again againIn
          | .done (.panicked _) => none
    | .catchSync body next =>
      (body.trail again againIn).behind (body.pollIn againIn) fun
        | .done exit => (next exit).trail again againIn
    | .run target body next =>
      after (Scoped.binding target) fun binding =>
        ((body.trail again againIn).inside binding).behind (Scoped.inside binding (body.pollIn againIn)) fun
          | .done (.returned value) => (next value).trail again againIn
          | _ => none
    | .catchPanic body next =>
      (body.trail again againIn).behind (body.pollIn againIn) fun
        | .done exit => (next exit).trail again againIn
        | .pending _ => none
    | .wrap name body next =>
      after (Scoped.binding .current) fun binding =>
        after (Scoped.keep name binding body) fun _ => next.trail again againIn
    | .awaitWrapped name next =>
      after (Scoped.takeWrapped? name) fun
        | .none => none
        | .some (binding, body) =>
          ((again (.ready body)).inside binding).behind (Scoped.inside binding (againIn (.ready body))) fun
            | .done (.returned value) => (next value).trail again againIn
            | _ => none
    | .spawn name wrapped body next =>
      after (Scoped.binding .current) fun binding =>
        after (Scoped.start name (if wrapped then binding else .free) body) fun _ => next.trail again againIn
    | .awaitTask name next =>
      after (Scoped.takeTask? name) fun
        | .none => none
        | .some task =>
          after (Scoped.taskExit? task) fun
            | .some exit => (next exit).trail again againIn
            | .none => none
    | .pause _ => none
    | .join left right next =>
      (pair (left.trail again againIn) (right.trail again againIn) (left.pollIn againIn)
          (right.pollIn againIn)).behind
          (Scoped.pair (left.pollIn againIn) (right.pollIn againIn) (.ready left) (.ready right)) fun
        | .both a b => (next a b).trail again againIn
        | _ => none
    | .abandon _ 0 _ next => (next .none).trail again againIn
    | .abandon target (polls + 1) body next =>
      after (Scoped.binding target) fun binding =>
        ((body.trail again againIn).inside binding).behind (Scoped.inside binding (body.pollIn againIn)) fun
          | .done (.returned value) => (next value).trail again againIn
          | .done (.panicked _) => none
          | .pending future =>
            (times again againIn polls (.within binding future .ret)).behind
                (Scoped.times againIn polls (.within binding future .ret)) fun
              | .none => (next .none).trail again againIn
              | .some (.returned value) => (next value).trail again againIn
              | .some (.panicked _) => none

open Trail in
/-- The points of a poll of a future. -/
def Future.trail (again : Future ε ρ → Trail ε ρ) (againIn : Future ε ρ → Scoped ε ρ (Poll ε ρ .async)) :
    Future ε ρ → Trail ε ρ
  | .ready program => program.trail again againIn
  | .ended _ => none
  | .within binding body next =>
    ((body.trail again againIn).inside binding).behind (Scoped.inside binding (body.pollIn againIn)) fun
      | .done (.returned value) => (next value).trail again againIn
      | _ => none
  | .caught body next =>
    (body.trail again againIn).behind (body.pollIn againIn) fun
      | .done exit => (next exit).trail again againIn
      | .pending _ => none
  | .joined left right next =>
    (pair (left.trail again againIn) (right.trail again againIn) (left.pollIn againIn)
        (right.pollIn againIn)).behind
        (Scoped.pair (left.pollIn againIn) (right.pollIn againIn) left right) fun
      | .both a b => (next a b).trail again againIn
      | _ => none
  | .awaiting task next =>
    after (Scoped.taskExit? task) fun
      | .some exit => (next exit).trail again againIn
      | .none => none

/-- The points of a poll of a future, with the same bound on nesting as `Future.pollInAt`. -/
def Future.trailAt : Nat → Future ε ρ → Trail ε ρ
  | 0 => Future.trail (fun _ => .none) fun future => return .pending future
  | depth + 1 => Future.trail (Future.trailAt depth) (Future.pollInAt depth)

def Progress.trail (depth : Nat) : Progress ε ρ → Trail ε ρ
  | .ended _ => .none
  | .running future => future.trailAt depth

namespace Process

/-- The points that one choice of a schedule comes by. Roots and tasks stand in no extent. -/
def passed (depth : Nat) (choice : Choice) (p : Process ε ρ) (heap : Heap) : List (Point ε ρ) :=
  match choice with
  | .root => p.root.trail depth {} ⟨heap, p.session⟩
  | .task number =>
    match p.session.tasks[number]? with
    | none => []
    | some progress => progress.trail depth {} ⟨heap, p.session⟩

/-- The points that a run comes by, and the process behind them. Each choice is made with the cells as it
finds them, since other processes may change them between two choices. -/
def journey (depth : Nat) : List (Choice × Heap) → Process ε ρ → List (Point ε ρ) × Process ε ρ
  | [], p => ([], p)
  | (choice, heap) :: schedule, p =>
    let (points, last) := journey depth schedule (p.stepIn depth choice heap).1
    (p.passed depth choice heap ++ points, last)

/-- Each run is one of these. -/
theorem exists_journey_of_follow (depth : Nat) (choices : List Choice) (p : Process ε ρ) (heap : Heap) :
    ∃ schedule : List (Choice × Heap), schedule.map Prod.fst = choices ∧
      (p.follow depth choices { heap }).1 = (p.journey depth schedule).2 := by
  induction choices generalizing p heap with
  | nil => exact ⟨[], rfl, rfl⟩
  | cons choice choices ih =>
    obtain ⟨schedule, hchoices, hfollow⟩ := ih (p.stepIn depth choice heap).1 (p.stepIn depth choice heap).2
    refine ⟨(choice, heap) :: schedule, ?_, ?_⟩
    · rw [List.map_cons, hchoices]
    · rw [follow, step_machine]
      exact hfollow

end Process

/-! ### What is made and reported -/

namespace Point

/-- The context that is created here into a register. -/
def created? (register : String) (point : Point ε ρ) : Option Handle :=
  match point.program with
  | .create register' _ _ =>
    if register' = register then some ⟨point.scene.session.id, point.scene.session.made⟩ else none
  | _ => none

def reported? (point : Point ε ρ) : Option ε :=
  match point.program with
  | .emit event _ => some event
  | _ => none

/-- The context that was created last into a register. -/
def lastCreated (register : String) (past : List (Point ε ρ)) : Option Handle :=
  (past.filterMap (created? register)).getLast?

def reports (past : List (Point ε ρ)) : List ε := past.filterMap reported?

theorem lastCreated_concat (register : String) (past : List (Point ε ρ)) (point : Point ε ρ) :
    lastCreated register (past ++ [point]) = (point.created? register).or (lastCreated register past) := by
  cases h : point.created? register with
  | none => simp [lastCreated, h]
  | some own => simp [lastCreated, h]

theorem reports_concat (past : List (Point ε ρ)) (point : Point ε ρ) :
    reports (past ++ [point]) = reports past ++ point.reported?.toList := by
  cases h : point.reported? with
  | none => simp [reports, h]
  | some event => simp [reports, h]

end Point

end RequestScope
