import RequestScope.Extent.Future

/-!
# Processes and schedules

A process is a root program with the tasks that it starts. A schedule says in which order the root
and the tasks are polled; any order is possible, and polling what has ended does nothing.
`Process.finish` is the fair schedule: round by round the root and then every task, until the root has
ended. `Process.conclude` polls tasks alone until the given ones have ended.
-/

namespace RequestScope

variable {ε ρ : Type}

inductive Choice
  | root
  | task (number : Nat)
deriving Repr, DecidableEq

def Progress.isEnded : Progress ε ρ → Bool
  | .ended _ => true
  | .running _ => false

/-- A root program on its way, and its session. -/
structure Process (ε ρ : Type) where
  root : Progress ε ρ
  session : Session ε ρ

namespace Process

/-- A process that has not been polled. -/
def ofProgram (id : Nat) (turns : List Turn) (program : Program ε ρ .async) : Process ε ρ :=
  ⟨.running (.ready program), { id, turns }⟩

/-- Polls what has not ended. -/
def advance (depth : Nat) : Progress ε ρ → Machine ε ρ → Progress ε ρ × Machine ε ρ
  | .ended exit, s => (.ended exit, s)
  | .running future, s =>
    match future.pollAt depth s with
    | (.done exit, s) => (.ended exit, s)
    | (.pending future, s) => (.running future, s)

def step (depth : Nat) (choice : Choice) (p : Process ε ρ) (world : World) : Process ε ρ × World :=
  match choice with
  | .root =>
    let (root, s) := advance depth p.root ⟨world, p.session⟩
    (⟨root, s.session⟩, s.world)
  | .task number =>
    match p.session.tasks[number]? with
    | none => (p, world)
    | some progress =>
      let (progress, s) := advance depth progress ⟨world, p.session⟩
      ({ p with session := { s.session with tasks := s.session.tasks.set number progress } }, s.world)

def follow (depth : Nat) : List Choice → Process ε ρ → World → Process ε ρ × World
  | [], p, world => (p, world)
  | choice :: schedule, p, world =>
    let (p, world) := p.step depth choice world
    follow depth schedule p world

def pollTasks (depth : Nat) (p : Process ε ρ) (world : World) : Process ε ρ × World :=
  p.follow depth ((List.range p.session.tasks.length).map .task) world

/-- Polls the root and, unless it ends, every task once. -/
def round (depth : Nat) (p : Process ε ρ) (world : World) : Process ε ρ × World :=
  let (p, world) := p.step depth .root world
  if p.root.isEnded then (p, world) else p.pollTasks depth world

def isOver (p : Process ε ρ) : Bool := p.root.isEnded

/-- Goes on round by round until the root has ended, for a number of rounds at most. -/
def finish (depth : Nat) : Nat → Process ε ρ → World → Process ε ρ × World
  | 0, p, world => (p, world)
  | rounds + 1, p, world =>
    if p.isOver then (p, world)
    else
      let (p, world) := p.round depth world
      finish depth rounds p world

def hasEnded (p : Process ε ρ) (number : Nat) : Bool :=
  p.session.tasks[number]?.any Progress.isEnded

/-- Polls tasks until all of the given ones have ended, every task once in a round, for a number of
rounds at most. -/
def conclude (depth : Nat) (numbers : List Nat) : Nat → Process ε ρ → World → Process ε ρ × World
  | 0, p, world => (p, world)
  | rounds + 1, p, world =>
    if numbers.all p.hasEnded then (p, world)
    else
      let (p, world) := p.pollTasks depth world
      conclude depth numbers rounds p world

def exit? (p : Process ε ρ) : Option (Exit ρ) :=
  match p.root with
  | .ended exit => some exit
  | .running _ => none

/-- The events in the order in which they were reported. -/
def events (p : Process ε ρ) : List ε := p.session.events.reverse

end Process

/-- Goes on round by round with several processes of one thread, for a number of rounds at most. -/
def finishAll (depth : Nat) : Nat → List (Process ε ρ) → World → List (Process ε ρ) × World
  | 0, processes, world => (processes, world)
  | rounds + 1, processes, world =>
    if processes.all Process.isOver then (processes, world)
    else
      let (processes, world) := processes.foldl
        (fun (done, world) p =>
          let (p, world) := p.round depth world
          (done ++ [p], world)) ([], world)
      finishAll depth rounds processes world

end RequestScope
