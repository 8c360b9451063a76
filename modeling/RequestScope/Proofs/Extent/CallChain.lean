import RequestScope.Extent.Process

/-!
# Programs in a call chain

The programs once more, without a slot. A place in the code is reached through a chain of calls, and
the chain says which extents stand around the place; the current context is that of the innermost
one. The chain is an argument that is handed down and never changed, so that there is nothing to
exchange and nothing to restore: what a poll leaves behind are cells and a session, and a future
keeps the binding with which it was made.
-/

namespace RequestScope

/-- What stands around a place in the code, the innermost first: the contexts of the extents and the
contexts that are lent. -/
structure CallChain where
  extents : List (Option Handle) := []
  lent : List Handle := []

namespace CallChain

/-- The context of the innermost extent, if there is an extent. -/
def current (chain : CallChain) : Option Handle := chain.extents.head?.join

def isLent (chain : CallChain) : Bool := !chain.lent.isEmpty

def enter (chain : CallChain) (own : Option Handle) : CallChain :=
  { chain with extents := own :: chain.extents }

def lend (chain : CallChain) (h : Handle) : CallChain := { chain with lent := h :: chain.lent }

end CallChain

/-- The cells and a session: all that programs change. -/
structure Scene (ε ρ : Type) where
  heap : Heap
  session : Session ε ρ

/-- What is done in a call chain. -/
abbrev Scoped (ε ρ : Type) := ReaderT CallChain (StateM (Scene ε ρ))

variable {ε ρ : Type}

namespace Scoped

/-! ### What programs do

Each operation is that of `Machine` with the same purpose, less the slot. -/

def session : Scoped ε ρ (Session ε ρ) := return (← get).session

def find? : Target → Scoped ε ρ (Option Handle)
  | .current => return (← read).current
  | .lent => return (← read).lent.head?
  | .register name => return (← session).registers.get? name

/-- The extent of a context is bound to it, and where there is no context there is no extent. -/
def binding (target : Target) : Scoped ε ρ Binding :=
  return match ← find? target with
    | some own => .held (some own)
    | none => .free

/-- Changes the entries of a cell and gives those before the change. -/
def update (h : Handle) (change : Entries → Entries) : Scoped ε ρ Entries :=
  modifyGet fun x => (x.heap.read h, { x with heap := x.heap.write h (change (x.heap.read h)) })

def inSession (change : Session ε ρ → Session ε ρ) : Scoped ε ρ Unit :=
  modify fun x => { x with session := change x.session }

def assign (register : String) (h : Handle) : Scoped ε ρ Unit :=
  inSession fun s => { s with registers := s.registers.insert register h }

def make (register : String) (entries : Entries) : Scoped ε ρ Unit :=
  modify fun x =>
    let h : Handle := ⟨x.session.id, x.session.made⟩
    ⟨x.heap.write h entries,
      { x.session with
        made := x.session.made + 1
        registers := x.session.registers.insert register h }⟩

def report (event : ε) : Scoped ε ρ Unit := inSession fun s => { s with events := event :: s.events }

def keep (name : String) (binding : Binding) (body : Program ε ρ .async) : Scoped ε ρ Unit :=
  inSession fun s => { s with wraps := s.wraps.insert name (binding, body) }

def takeWrapped? (name : String) : Scoped ε ρ (Option (Binding × Program ε ρ .async)) := do
  match (← session).wraps.get? name with
  | none => return none
  | some wrapped =>
    inSession fun s => { s with wraps := s.wraps.erase name }
    return some wrapped

def start (name : String) (binding : Binding) (body : Program ε ρ .async) : Scoped ε ρ Unit :=
  inSession fun s =>
    { s with
      tasks := s.tasks ++ [.running (Machine.task binding body)]
      named := s.named.insert name s.tasks.length }

def takeTask? (name : String) : Scoped ε ρ (Option Nat) := do
  match (← session).named.get? name with
  | none => return none
  | some task =>
    inSession fun s => { s with named := s.named.erase name }
    return some task

def taskExit? (task : Nat) : Scoped ε ρ (Option (Exit ρ)) := do
  match (← session).tasks[task]? with
  | some (.ended exit) => return some exit
  | _ => return none

def takeTurn : Scoped ε ρ Turn := do
  match (← session).turns with
  | [] => return .leftFirst
  | turn :: turns =>
    inSession fun s => { s with turns }
    return turn

/-- Does something inside the extent of a binding. Nothing is undone behind it: the chain outside was
never changed. -/
def inside {m : Mode} (binding : Binding) (body : Scoped ε ρ (Poll ε ρ m)) :
    Scoped ε ρ (Poll ε ρ m) :=
  match binding with
  | .free => body
  | .held own => do
    if (← read).isLent then return .done (.panicked lentPanic)
    else withReader (·.enter own) body

def side (poll : Scoped ε ρ (Poll ε ρ .async)) : Scoped ε ρ (Except String (Future ε ρ)) :=
  return (← poll).side

def sides (first second : Scoped ε ρ (Poll ε ρ .async)) :
    Scoped ε ρ (Except String (Future ε ρ × Future ε ρ)) := do
  match ← side first with
  | .error text => return .error text
  | .ok a =>
    match ← side second with
    | .error text => return .error text
    | .ok b => return .ok (a, b)

def pairPoll : Except String (Future ε ρ × Future ε ρ) → PairPoll ε ρ
  | .ok (a, b) => .ofSides a b
  | .error text => .panicked text

/-- Polls the sides of a join whose turn it is. -/
def pair (pollLeft pollRight : Scoped ε ρ (Poll ε ρ .async)) (left right : Future ε ρ) :
    Scoped ε ρ (PairPoll ε ρ) := do
  match ← takeTurn with
  | .leftFirst => return pairPoll (← sides pollLeft pollRight)
  | .rightFirst => return pairPoll ((← sides pollRight pollLeft).map Prod.swap)
  | .leftOnly => return pairPoll ((← side pollLeft).map fun a => (a, right))
  | .rightOnly => return pairPoll ((← side pollRight).map fun b => (left, b))

def times (again : Future ε ρ → Scoped ε ρ (Poll ε ρ .async)) :
    Nat → Future ε ρ → Scoped ε ρ (Option (Exit ρ))
  | 0, _ => return none
  | polls + 1, future => do
    match ← again future with
    | .done exit => return some exit
    | .pending future => times again polls future

/-! ### What is done, applied -/

section

variable {α β : Type}

theorem bind_apply (act : Scoped ε ρ α) (next : α → Scoped ε ρ β) (chain : CallChain)
    (x : Scene ε ρ) : (act >>= next) chain x = next (act chain x).1 chain (act chain x).2 := rfl

theorem session_apply (chain : CallChain) (x : Scene ε ρ) : session chain x = (x.session, x) := rfl

theorem withReader_apply (f : CallChain → CallChain) (act : Scoped ε ρ α) (chain : CallChain)
    (x : Scene ε ρ) : withReader f act chain x = act (f chain) x := rfl

theorem inside_held {m : Mode} (own : Option Handle) (body : Scoped ε ρ (Poll ε ρ m))
    (chain : CallChain) (x : Scene ε ρ) :
    inside (.held own) body chain x =
      if chain.isLent then (.done (.panicked lentPanic), x) else body (chain.enter own) x := by
  rw [inside, bind_apply]
  change (if chain.isLent then _ else _ : Scoped ε ρ _) chain x = _
  split <;> rfl

end

end Scoped

open Scoped

/-- Runs a program in a call chain up to its end or its next suspension. -/
def Program.pollIn (again : Future ε ρ → Scoped ε ρ (Poll ε ρ .async)) {m : Mode} :
    Program ε ρ m → Scoped ε ρ (Poll ε ρ m)
  | .ret value => return .done (.returned value)
  | .panic text => return .done (.panicked text)
  | .emit event next => do
    report event
    next.pollIn again
  | .access target change next => do
    match ← find? target with
    | none => (next none).pollIn again
    | some h => do
      let before ← update h change
      (next (some before)).pollIn again
  | .hold target register next => do
    match ← find? target with
    | none => (next false).pollIn again
    | some h => do
      assign register h
      (next true).pollIn again
  | .create register entries next => do
    make register entries
    next.pollIn again
  | .shares target other next => do
    let found ← find? target
    let found' ← find? other
    match found, found' with
    | some h, some h' => (next (some (decide (h = h')))).pollIn again
    | _, _ => (next none).pollIn again
  | .withCurrent body next => do
    match ← find? .current with
    | none => (next none).pollIn again
    | some h => do
      match ← withReader (·.lend h) (body.pollIn again) with
      | .done (.returned value) => (next (some value)).pollIn again
      | .done (.panicked text) => return .done (.panicked text)
  | .runSync target body next => do
    let binding ← binding target
    match ← inside binding (body.pollIn again) with
    | .done (.returned value) => (next value).pollIn again
    | .done (.panicked text) => return .done (.panicked text)
  | .catchSync body next => do
    match ← body.pollIn again with
    | .done exit => (next exit).pollIn again
  | .run target body next => do
    let binding ← binding target
    match ← inside binding (body.pollIn again) with
    | .done (.returned value) => (next value).pollIn again
    | .done (.panicked text) => return .done (.panicked text)
    | .pending future => return .pending (.within binding future next)
  | .catchPanic body next => do
    match ← body.pollIn again with
    | .done exit => (next exit).pollIn again
    | .pending future => return .pending (.caught future next)
  | .wrap name body next => do
    keep name (← binding .current) body
    next.pollIn again
  | .awaitWrapped name next => do
    match ← takeWrapped? name with
    | none => return .done (.panicked (awaitPanic name))
    | some (binding, body) => do
      match ← inside binding (again (.ready body)) with
      | .done (.returned value) => (next value).pollIn again
      | .done (.panicked text) => return .done (.panicked text)
      | .pending future => return .pending (.within binding future next)
  | .spawn name wrapped body next => do
    let found ← binding .current
    start name (if wrapped then found else .free) body
    next.pollIn again
  | .awaitTask name next => do
    match ← takeTask? name with
    | none => return .done (.panicked (awaitPanic name))
    | some task => do
      match ← taskExit? task with
      | some exit => (next exit).pollIn again
      | none => return .pending (.awaiting task next)
  | .pause next => return .pending (.ready next)
  | .join left right next => do
    match ← pair (left.pollIn again) (right.pollIn again) (.ready left) (.ready right) with
    | .both a b => (next a b).pollIn again
    | .panicked text => return .done (.panicked text)
    | .waiting left right => return .pending (.joined left right next)
  | .abandon _ 0 _ next => (next none).pollIn again
  | .abandon target (polls + 1) body next => do
    let binding ← binding target
    match ← inside binding (body.pollIn again) with
    | .done (.returned value) => (next (some value)).pollIn again
    | .done (.panicked text) => return .done (.panicked text)
    | .pending future => do
      match ← times again polls (.within binding future .ret) with
      | none => (next none).pollIn again
      | some (.returned value) => (next (some value)).pollIn again
      | some (.panicked text) => return .done (.panicked text)

/-- Polls a future in a call chain. -/
def Future.pollIn (again : Future ε ρ → Scoped ε ρ (Poll ε ρ .async)) :
    Future ε ρ → Scoped ε ρ (Poll ε ρ .async)
  | .ready program => program.pollIn again
  | .ended value => return .done (.returned value)
  | .within binding body next => do
    match ← inside binding (body.pollIn again) with
    | .done (.returned value) => (next value).pollIn again
    | .done (.panicked text) => return .done (.panicked text)
    | .pending future => return .pending (.within binding future next)
  | .caught body next => do
    match ← body.pollIn again with
    | .done exit => (next exit).pollIn again
    | .pending future => return .pending (.caught future next)
  | .joined left right next => do
    match ← pair (left.pollIn again) (right.pollIn again) left right with
    | .both a b => (next a b).pollIn again
    | .panicked text => return .done (.panicked text)
    | .waiting left right => return .pending (.joined left right next)
  | .awaiting task next => do
    match ← taskExit? task with
    | some exit => (next exit).pollIn again
    | none => return .pending (.awaiting task next)

/-- Polls a future in a call chain, with the same bound on nesting as `Future.pollAt`. -/
def Future.pollInAt : Nat → Future ε ρ → Scoped ε ρ (Poll ε ρ .async)
  | 0 => Future.pollIn fun future => return .pending future
  | depth + 1 => Future.pollIn (Future.pollInAt depth)

namespace Process

/-- Polls what has not ended, in a call chain. -/
def advanceIn (depth : Nat) : Progress ε ρ → Scoped ε ρ (Progress ε ρ)
  | .ended exit => return .ended exit
  | .running future => do
    match ← future.pollInAt depth with
    | .done exit => return .ended exit
    | .pending future => return .running future

/-- Makes one choice of a schedule. Roots and tasks stand in no extent. -/
def stepIn (depth : Nat) (choice : Choice) (p : Process ε ρ) (heap : Heap) : Process ε ρ × Heap :=
  match choice with
  | .root =>
    let (root, x) := advanceIn depth p.root {} ⟨heap, p.session⟩
    (⟨root, x.session⟩, x.heap)
  | .task number =>
    match p.session.tasks[number]? with
    | none => (p, heap)
    | some progress =>
      let (progress, x) := advanceIn depth progress {} ⟨heap, p.session⟩
      ({ p with session := { x.session with tasks := x.session.tasks.set number progress } }, x.heap)

/-- Follows a schedule. -/
def followIn (depth : Nat) : List Choice → Process ε ρ → Heap → Process ε ρ × Heap
  | [], p, heap => (p, heap)
  | choice :: schedule, p, heap =>
    let (p, heap) := p.stepIn depth choice heap
    followIn depth schedule p heap

end Process

end RequestScope
