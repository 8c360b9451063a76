import RequestScope.Context.Heap
import RequestScope.Extent.Program

/-!
# Futures and polls

How programs run. All programs of a thread share one slot for the current context. A future that
binds a context exchanges its value with the slot when a poll enters it and exchanges them back when
the poll leaves it, however it leaves: with a result, with a panic, or suspended. Dropping a future
does the same. The slot is never looked at but through `Machine.find?`.

A poll runs a program up to its next suspension; what is left is a future again. `Future.pollAt` is
the poll. Its first argument bounds how deep `Program.abandon` and `Program.awaitWrapped` may be
nested, since the one polls futures on its own and the other polls what was kept under a name.
-/

namespace RequestScope

/-- What all programs of a thread share: the cells, the current context, and the contexts lent out,
the latest first. -/
structure World where
  heap : Heap := .empty
  slot : Option Handle := none
  lent : List Handle := []

/-- In which order a poll of a join reaches its two sides, if it reaches both. -/
inductive Turn
  | leftFirst
  | rightFirst
  | leftOnly
  | rightOnly
deriving Repr, DecidableEq

/-- What a future does to the slot: nothing, or exchange it with a value of its own while it is
polled. -/
inductive Binding
  | free
  | held (own : Option Handle)
deriving Repr, DecidableEq

def Binding.ofHandle? : Option Handle → Binding
  | some h => .held (some h)
  | none => .free

/-- A program on its way. -/
inductive Future (ε ρ : Type)
  /-- Goes on with a program. -/
  | ready (program : Program ε ρ .async)
  | ended (value : ρ)
  /-- Waits for a future, with or without a context bound to its polls. -/
  | within (binding : Binding) (body : Future ε ρ) (next : ρ → Program ε ρ .async)
  /-- Waits for a future whose panic is caught. -/
  | caught (body : Future ε ρ) (next : Exit ρ → Program ε ρ .async)
  /-- Waits for two futures. -/
  | joined (left right : Future ε ρ) (next : ρ → ρ → Program ε ρ .async)
  /-- Waits for a task, by its number. -/
  | awaiting (task : Nat) (next : Exit ρ → Program ε ρ .async)

/-- How a task stands. -/
inductive Progress (ε ρ : Type)
  | running (future : Future ε ρ)
  | ended (exit : Exit ρ)

/-- What belongs to one root program and its tasks. Tasks are numbered as they are started, and the
named ones can still be awaited. The latest event stands first; a turn is taken at each poll of a
join, and the left side is first when none is left. -/
structure Session (ε ρ : Type) where
  id : Nat
  made : Nat := 0
  registers : Dictionary Handle := .empty
  wraps : Dictionary (Binding × Program ε ρ .async) := .empty
  tasks : List (Progress ε ρ) := []
  named : Dictionary Nat := .empty
  turns : List Turn := []
  events : List ε := []

/-- A session and the thread that it runs on. -/
structure Machine (ε ρ : Type) where
  world : World
  session : Session ε ρ

/-- What a poll found out. Only what may suspend can be pending. -/
inductive Poll (ε ρ : Type) : Mode → Type
  | done {m : Mode} (exit : Exit ρ) : Poll ε ρ m
  | pending (future : Future ε ρ) : Poll ε ρ .async

inductive PairPoll (ε ρ : Type)
  | both (left right : ρ)
  | panicked (text : String)
  | waiting (left right : Future ε ρ)

/-- The text of the panic when a context is to be bound while the current one is lent out. -/
def lentPanic : String := "cannot enter a task-local scope while the task-local storage is borrowed"

/-- The text of the panic when a name stands for nothing that could be awaited. -/
def awaitPanic (name : String) : String := "nothing to await under the name " ++ name

variable {ε ρ : Type}

namespace Machine

def find? (s : Machine ε ρ) : Target → Option Handle
  | .current => s.world.slot
  | .lent => s.world.lent.head?
  | .register name => s.session.registers.get? name

def binding (s : Machine ε ρ) (target : Target) : Binding := .ofHandle? (s.find? target)

def isLent (s : Machine ε ρ) : Bool := !s.world.lent.isEmpty

def exchange (s : Machine ε ρ) (own : Option Handle) : Option Handle × Machine ε ρ :=
  (s.world.slot, { s with world := { s.world with slot := own } })

def lend (s : Machine ε ρ) (h : Handle) : Machine ε ρ :=
  { s with world := { s.world with lent := h :: s.world.lent } }

/-- Takes the context back that was lent last. -/
def takeBack (s : Machine ε ρ) : Machine ε ρ :=
  { s with world := { s.world with lent := s.world.lent.tail } }

def modify (s : Machine ε ρ) (h : Handle) (change : Entries → Entries) : Machine ε ρ :=
  { s with world := { s.world with heap := s.world.heap.write h (change (s.world.heap.read h)) } }

def assign (s : Machine ε ρ) (register : String) (h : Handle) : Machine ε ρ :=
  { s with session := { s.session with registers := s.session.registers.insert register h } }

def create (s : Machine ε ρ) (register : String) (entries : Entries) : Machine ε ρ :=
  let h : Handle := ⟨s.session.id, s.session.made⟩
  ⟨{ s.world with heap := s.world.heap.write h entries },
    { s.session with made := s.session.made + 1, registers := s.session.registers.insert register h }⟩

def emit (s : Machine ε ρ) (event : ε) : Machine ε ρ :=
  { s with session := { s.session with events := event :: s.session.events } }

/-- Keeps a program under a name, wrapped in the current context. -/
def wrap (s : Machine ε ρ) (name : String) (body : Program ε ρ .async) : Machine ε ρ :=
  let wraps := s.session.wraps.insert name (.ofHandle? s.world.slot, body)
  { s with session := { s.session with wraps } }

def takeWrapped? (s : Machine ε ρ) (name : String) :
    Option (Binding × Program ε ρ .async × Machine ε ρ) :=
  (s.session.wraps.get? name).map fun (binding, body) =>
    (binding, body, { s with session := { s.session with wraps := s.session.wraps.erase name } })

/-- A program for a task, with or without a context bound to its polls. -/
def task (binding : Binding) (body : Program ε ρ .async) : Future ε ρ :=
  .within binding (.ready body) .ret

/-- Starts a task under a name. A task that had the name before goes on without it. -/
def spawn (s : Machine ε ρ) (name : String) (wrapped : Bool) (body : Program ε ρ .async) :
    Machine ε ρ :=
  let binding := if wrapped then .ofHandle? s.world.slot else .free
  let tasks := s.session.tasks ++ [.running (task binding body)]
  let named := s.session.named.insert name s.session.tasks.length
  { s with session := { s.session with tasks, named } }

def takeTask? (s : Machine ε ρ) (name : String) : Option (Nat × Machine ε ρ) :=
  (s.session.named.get? name).map fun task =>
    (task, { s with session := { s.session with named := s.session.named.erase name } })

def taskExit? (s : Machine ε ρ) (task : Nat) : Option (Exit ρ) :=
  match s.session.tasks[task]? with
  | some (.ended exit) => some exit
  | _ => none

def takeTurn (s : Machine ε ρ) : Turn × Machine ε ρ :=
  match s.session.turns with
  | [] => (.leftFirst, s)
  | turn :: turns => (turn, { s with session := { s.session with turns } })

end Machine

/-- Drops a future. A binding is entered for its body to be dropped in, unless the current context
is lent out. -/
def Future.drop : Future ε ρ → Machine ε ρ → Machine ε ρ
  | .ready _, s => s
  | .ended _, s => s
  | .within .free body _, s => body.drop s
  | .within (.held own) body _, s =>
    if s.isLent then body.drop s
    else
      match s.exchange own with
      | (outer, s) => ((body.drop s).exchange outer).2
  | .caught body _, s => body.drop s
  | .joined left right _, s => right.drop (left.drop s)
  | .awaiting _ _, s => s

/-- What is left of a side of a join after a poll that did not panic. -/
def Poll.side : Poll ε ρ .async → Except String (Future ε ρ)
  | .done (.returned value) => .ok (.ended value)
  | .done (.panicked text) => .error text
  | .pending future => .ok future

def PairPoll.ofSides (left right : Future ε ρ) : PairPoll ε ρ :=
  match left, right with
  | .ended a, .ended b => .both a b
  | left, right => .waiting left right

/-- Polls one side and keeps the other. If it panics the other one is dropped. -/
def pollSide (poll : Machine ε ρ → Poll ε ρ .async × Machine ε ρ) (other : Future ε ρ)
    (s : Machine ε ρ) :
    Except String (Future ε ρ) × Machine ε ρ :=
  match poll s with
  | (result, s) =>
    match result.side with
    | .ok future => (.ok future, s)
    | .error text => (.error text, other.drop s)

def pollBoth (first second : Machine ε ρ → Poll ε ρ .async × Machine ε ρ) (untouched : Future ε ρ)
    (s : Machine ε ρ) :
    Except String (Future ε ρ × Future ε ρ) × Machine ε ρ :=
  match pollSide first untouched s with
  | (.error text, s) => (.error text, s)
  | (.ok a, s) =>
    match pollSide second a s with
    | (.error text, s) => (.error text, s)
    | (.ok b, s) => (.ok (a, b), s)

/-- Polls the sides of a join whose turn it is. -/
def pollPair (pollLeft pollRight : Machine ε ρ → Poll ε ρ .async × Machine ε ρ)
    (left right : Future ε ρ) (s : Machine ε ρ) :
    PairPoll ε ρ × Machine ε ρ :=
  match s.takeTurn with
  | (.leftFirst, s) =>
    match pollBoth pollLeft pollRight right s with
    | (.ok (a, b), s) => (.ofSides a b, s)
    | (.error text, s) => (.panicked text, s)
  | (.rightFirst, s) =>
    match pollBoth pollRight pollLeft left s with
    | (.ok (b, a), s) => (.ofSides a b, s)
    | (.error text, s) => (.panicked text, s)
  | (.leftOnly, s) =>
    match pollSide pollLeft right s with
    | (.ok a, s) => (.ofSides a right, s)
    | (.error text, s) => (.panicked text, s)
  | (.rightOnly, s) =>
    match pollSide pollRight left s with
    | (.ok b, s) => (.ofSides left b, s)
    | (.error text, s) => (.panicked text, s)

/-- Runs one poll under a binding: the binding and the slot exchange their values before it, and
exchange them back behind it. -/
def pollWithin {m : Mode} (poll : Machine ε ρ → Poll ε ρ m × Machine ε ρ) (binding : Binding)
    (s : Machine ε ρ) :
    Poll ε ρ m × Binding × Machine ε ρ :=
  match binding with
  | .free =>
    match poll s with
    | (result, s) => (result, .free, s)
  | .held own =>
    if s.isLent then (.done (.panicked lentPanic), .held own, s)
    else
      match s.exchange own with
      | (outer, s) =>
        match poll s with
        | (result, s) =>
          match s.exchange outer with
          | (own, s) => (result, .held own, s)

/-- Polls a future again and again and drops it at last. -/
def pollTimes (again : Future ε ρ → Machine ε ρ → Poll ε ρ .async × Machine ε ρ) : Nat →
    Future ε ρ → Machine ε ρ → Option (Exit ρ) × Machine ε ρ
  | 0, future, s => (none, future.drop s)
  | polls + 1, future, s =>
    match again future s with
    | (.done exit, s) => (some exit, s)
    | (.pending future, s) => pollTimes again polls future s

/-- Runs a program up to its end or its next suspension. `again` polls the futures that are
abandoned later and the programs that were wrapped. -/
def Program.poll (again : Future ε ρ → Machine ε ρ → Poll ε ρ .async × Machine ε ρ) {m : Mode} :
    Program ε ρ m → Machine ε ρ → Poll ε ρ m × Machine ε ρ
  | .ret value, s => (.done (.returned value), s)
  | .panic text, s => (.done (.panicked text), s)
  | .emit event next, s => next.poll again (s.emit event)
  | .access target change next, s =>
    match s.find? target with
    | none => (next none).poll again s
    | some h => (next (some (s.world.heap.read h))).poll again (s.modify h change)
  | .hold target register next, s =>
    match s.find? target with
    | none => (next false).poll again s
    | some h => (next true).poll again (s.assign register h)
  | .create register entries next, s => next.poll again (s.create register entries)
  | .shares target other next, s =>
    match s.find? target, s.find? other with
    | some h, some h' => (next (some (decide (h = h')))).poll again s
    | _, _ => (next none).poll again s
  | .withCurrent body next, s =>
    match s.find? .current with
    | none => (next none).poll again s
    | some h =>
      match body.poll again (s.lend h) with
      | (.done (.returned value), s) => (next (some value)).poll again s.takeBack
      | (.done (.panicked text), s) => (.done (.panicked text), s.takeBack)
  | .runSync target body next, s =>
    match pollWithin (body.poll again) (s.binding target) s with
    | (.done (.returned value), _, s) => (next value).poll again s
    | (.done (.panicked text), _, s) => (.done (.panicked text), s)
  | .catchSync body next, s =>
    match body.poll again s with
    | (.done exit, s) => (next exit).poll again s
  | .run target body next, s =>
    match pollWithin (body.poll again) (s.binding target) s with
    | (.done (.returned value), _, s) => (next value).poll again s
    | (.done (.panicked text), _, s) => (.done (.panicked text), s)
    | (.pending future, binding, s) => (.pending (.within binding future next), s)
  | .catchPanic body next, s =>
    match body.poll again s with
    | (.done exit, s) => (next exit).poll again s
    | (.pending future, s) => (.pending (.caught future next), s)
  | .wrap name body next, s => next.poll again (s.wrap name body)
  | .awaitWrapped name next, s =>
    match s.takeWrapped? name with
    | none => (.done (.panicked (awaitPanic name)), s)
    | some (binding, body, s) =>
      match pollWithin (again (.ready body)) binding s with
      | (.done (.returned value), _, s) => (next value).poll again s
      | (.done (.panicked text), _, s) => (.done (.panicked text), s)
      | (.pending future, binding, s) => (.pending (.within binding future next), s)
  | .spawn name wrapped body next, s => next.poll again (s.spawn name wrapped body)
  | .awaitTask name next, s =>
    match s.takeTask? name with
    | none => (.done (.panicked (awaitPanic name)), s)
    | some (task, s) =>
      match s.taskExit? task with
      | some exit => (next exit).poll again s
      | none => (.pending (.awaiting task next), s)
  | .pause next, s => (.pending (.ready next), s)
  | .join left right next, s =>
    match pollPair (left.poll again) (right.poll again) (.ready left) (.ready right) s with
    | (.both a b, s) => (next a b).poll again s
    | (.panicked text, s) => (.done (.panicked text), s)
    | (.waiting left right, s) => (.pending (.joined left right next), s)
  | .abandon _ 0 _ next, s => (next none).poll again s
  | .abandon target (polls + 1) body next, s =>
    match pollWithin (body.poll again) (s.binding target) s with
    | (.done (.returned value), _, s) => (next (some value)).poll again s
    | (.done (.panicked text), _, s) => (.done (.panicked text), s)
    | (.pending future, binding, s) =>
      match pollTimes again polls (.within binding future .ret) s with
      | (none, s) => (next none).poll again s
      | (some (.returned value), s) => (next (some value)).poll again s
      | (some (.panicked text), s) => (.done (.panicked text), s)

/-- Polls a future. `again` polls the futures that are abandoned later and the programs that were
wrapped. -/
def Future.poll (again : Future ε ρ → Machine ε ρ → Poll ε ρ .async × Machine ε ρ) :
    Future ε ρ → Machine ε ρ → Poll ε ρ .async × Machine ε ρ
  | .ready program, s => program.poll again s
  | .ended value, s => (.done (.returned value), s)
  | .within binding body next, s =>
    match pollWithin (body.poll again) binding s with
    | (.done (.returned value), _, s) => (next value).poll again s
    | (.done (.panicked text), _, s) => (.done (.panicked text), s)
    | (.pending future, binding, s) => (.pending (.within binding future next), s)
  | .caught body next, s =>
    match body.poll again s with
    | (.done exit, s) => (next exit).poll again s
    | (.pending future, s) => (.pending (.caught future next), s)
  | .joined left right next, s =>
    match pollPair (left.poll again) (right.poll again) left right s with
    | (.both a b, s) => (next a b).poll again s
    | (.panicked text, s) => (.done (.panicked text), s)
    | (.waiting left right, s) => (.pending (.joined left right next), s)
  | .awaiting task next, s =>
    match s.taskExit? task with
    | some exit => (next exit).poll again s
    | none => (.pending (.awaiting task next), s)

/-- Polls a future in which `Program.abandon` and `Program.awaitWrapped` are nested at most as deep
as the first argument says. -/
def Future.pollAt : Nat → Future ε ρ → Machine ε ρ → Poll ε ρ .async × Machine ε ρ
  | 0 => Future.poll fun future s => (.pending future, s)
  | depth + 1 => Future.poll (Future.pollAt depth)

end RequestScope
