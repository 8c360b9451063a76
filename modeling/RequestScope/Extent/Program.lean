import RequestScope.Context.Entries

/-!
# Programs over ambient contexts

What the code that serves a request does with contexts, as a tree. A program reads and changes
entries, binds a context to the extent of another program, suspends, joins, wraps a program for
later and hands programs to tasks. It names contexts only through the current one, the one lent to
it, and registers of its own, so that it cannot invent a handle. `Program.bind` puts one program
behind another.

Wrapped programs and tasks are kept under names. A name that is given again stands for the later
one, and to await what a name stands for takes the name away.
-/

namespace RequestScope

/-- Whether a program may suspend. -/
inductive Mode
  | sync
  | async
deriving Repr, DecidableEq

inductive Exit (ρ : Type)
  | returned (value : ρ)
  | panicked (text : String)
deriving Repr, DecidableEq

/-- A context as programs name it: the current one, the one that was lent last, or the one in a
register. -/
inductive Target
  | current
  | lent
  | register (name : String)
deriving Repr, DecidableEq

/-- Programs that report events of type `ε` and return values of type `ρ`. -/
inductive Program (ε ρ : Type) : Mode → Type
  | ret {m : Mode} (value : ρ) : Program ε ρ m
  | panic {m : Mode} (text : String) : Program ε ρ m
  | emit {m : Mode} (event : ε) (next : Program ε ρ m) : Program ε ρ m
  /-- Changes the entries of a context and goes on with those before the change, or with nothing if
  there is no such context. -/
  | access {m : Mode} (target : Target) (change : Entries → Entries)
      (next : Option Entries → Program ε ρ m) : Program ε ρ m
  /-- Puts another handle to a context into a register, unless there is no such context. -/
  | hold {m : Mode} (target : Target) (register : String) (next : Bool → Program ε ρ m) :
      Program ε ρ m
  /-- Makes a context and puts the handle into a register. -/
  | create {m : Mode} (register : String) (entries : Entries) (next : Program ε ρ m) : Program ε ρ m
  /-- Asks whether two contexts are one, if there are both. -/
  | shares {m : Mode} (target other : Target) (next : Option Bool → Program ε ρ m) : Program ε ρ m
  /-- Lends the current context to a program that does not suspend, unless there is none. -/
  | withCurrent {m : Mode} (body : Program ε ρ .sync) (next : Option ρ → Program ε ρ m) :
      Program ε ρ m
  /-- Binds a context while a program runs that does not suspend. -/
  | runSync {m : Mode} (target : Target) (body : Program ε ρ .sync) (next : ρ → Program ε ρ m) :
      Program ε ρ m
  | catchSync {m : Mode} (body : Program ε ρ .sync) (next : Exit ρ → Program ε ρ m) : Program ε ρ m
  /-- Binds a context while a program runs. -/
  | run (target : Target) (body : Program ε ρ .async) (next : ρ → Program ε ρ .async) :
      Program ε ρ .async
  | catchPanic (body : Program ε ρ .async) (next : Exit ρ → Program ε ρ .async) : Program ε ρ .async
  /-- Wraps a program in the context that is current now, or in none if there is none, and keeps it
  under a name. -/
  | wrap {m : Mode} (name : String) (body : Program ε ρ .async) (next : Program ε ρ m) :
      Program ε ρ m
  | awaitWrapped (name : String) (next : ρ → Program ε ρ .async) : Program ε ρ .async
  /-- Hands a program to a task, wrapped in the current context or not. -/
  | spawn {m : Mode} (name : String) (wrapped : Bool) (body : Program ε ρ .async)
      (next : Program ε ρ m) : Program ε ρ m
  | awaitTask (name : String) (next : Exit ρ → Program ε ρ .async) : Program ε ρ .async
  | pause (next : Program ε ρ .async) : Program ε ρ .async
  /-- Runs two programs side by side until both have returned. -/
  | join (left right : Program ε ρ .async) (next : ρ → ρ → Program ε ρ .async) : Program ε ρ .async
  /-- Binds a context to a program, polls it at most the given number of times in a row and drops it
  if it has not ended by then. -/
  | abandon {m : Mode} (target : Target) (polls : Nat) (body : Program ε ρ .async)
      (next : Option ρ → Program ε ρ m) : Program ε ρ m

namespace Program

variable {ε ρ : Type}

/-- Goes on behind a program with what it returned. -/
def bind {m : Mode} : Program ε ρ m → (ρ → Program ε ρ m) → Program ε ρ m
  | .ret value, f => f value
  | .panic text, _ => .panic text
  | .emit event next, f => .emit event (next.bind f)
  | .access target change next, f => .access target change fun before => (next before).bind f
  | .hold target register next, f => .hold target register fun found => (next found).bind f
  | .create register entries next, f => .create register entries (next.bind f)
  | .shares target other next, f => .shares target other fun same => (next same).bind f
  | .withCurrent body next, f => .withCurrent body fun value => (next value).bind f
  | .runSync target body next, f => .runSync target body fun value => (next value).bind f
  | .catchSync body next, f => .catchSync body fun exit => (next exit).bind f
  | .run target body next, f => .run target body fun value => (next value).bind f
  | .catchPanic body next, f => .catchPanic body fun exit => (next exit).bind f
  | .wrap name body next, f => .wrap name body (next.bind f)
  | .awaitWrapped name next, f => .awaitWrapped name fun value => (next value).bind f
  | .spawn name wrapped body next, f => .spawn name wrapped body (next.bind f)
  | .awaitTask name next, f => .awaitTask name fun exit => (next exit).bind f
  | .pause next, f => .pause (next.bind f)
  | .join left right next, f => .join left right fun a b => (next a b).bind f
  | .abandon target polls body next, f =>
    .abandon target polls body fun value => (next value).bind f

def pauses : Nat → Program ε ρ .async → Program ε ρ .async
  | 0, next => next
  | times + 1, next => .pause (pauses times next)

def emitAll {m : Mode} (events : List ε) (next : Program ε ρ m) : Program ε ρ m :=
  events.foldr .emit next

/-- Reads the entries of a context. -/
def inspect {m : Mode} (target : Target) (next : Option Entries → Program ε ρ m) : Program ε ρ m :=
  .access target id next

/-- Puts a value under a key and goes on with the one before, if there is such a context. -/
def insert {m : Mode} (target : Target) (key : String) (value : Json)
    (next : Option (Option Json) → Program ε ρ m) : Program ε ρ m :=
  .access target (·.insert key value) fun before => next (before.map (·.get? key))

/-- Takes the value under a key out and goes on with it, if there is such a context. -/
def remove {m : Mode} (target : Target) (key : String)
    (next : Option (Option Json) → Program ε ρ m) : Program ε ρ m :=
  .access target (·.erase key) fun before => next (before.map (·.get? key))

/-- Puts a copy of a context into a register, with entries of its own. -/
def fork {m : Mode} (target : Target) (register : String) (next : Bool → Program ε ρ m) :
    Program ε ρ m :=
  .access target id fun
    | some entries => .create register entries (next true)
    | none => next false

/-- Runs programs side by side, of which only the ends matter. -/
def joinAll (unit : ρ) : List (Program ε ρ .async) → Program ε ρ .async
  | [] => .ret unit
  | [body] => body
  | body :: bodies => .join body (joinAll unit bodies) fun _ _ => .ret unit

end Program

end RequestScope
