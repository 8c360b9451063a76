import RequestScope.Extent.Program

/-!
# Scripts

A script is a row of steps on contexts: to make and to change them, to bind them to bodies of
further steps, to suspend, to fail and to panic. Bodies of synchronous steps hold nothing that
suspends. Wrapped bodies and the bodies of tasks go by names, which may be given again.
-/

namespace RequestScope

mutual

/-- A step of a script. -/
inductive Step : Mode → Type
  | create {m : Mode} (name : String) (entries : Entries) : Step m
  | fork {m : Mode} (source name : String) : Step m
  /-- Shows the current entries. -/
  | current {m : Mode} : Step m
  | isCurrent {m : Mode} (name : String) : Step m
  | size {m : Mode} : Step m
  | get {m : Mode} (key : String) : Step m
  | set {m : Mode} (key : String) (value : Json) : Step m
  | remove {m : Mode} (key : String) : Step m
  /-- Names the current context. -/
  | save {m : Mode} (name : String) : Step m
  /-- Stores a value in a named context. -/
  | setIn {m : Mode} (name key : String) (value : Json) : Step m
  /-- Shows the entries of a named context. -/
  | showIn {m : Mode} (name : String) : Step m
  /-- Shows the identifier of the request and the current entries. -/
  | snapshot {m : Mode} : Step m
  | fail {m : Mode} (failure : Failure) : Step m
  | panic {m : Mode} (text : String) : Step m
  | wrap {m : Mode} (name : String) (body : Script .async) : Step m
  | spawn {m : Mode} (name : String) (wrapped : Bool) (body : Script .async) : Step m
  /-- Binds a context to a synchronous body. -/
  | runSync {m : Mode} (name : String) (body : Script .sync) : Step m
  /-- Stops a failure of a synchronous body. -/
  | trySync {m : Mode} (body : Script .sync) : Step m
  /-- Stops a panic of a synchronous body. -/
  | catchSync {m : Mode} (body : Script .sync) : Step m
  /-- Binds a context to a body. -/
  | run (name : String) (body : Script .async) : Step .async
  /-- Stops a failure. -/
  | tryBody (body : Script .async) : Step .async
  /-- Stops a panic. -/
  | catchBody (body : Script .async) : Step .async
  | awaitWrapped (name : String) : Step .async
  | awaitTask (name : String) : Step .async
  /-- Binds a context to a body, polls it some times and drops it. -/
  | abandon (name : String) (polls : Nat) (body : Script .async) : Step .async
  | join (branches : Branches) : Step .async
  | pause (times : Nat) : Step .async

/-- Steps in a row. -/
inductive Script : Mode → Type
  | done {m : Mode} : Script m
  | step {m : Mode} (first : Step m) (rest : Script m) : Script m

/-- Scripts side by side. -/
inductive Branches : Type
  | nil
  | cons (body : Script .async) (rest : Branches)

end

def Script.ofList {m : Mode} (steps : List (Step m)) : Script m := steps.foldr .step .done

def Branches.ofList (bodies : List (Script .async)) : Branches := bodies.foldr .cons .nil

def Branches.size : Branches → Nat
  | .nil => 0
  | .cons _ rest => rest.size + 1

/-- Where a body stands: the script itself, or a body of a step inside another body. A step that
awaits has a place for what it awaits. -/
inductive Place
  | root
  | inside (outer : Place) (step branch : Nat)
deriving Repr, DecidableEq

inductive Shown
  | nothing
  | unbound
  | failure
  | panic
  | value (v : Option Json)
  | flag (b : Bool)
  | count (n : Nat)
  | entries (e : Entries)
  | snapshot (id : Option String) (e : Entries)

inductive Ending
  | ok
  | failed (failure : Failure)
  | panicked (text : String)
  | dropped

/-- What a name stands for. -/
inductive Named
  | wrapped
  | task
deriving Repr, DecidableEq

/-- What is noted while a script runs. -/
inductive Note
  /-- A step of the body showed something. -/
  | shown (place : Place) (what : Shown)
  /-- A step of the body with bodies of its own began. -/
  | inner (place : Place) (bodies : List Place) (isJoin : Bool)
  | ended (place : Place) (ending : Ending)
  /-- A name was given to the body. -/
  | named (place : Place) (kind : Named) (name : String)
  /-- What the name stands for was awaited, to be shown at the place. -/
  | awaited (place : Place) (kind : Named) (name : String)

end RequestScope
