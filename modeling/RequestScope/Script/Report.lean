import RequestScope.Extent.Process
import RequestScope.Script.Perform

/-!
# Running scripts

A script is run by the fair schedule. The report shows what was done, body by body, how each body
ended, and what is left: the tasks that nothing awaited, the named contexts, and whether a context is
still bound.
-/

namespace RequestScope

/-- What a body did: what its steps showed, and the bodies of its steps with the ways they ended. A
body that never ended has no end. -/
inductive Entry
  | shown (what : Shown)
  | body (trace : List Entry) (ending : Option Ending)
  | branches (bodies : List (List Entry × Option Ending))

structure Report where
  trace : List Entry
  ending : Option Ending
  boundAfter : Bool
  tasks : List (String × List Entry × Option Ending)
  contexts : Dictionary Entries

namespace Note

def ending? (notes : List Note) (place : Place) : Option Ending :=
  notes.findSome? fun
    | .ended other ending => if other = place then some ending else none
    | _ => none

/-- What a note says about a name: that a body got it, or that it was taken away. -/
def naming? (kind : Named) (name : String) : Note → Option (Option Place)
  | .named place other given => if other = kind ∧ given = name then some (some place) else none
  | .awaited _ other given => if other = kind ∧ given = name then some none else none
  | _ => none

/-- The body that a name stands for after the given notes. -/
def bodyNamed? (notes : List Note) (kind : Named) (name : String) : Option Place :=
  (notes.reverse.findSome? (naming? kind name)).join

/-- The body that is shown at a place: what a name stood for when it was awaited there, or else the
body that stands there itself. -/
def source (notes : List Note) (place : Place) : Place :=
  let awaitedHere : Note → Option (Named × String)
    | .awaited other kind name => if other = place then some (kind, name) else none
    | _ => none
  let before := notes.takeWhile fun note => (awaitedHere note).isNone
  match notes.findSome? awaitedHere with
  | some (kind, name) => (bodyNamed? before kind name).getD place
  | none => place

/-- What the notes say about the steps of a body. Bodies are shown up to a depth. -/
def trace (notes : List Note) : Nat → Place → List Entry
  | 0, _ => []
  | depth + 1, place =>
    let body (child : Place) : List Entry × Option Ending :=
      (trace notes depth (source notes child), ending? notes child)
    notes.filterMap fun
      | .shown other what => if other = place then some (.shown what) else none
      | .inner other children isJoin =>
        if other = place then
          match children, isJoin with
          | [child], false => some (.body (body child).1 (body child).2)
          | _, _ => some (.branches (children.map body))
        else none
      | _ => none

/-- The bodies of all tasks in the order of their numbers. -/
def taskBodies (notes : List Note) : List Place :=
  notes.filterMap fun
    | .named place .task _ => some place
    | _ => none

end Note

mutual

/-- The number of steps in a step, with every suspension counted. -/
def Step.weight : {m : Mode} → Step m → Nat
  | _, .wrap _ body => body.weight + 1
  | _, .spawn _ _ body => body.weight + 1
  | _, .runSync _ body => body.weight + 1
  | _, .trySync body => body.weight + 1
  | _, .catchSync body => body.weight + 1
  | _, .run _ body => body.weight + 1
  | _, .tryBody body => body.weight + 1
  | _, .catchBody body => body.weight + 1
  | _, .abandon _ _ body => body.weight + 1
  | _, .join branches => branches.weight + 1
  | _, .pause times => times + 1
  | _, _ => 1

def Script.weight : {m : Mode} → Script m → Nat
  | _, .done => 0
  | _, .step first rest => first.weight + rest.weight

def Branches.weight : Branches → Nat
  | .nil => 0
  | .cons body rest => body.weight + rest.weight + 1

end

def Progress.ending? : Progress Note (Except Failure Unit) → Option Ending
  | .ended exit => some (Performance.taskEnding exit)
  | .running _ => none

/-- Runs a script, and then the tasks that can still be awaited. Every round passes a suspension or
ends a task, so that twice the number of steps is enough of them. -/
def Report.ofScript (script : Script .async) : Report :=
  let weight := script.weight + 1
  let start := Process.ofProgram 0 [] (script.perform .root 0)
  let (p, world) := start.finish weight (2 * weight) {}
  let left := p.session.named
  let (p, world) := p.conclude weight (left.toList.map (·.2)) (2 * weight) world
  let notes := p.events
  let task (number : Nat) : List Entry × Option Ending :=
    (((Note.taskBodies notes)[number]?).elim [] (Note.trace notes weight),
      (p.session.tasks[number]?).bind Progress.ending?)
  { trace := Note.trace notes weight .root
    ending := p.root.ending?
    boundAfter := world.slot.isSome
    tasks := left.toList.map fun (name, number) => (name, task number)
    contexts := p.session.registers.map world.heap.read }

end RequestScope
