import RequestScope.Script.Step

/-!
# Scripts as programs

The program of a script reports notes and returns nothing but whether it failed. Every body notes
how it ended; a body that was dropped is noted by the step that dropped it, a panic by the step that
catches it, and the panic of a whole script or task by its runner. What was awaited has also ended
where it was awaited, as soon as it is known there how.
-/

namespace RequestScope

abbrev Performance (m : Mode) := Program Note (Except Failure Unit) m

namespace Performance

variable {m : Mode}

/-- Notes what a step showed. -/
def note (place : Place) (what : Shown) (next : Performance m) : Performance m :=
  .emit (.shown place what) next

/-- Notes what a step showed, or that there was no context. -/
def noteOr (place : Place) (what : Option Shown) (next : Performance m) : Performance m :=
  note place (what.getD .unbound) next

def failBody (place : Place) (failure : Failure) : Performance m :=
  .emit (.ended place (.failed failure)) (.ret (.error failure))

def endBody (place : Place) : Performance m := .emit (.ended place .ok) (.ret (.ok ()))

/-- Goes on behind a body whose failure is the failure of the enclosing one. -/
def onward (place : Place) (next : Performance m) : Except Failure Unit → Performance m
  | .ok () => next
  | .error failure => failBody place failure

/-- How a body ended that did not panic. -/
def ending : Except Failure Unit → Ending
  | .ok () => .ok
  | .error failure => .failed failure

def taskEnding : Exit (Except Failure Unit) → Ending
  | .returned result => ending result
  | .panicked text => .panicked text

/-- Goes on behind a body whose panic stops here. -/
def caught (place child : Place) (next : Performance m) : Exit (Except Failure Unit) → Performance m
  | .returned result => onward place next result
  | .panicked text => .emit (.ended child (.panicked text)) next

/-- Goes on behind a body that may have been dropped. -/
def abandoned (child : Place) (next : Performance m) : Option (Except Failure Unit) → Performance m
  | none => .emit (.ended child .dropped) next
  | some _ => next

/-- Shows the identifier of the request and the entries that are lent. -/
def showSnapshot (place : Place) : Performance .sync :=
  .inspect .lent fun entries => noteOr place (entries.map fun e => .snapshot e.requestId? e) (.ret (.ok ()))

def showSize (place : Place) : Performance .sync :=
  .inspect .lent fun entries => noteOr place (entries.map fun e => .count e.size) (.ret (.ok ()))

/-- Goes on behind a look at the current context. -/
def looked (place : Place) (next : Performance m) : Option (Except Failure Unit) → Performance m
  | none => note place .unbound next
  | some _ => next

end Performance

open Performance

mutual

/-- Carries out a step of the body at a place, and then the rest of the body. -/
def Step.perform (place : Place) (index : Nat) : {m : Mode} → Step m → Performance m → Performance m
  | _, .create name entries, next => .create name entries (note place .nothing next)
  | _, .fork source name, next => .fork (.register source) name fun _ => note place .nothing next
  | _, .current, next => .inspect .current fun entries => noteOr place (entries.map .entries) next
  | _, .isCurrent name, next =>
    .shares .current (.register name) fun same => noteOr place (same.map .flag) next
  | _, .size, next => .withCurrent (showSize place) (looked place next)
  | _, .get key, next =>
    .inspect .current fun entries => noteOr place (entries.map fun e => .value (e.get? key)) next
  | _, .set key value, next =>
    .insert .current key value fun before => noteOr place (before.map .value) next
  | _, .remove key, next => .remove .current key fun before => noteOr place (before.map .value) next
  | _, .save name, next =>
    .hold .current name fun found => note place (if found then .nothing else .unbound) next
  | _, .setIn name key value, next =>
    .insert (.register name) key value fun before => noteOr place (before.map .value) next
  | _, .showIn name, next =>
    .inspect (.register name) fun entries => noteOr place (entries.map .entries) next
  | _, .snapshot, next => .withCurrent (showSnapshot place) (looked place next)
  | _, .fail failure, _ => note place .failure (failBody place failure)
  | _, .panic text, _ => note place .panic (.panic text)
  | _, .wrap name body, next =>
    let child := place.inside index 0
    .emit (.named child .wrapped name)
      (.wrap name (body.perform child 0) (note place .nothing next))
  | _, .spawn name wrapped body, next =>
    let child := place.inside index 0
    .emit (.named child .task name)
      (.spawn name wrapped (body.perform child 0) (note place .nothing next))
  | _, .runSync name body, next =>
    let child := place.inside index 0
    .emit (.inner place [child] false) (.runSync (.register name) (body.perform child 0) (onward place next))
  | _, .trySync body, next =>
    let child := place.inside index 0
    .emit (.inner place [child] false) (.catchSync (body.perform child 0) (fun
      | .returned _ => next
      | .panicked text => .panic text))
  | _, .catchSync body, next =>
    let child := place.inside index 0
    .emit (.inner place [child] false) (.catchSync (body.perform child 0) (caught place child next))
  | _, .run name body, next =>
    let child := place.inside index 0
    .emit (.inner place [child] false) (.run (.register name) (body.perform child 0) (onward place next))
  | _, .tryBody body, next =>
    let child := place.inside index 0
    .emit (.inner place [child] false) ((body.perform child 0).bind fun _ => next)
  | _, .catchBody body, next =>
    let child := place.inside index 0
    .emit (.inner place [child] false) (.catchPanic (body.perform child 0) (caught place child next))
  | _, .awaitWrapped name, next =>
    let child := place.inside index 0
    .emit (.inner place [child] false) (.emit (.awaited child .wrapped name)
      (.awaitWrapped name fun result => .emit (.ended child (ending result)) (onward place next result)))
  | _, .awaitTask name, next =>
    let child := place.inside index 0
    .emit (.inner place [child] false) (.emit (.awaited child .task name)
      (.awaitTask name fun exit => .emit (.ended child (taskEnding exit)) next))
  | _, .abandon name polls body, next =>
    let child := place.inside index 0
    .emit (.inner place [child] false)
      (.abandon (.register name) polls (body.perform child 0) (abandoned child next))
  | _, .join branches, next =>
    .emit (.inner place ((List.range branches.size).map (place.inside index)) true)
      ((Program.joinAll (.ok ()) (branches.perform place index 0)).bind fun _ => next)
  | _, .pause times, next => .pauses times (note place .nothing next)

/-- Carries out the steps of the body at a place, from the given number on. -/
def Script.perform (place : Place) (index : Nat) : {m : Mode} → Script m → Performance m
  | _, .done => endBody place
  | _, .step first rest => first.perform place index (rest.perform place (index + 1))

/-- The programs of bodies that run side by side. -/
def Branches.perform (place : Place) (index branch : Nat) : Branches → List (Performance .async)
  | .nil => []
  | .cons body rest =>
    body.perform (place.inside index branch) 0 :: rest.perform place index (branch + 1)

end

end RequestScope
