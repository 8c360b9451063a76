import RequestScope.Proofs.Extent.Events
import RequestScope.Proofs.Extent.Restoration
import RequestScope.Proofs.Extent.Sequence
import RequestScope.Proofs.Http.Headers
import RequestScope.Service.ContextLayer

/-!
# What the context layer adds to a service

The process of a service with the layer around it is compared with the process of the service alone,
called once in the extent of the context that the layer made. Under every schedule the two are equally
far and do the same to cells, registers and tasks; the layer adds a record in front, records at the
end, and a header to the response. `Follows` is what a step keeps.
-/

namespace RequestScope

open Http (HeaderName IsLegal Response)

/-- The process of a program in the extent of a context that the request carries. -/
def Process.ofCall (own : Handle) (turns : List Turn) (program : Work) : Process LogRecord Outcome :=
  ⟨.running (.run own program),
    { id := own.owner, made := own.serial + 1, registers := SortedMap.empty.insert "carried" own, turns }⟩

namespace ContextLayer

/-! ### Records that name an identifier -/

/-- The record of the beginning of an extent with an identifier. -/
def begunWith (request : Http.Request) (id : String) : LogRecord :=
  ⟨.debug, "요청 컨텍스트 바인딩: " ++ request.method ++ " " ++ request.target.path ++ " (request_id=" ++ id ++ ")"⟩

/-- The record of the end of an extent with an identifier. -/
def endedWith (outcome : Outcome) (id : String) : LogRecord :=
  let result := match outcome with
    | .response r => "status=" ++ r.status.describe ++ " "
    | .failure f => "처리 실패 " ++ f.message ++ " "
    | .value _ => ""
  ⟨.debug, "요청 컨텍스트 해제: " ++ result ++ "(request_id=" ++ id ++ ")"⟩

theorem bindRecord_some (request : Http.Request) (id : String) :
    bindRecord request (some id) = begunWith request id := by
  have hspace : " " ++ "(request_id=" = " (request_id=" := rfl
  simp only [bindRecord, begunWith, shownId, Option.getD_some, ← hspace, String.append_assoc]

theorem releaseRecord_some (outcome : Outcome) (id : String) :
    releaseRecord outcome (some id) = endedWith outcome id := by
  have hstatus : "요청 컨텍스트 해제: " ++ "status=" = "요청 컨텍스트 해제: status=" := rfl
  have hfailure : "요청 컨텍스트 해제: " ++ "처리 실패 " = "요청 컨텍스트 해제: 처리 실패 " := rfl
  cases outcome <;>
    simp only [releaseRecord, endedWith, shownId, Option.getD_some, ← hstatus, ← hfailure,
      String.append_assoc, String.empty_append]

/-! ### The end of a service -/

/-- How the layer passes on the end of a service, and the records that it logs: a response gets the
identifier into its header if there are both and the identifier is legal there, and is else left as it
is. -/
inductive PassesOn (layer : ContextLayer) (id : Option String) : Outcome → Outcome → List LogRecord → Prop
  | unanswered (outcome : Outcome) (h : ∀ r, outcome ≠ .response r) :
      layer.PassesOn id outcome outcome [releaseRecord outcome id]
  | unmarked (r : Response) (h : layer.echo = none ∨ id = none) :
      layer.PassesOn id (.response r) (.response r) [releaseRecord (.response r) id]
  | illegal (r : Response) (header : HeaderName) (text : String) (hecho : layer.echo = some header)
      (hid : id = some text) (h : ¬ IsLegal text) :
      layer.PassesOn id (.response r) (.response r) [releaseRecord (.response r) id, illegalId]
  | marked (r r' : Response) (header : HeaderName) (text : String) (hecho : layer.echo = some header)
      (hid : id = some text) (h : IsLegal text) (hr : r.Marked header ⟨Text.Utf8.encode text⟩ r') :
      layer.PassesOn id (.response r) (.response r') [releaseRecord (.response r) id]

theorem release_eq (layer : ContextLayer) (id : Option String) (outcome : Outcome) :
    ∃ outcome' records, layer.PassesOn id outcome outcome' records ∧
      layer.release id outcome = .emitAll records (.ret outcome') := by
  cases outcome with
  | response r =>
    rw [release]
    cases hecho : layer.echo with
    | none =>
      refine ⟨_, _, .unmarked r (.inl hecho), ?_⟩
      simp only [echoId, hecho]
      rfl
    | some header =>
      cases hid : id with
      | none =>
        refine ⟨_, _, .unmarked r (.inr rfl), ?_⟩
        simp only [echoId, hecho]
        rfl
      | some text =>
        by_cases hlegal : IsLegal text
        · refine ⟨_, _, .marked r _ header text hecho rfl hlegal (r.marked_replace header _), ?_⟩
          simp only [echoId, hecho, Http.HeaderValue.ofText?_of_legal hlegal]
          rfl
        · refine ⟨_, _, .illegal r header text hecho rfl hlegal, ?_⟩
          simp only [echoId, hecho, Http.HeaderValue.ofText?_of_not_legal hlegal]
          rfl
  | failure f => exact ⟨_, _, .unanswered _ (fun _ h => nomatch h), rfl⟩
  | value v => exact ⟨_, _, .unanswered _ (fun _ h => nomatch h), rfl⟩

namespace PassesOn

variable {layer : ContextLayer} {outcome outcome' : Outcome} {records : List LogRecord}

theorem unchanged {id : Option String} (h : layer.PassesOn id outcome outcome' records)
    (hnone : layer.echo = none ∨ id = none) :
    records = [releaseRecord outcome id] ∧ outcome' = outcome := by
  cases h with
  | unanswered outcome h => exact ⟨rfl, rfl⟩
  | unmarked r h => exact ⟨rfl, rfl⟩
  | illegal r header text hecho hid h =>
    rw [hecho, hid] at hnone
    obtain hnone | hnone := hnone <;> cases hnone
  | marked r r' header text hecho hid h hr =>
    rw [hecho, hid] at hnone
    obtain hnone | hnone := hnone <;> cases hnone

theorem of_legal {header : HeaderName} {text : String}
    (h : layer.PassesOn (some text) outcome outcome' records) (hecho : layer.echo = some header)
    (hlegal : IsLegal text) :
    records = [releaseRecord outcome (some text)] ∧
      match outcome with
      | .response r => ∃ r', outcome' = .response r' ∧ r.Marked header ⟨Text.Utf8.encode text⟩ r'
      | outcome => outcome' = outcome := by
  cases h with
  | unanswered outcome h =>
    cases outcome with
    | response r => exact absurd rfl (h r)
    | failure f => exact ⟨rfl, rfl⟩
    | value v => exact ⟨rfl, rfl⟩
  | unmarked r h =>
    rw [hecho] at h
    obtain h | h := h <;> cases h
  | illegal r header' text' hecho' hid h =>
    cases hid
    exact absurd hlegal h
  | marked r r' header' text' hecho' hid h hr =>
    cases hid
    cases hecho.symm.trans hecho'
    exact ⟨rfl, r', rfl, hr⟩

end PassesOn

/-! ### Step by step -/

/-- How far a process with the layer is when the process of the call is as far as it is. -/
inductive Follows (layer : ContextLayer) (id : Option String) (own : Handle) (begun : LogRecord) :
    Process LogRecord Outcome → Process LogRecord Outcome → Prop
  | inside (body : Future LogRecord Outcome) (session : Session LogRecord Outcome) :
      layer.Follows id own begun ⟨.running (.within (.held (some own)) body .ret), session⟩
        ⟨.running (.within (.held (some own)) (body.bind (layer.release id)) .ret), session.behind [begun]⟩
  | panicked (text : String) (session : Session LogRecord Outcome) :
      layer.Follows id own begun ⟨.ended (.panicked text), session⟩
        ⟨.ended (.panicked text), session.behind [begun]⟩
  | passed (outcome outcome' : Outcome) (records during : List LogRecord)
      (session : Session LogRecord Outcome) (h : layer.PassesOn id outcome outcome' records) :
      layer.Follows id own begun ⟨.ended (.returned outcome), session.behind during⟩
        ⟨.ended (.returned outcome'), session.behind (records.reverse ++ during ++ [begun])⟩

theorem stepIn_root (depth : Nat) (own : Handle) (body : Future LogRecord Outcome)
    (session : Session LogRecord Outcome) (heap : Heap) :
    Process.stepIn depth .root ⟨.running (.within (.held (some own)) body .ret), session⟩ heap =
      match body.pollInAt depth { extents := [some own] } ⟨heap, session⟩ with
      | (.done exit, x) => (⟨.ended exit, x.session⟩, x.heap)
      | (.pending body, x) => (⟨.running (.within (.held (some own)) body .ret), x.session⟩, x.heap) := by
  have hpoll : (Future.within (.held (some own)) body .ret).pollInAt depth {} ⟨heap, session⟩ =
      ((body.pollInAt depth { extents := [some own] } ⟨heap, session⟩).1.under own,
        (body.pollInAt depth { extents := [some own] } ⟨heap, session⟩).2) :=
    Future.pollInAt_within depth own body {} ⟨heap, session⟩
  rw [Process.stepIn, Process.advanceIn, Scoped.bind_apply, hpoll]
  rcases body.pollInAt depth { extents := [some own] } ⟨heap, session⟩ with ⟨_ | _, x⟩ <;> rfl

/-- What is polled with the release behind it ends with what the release makes of its end. -/
theorem pollInAt_release (layer : ContextLayer) (id : Option String) (depth : Nat)
    (body : Future LogRecord Outcome) (chain : CallChain) (x : Scene LogRecord Outcome) :
    (∀ text x', body.pollInAt depth chain x = (.done (.panicked text), x') →
      (body.bind (layer.release id)).pollInAt depth chain x = (.done (.panicked text), x')) ∧
    (∀ body' x', body.pollInAt depth chain x = (.pending body', x') →
      (body.bind (layer.release id)).pollInAt depth chain x =
        (.pending (body'.bind (layer.release id)), x')) ∧
    ∀ outcome x', body.pollInAt depth chain x = (.done (.returned outcome), x') →
      ∃ outcome' records, layer.PassesOn id outcome outcome' records ∧
        (body.bind (layer.release id)).pollInAt depth chain x =
          (.done (.returned outcome'),
            { x' with session := { x'.session with events := records.reverse ++ x'.session.events } }) := by
  obtain ⟨againIn, hbind⟩ := Future.exists_pollInAt_bind (ε := LogRecord) (ρ := Outcome) depth
  rw [hbind, Scoped.bind_apply]
  refine ⟨fun text x' h => ?_, fun body' x' h => ?_, fun outcome x' h => ?_⟩
  · rw [h]
    rfl
  · rw [h]
    rfl
  · obtain ⟨outcome', records, hpasses, hrelease⟩ := layer.release_eq id outcome
    refine ⟨outcome', records, hpasses, ?_⟩
    rw [h, Poll.goOn, hrelease, Program.pollIn_emitAll]

namespace Follows

variable {layer : ContextLayer} {id : Option String} {own : Handle} {begun : LogRecord}
  {called outer : Process LogRecord Outcome}

theorem stepRoot (h : layer.Follows id own begun called outer) (depth : Nat) (heap : Heap) :
    ∃ called' outer' heap', called.stepIn depth .root heap = (called', heap') ∧
      outer.stepIn depth .root heap = (outer', heap') ∧ layer.Follows id own begun called' outer' := by
  cases h with
  | inside body session =>
    obtain ⟨hpanicked, hpending, hreturned⟩ :=
      layer.pollInAt_release id depth body { extents := [some own] } ⟨heap, session⟩
    have hbehind : (body.bind (layer.release id)).pollInAt depth { extents := [some own] }
        ⟨heap, session.behind [begun]⟩ = _ :=
      Future.pollInAt_heedless depth _ { extents := [some own] } ⟨heap, session⟩ [begun]
    rw [stepIn_root, stepIn_root, hbehind]
    rcases hbody : body.pollInAt depth { extents := [some own] } ⟨heap, session⟩ with ⟨result, x⟩
    cases result with
    | done exit =>
      cases exit with
      | returned outcome =>
        obtain ⟨outcome', records, hpasses, hpoll⟩ := hreturned outcome x hbody
        rw [hpoll]
        exact ⟨_, _, _, rfl, rfl,
          .passed outcome outcome' records x.session.events { x.session with events := [] } hpasses⟩
      | panicked text =>
        rw [hpanicked text x hbody]
        exact ⟨_, _, _, rfl, rfl, .panicked text x.session⟩
    | pending body' =>
      rw [hpending body' x hbody]
      exact ⟨_, _, _, rfl, rfl, .inside body' x.session⟩
  | panicked text session => exact ⟨_, _, heap, rfl, rfl, .panicked text session⟩
  | passed outcome outcome' records during session hpasses =>
    exact ⟨_, _, heap, rfl, rfl, .passed outcome outcome' records during session hpasses⟩

theorem stepTask (h : layer.Follows id own begun called outer) (depth number : Nat) (heap : Heap) :
    ∃ called' outer' heap', called.stepIn depth (.task number) heap = (called', heap') ∧
      outer.stepIn depth (.task number) heap = (outer', heap') ∧
      layer.Follows id own begun called' outer' := by
  cases h with
  | inside body session =>
    obtain ⟨session', heap', hstep⟩ := Process.stepIn_task_behind depth number session heap
    have hcalled := hstep (.running (.within (.held (some own)) body .ret)) []
    rw [Session.behind_nil, Session.behind_nil] at hcalled
    exact ⟨_, _, heap', hcalled, hstep _ _, .inside body session'⟩
  | panicked text session =>
    obtain ⟨session', heap', hstep⟩ := Process.stepIn_task_behind depth number session heap
    have hcalled := hstep (.ended (.panicked text)) []
    rw [Session.behind_nil, Session.behind_nil] at hcalled
    exact ⟨_, _, heap', hcalled, hstep _ _, .panicked text session'⟩
  | passed outcome outcome' records during session hpasses =>
    obtain ⟨session', heap', hstep⟩ := Process.stepIn_task_behind depth number session heap
    exact ⟨_, _, heap', hstep _ _, hstep _ _,
      .passed outcome outcome' records during session' hpasses⟩

theorem follow (h : layer.Follows id own begun called outer) (depth : Nat) (schedule : List Choice)
    (heap : Heap) :
    ∃ called' outer' heap', called.follow depth schedule { heap } = (called', { heap := heap' }) ∧
      outer.follow depth schedule { heap } = (outer', { heap := heap' }) ∧
      layer.Follows id own begun called' outer' := by
  induction schedule generalizing called outer heap with
  | nil => exact ⟨called, outer, heap, rfl, rfl, h⟩
  | cons choice schedule ih =>
    obtain ⟨called', outer', heap', hcalled, houter, h'⟩ :
        ∃ called' outer' heap', called.stepIn depth choice heap = (called', heap') ∧
          outer.stepIn depth choice heap = (outer', heap') ∧
          layer.Follows id own begun called' outer' := by
      cases choice with
      | root => exact h.stepRoot depth heap
      | task number => exact h.stepTask depth number heap
    rw [Process.follow, Process.follow, Process.step_machine, Process.step_machine, hcalled, houter]
    exact ih h' heap'

/-- What has been added when the called service has returned. -/
theorem of_returned (h : layer.Follows id own begun called outer) {outcome : Outcome}
    (hroot : called.root = .ended (.returned outcome)) :
    ∃ outcome' records during late, layer.PassesOn id outcome outcome' records ∧
      outer.exit? = some (.returned outcome') ∧ called.events = during ++ late ∧
      outer.events = begun :: during ++ records ++ late := by
  cases h with
  | inside body session => cases hroot
  | panicked text session => cases hroot
  | passed outcome outcome' records during session hpasses =>
    cases hroot
    refine ⟨outcome', records, during.reverse, session.events.reverse, hpasses, rfl, ?_, ?_⟩
    · simp [Process.events, Session.behind]
    · simp [Process.events, Session.behind]

end Follows

/-- The first poll of a service with the layer makes the context, enters its extent and calls the
service there. -/
theorem pollInAt_around (layer : ContextLayer) (ids : IdSupply) (inner : Service)
    (request : Http.Request) (number : Nat) (turns : List Turn) (depth : Nat) (heap : Heap) :
    let entries := (layer.initializer.entries request ids).1
    let own : Handle := ⟨number, 0⟩
    (Future.ready (layer.around ids inner request)).pollInAt depth {} ⟨heap, { id := number, turns }⟩ =
      (Future.within (.held (some own))
        ((Future.ready (inner request)).bind (layer.release entries.requestId?)) .ret).pollInAt depth {}
          ⟨heap.write own entries, (Process.ofCall own turns (inner request)).session.behind
            [bindRecord request entries.requestId?]⟩ := by
  intro entries own
  let begun := bindRecord request entries.requestId?
  let body := (inner request).bind (layer.release entries.requestId?)
  let x : Scene LogRecord Outcome :=
    ⟨heap.write own entries, (Process.ofCall own turns (inner request)).session⟩
  have hmake : Scoped.make "carried" entries {} ⟨heap, { id := number, turns }⟩ = ((), x) := rfl
  have hbinding : Scoped.binding carried {} x = (.held (some own), x) := rfl
  obtain ⟨againIn, hpoll⟩ := Future.exists_pollInAt (ε := LogRecord) (ρ := Outcome) depth
  have hinside : Scoped.inside (.held (some own)) ((Program.emit begun body).pollIn againIn) {} x =
      Scoped.inside (.held (some own)) (body.pollIn againIn) {} (x.behind [begun]) := by
    rw [Scoped.inside_held, Scoped.inside_held]
    rfl
  rw [hpoll, Future.pollIn, around, Program.pollIn, Scoped.bind_apply, hmake, Program.pollIn,
    Scoped.bind_apply, hbinding, Scoped.bind_apply, hinside]
  rfl

/-- Under every schedule, a service with the layer and the service called alone are equally far, in
the same world. -/
theorem exists_follows (layer : ContextLayer) (ids : IdSupply) (inner : Service)
    (request : Http.Request) (number : Nat) (turns : List Turn) (depth : Nat) (schedule : List Choice)
    (heap : Heap) :
    let entries := (layer.initializer.entries request ids).1
    let own : Handle := ⟨number, 0⟩
    ∃ called outer heap', layer.Follows entries.requestId? own (bindRecord request entries.requestId?)
        called outer ∧
      (Process.ofCall own turns (inner request)).follow depth (.root :: schedule)
        { heap := heap.write own entries } = (called, { heap := heap' }) ∧
      (Process.ofProgram number turns (layer.around ids inner request)).follow depth (.root :: schedule)
        { heap } = (outer, { heap := heap' }) := by
  intro entries own
  let begun := bindRecord request entries.requestId?
  let call := Process.ofCall own turns (inner request)
  let entered : Process LogRecord Outcome :=
    ⟨.running (.within (.held (some own))
      ((Future.ready (inner request)).bind (layer.release entries.requestId?)) .ret),
      call.session.behind [begun]⟩
  have hentered : layer.Follows entries.requestId? own begun call entered :=
    .inside (.ready (inner request)) call.session
  have hfirst : (Process.ofProgram number turns (layer.around ids inner request)).stepIn depth .root heap =
      entered.stepIn depth .root (heap.write own entries) := by
    have hpoll := layer.pollInAt_around ids inner request number turns depth heap
    rw [Process.stepIn, Process.stepIn, Process.ofProgram, Process.advanceIn, Process.advanceIn,
      Scoped.bind_apply, Scoped.bind_apply, hpoll]
  obtain ⟨called, outer, heap', hcalled, houter, hfollows⟩ :=
    hentered.follow depth (.root :: schedule) (heap.write own entries)
  refine ⟨called, outer, heap', hfollows, hcalled, ?_⟩
  rw [Process.follow, Process.step_machine] at houter ⊢
  rw [hfirst]
  exact houter

/-- A service with the layer does what the service does that is called once, at the first poll, in the
extent of the context that the layer made: the same to every cell, register, wrapped program and task,
and as far. In front of the service's records the layer puts one; if the service panics it adds nothing,
and if the service returns it adds the records, and makes the end, that `PassesOn` tells of, with the
identifier that the context had before the call. -/
theorem serves_in_extent (layer : ContextLayer) (ids : IdSupply) (inner : Service)
    (request : Http.Request) (number : Nat) (turns : List Turn) (depth : Nat) (schedule : List Choice)
    (heap : Heap) :
    let entries := (layer.initializer.entries request ids).1
    let id := entries.requestId?
    let own : Handle := ⟨number, 0⟩
    let begun := bindRecord request id
    let called := (Process.ofCall own turns (inner request)).follow depth (.root :: schedule)
      { heap := heap.write own entries }
    let outer := (Process.ofProgram number turns (layer.around ids inner request)).follow depth
      (.root :: schedule) { heap }
    (begun.level = .debug ∧ (∀ outcome, (releaseRecord outcome id).level = .debug) ∧
      illegalId.level = .warn) ∧
    outer.2 = called.2 ∧
    { outer.1.session with events := [] } = { called.1.session with events := [] } ∧
    match called.1.exit? with
    | none => outer.1.exit? = none ∧ outer.1.events = begun :: called.1.events
    | some (.panicked text) =>
      outer.1.exit? = some (.panicked text) ∧ outer.1.events = begun :: called.1.events
    | some (.returned outcome) => ∃ outcome' records during late,
      layer.PassesOn id outcome outcome' records ∧ outer.1.exit? = some (.returned outcome') ∧
      called.1.events = during ++ late ∧ outer.1.events = begun :: during ++ records ++ late := by
  intro entries id own begun called outer
  obtain ⟨called', outer', heap', hfollows, hcalled, houter⟩ :=
    layer.exists_follows ids inner request number turns depth schedule heap
  have hcalled : called = (called', { heap := heap' }) := hcalled
  have houter : outer = (outer', { heap := heap' }) := houter
  refine ⟨⟨rfl, fun outcome => by cases outcome <;> rfl, rfl⟩, ?_⟩
  rw [hcalled, houter]
  refine ⟨rfl, ?_⟩
  cases hfollows with
  | inside body session => exact ⟨rfl, rfl, by simp [Process.events, Session.behind, begun, id, entries]⟩
  | panicked text session =>
    exact ⟨rfl, rfl, by simp [Process.events, Session.behind, begun, id, entries]⟩
  | passed outcome outcome' records during session hpasses =>
    refine ⟨rfl, outcome', records, during.reverse, session.events.reverse, hpasses, rfl, ?_, ?_⟩
    · simp [Process.events, Session.behind]
    · simp [Process.events, Session.behind, begun, id, entries]

end ContextLayer

end RequestScope
