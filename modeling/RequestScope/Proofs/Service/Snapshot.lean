import RequestScope.Proofs.Context.Beginning
import RequestScope.Proofs.Service.SafeEcho
import RequestScope.Service.Site

/-!
# What a snapshot shows

A snapshot shows the context of the innermost extent around it, wherever it is taken, and nothing where
there is no extent. The endpoint that shows the context of a request therefore shows what the context
layer has bound, and the identifier in its body, in the records of the layer and in the header of the
response is one.
-/

namespace RequestScope

open Http (HeaderName HeaderValue Response)
open Settings (ContextSettings)

/-! ### Snapshots at any place -/

/-- Entries as they are shown: the identifier among them, if it is a text, and all of them. -/
def Entries.shown (entries : Entries) : Json :=
  .ofMembers [("request_id", ((entries.get? "request_id").bind Json.string?).elim .null .string),
    ("values", .ofDictionary entries)]

/-- A snapshot leaves all entries as they are: it writes back what it has read. -/
theorem Work.pollAt_snapshot (depth : Nat) (next : Option Json → Work) (chain : CallChain)
    (x : Scene LogRecord Outcome) :
    (Future.ready (Work.snapshot next)).pollAt depth (x.machine chain) =
      match chain.current with
      | none => (Future.ready (next none)).pollAt depth (x.machine chain)
      | some h =>
        (Future.ready (next (some (x.heap.read h).shown))).pollAt depth
          ((x.machine chain).modify h id) := by
  obtain ⟨again, hpoll⟩ := Future.exists_pollAt (ε := LogRecord) (ρ := Outcome) depth
  have hfind : (x.machine chain).find? .current = chain.current := rfl
  rw [hpoll, Future.poll, snapshot, Program.poll, hfind]
  cases chain.current with
  | none => rfl
  | some h => rfl

/-- What a snapshot reads from the context that is lent to it. -/
theorem Work.pollIn_inspect_lent (againIn : Future LogRecord Outcome → Scoped LogRecord Outcome
    (Poll LogRecord Outcome .async)) (answer : Option Entries → Program LogRecord Outcome .sync)
    (chain : CallChain) (h : Handle) (x : Scene LogRecord Outcome) :
    (Program.inspect .lent answer).pollIn againIn (chain.lend h) x =
      (answer (some (x.heap.read h))).pollIn againIn (chain.lend h)
        { x with heap := x.heap.write h (x.heap.read h) } := by
  rw [Program.inspect, Program.pollIn, Scoped.bind_apply, find?_machine]
  rfl

theorem Work.pollIn_snapshot (againIn : Future LogRecord Outcome → Scoped LogRecord Outcome
    (Poll LogRecord Outcome .async)) (next : Option Json → Work) {chain : CallChain} {h : Handle}
    (hcurrent : chain.current = some h) (x : Scene LogRecord Outcome) :
    (Work.snapshot next).pollIn againIn chain x =
      (next (some (x.heap.read h).shown)).pollIn againIn chain
        { x with heap := x.heap.write h (x.heap.read h) } := by
  have hfind : Scoped.find? .current chain x = (some h, x) := by
    rw [find?_machine]
    exact congrArg (·, x) hcurrent
  rw [snapshot, Program.pollIn, Scoped.bind_apply, hfind]
  simp only [Scoped.bind_apply, Scoped.withReader_apply, pollIn_inspect_lent, Program.pollIn]
  rfl

/-! ### The endpoint -/

theorem Route.dispatch_context {routes others : List Route} {request : Http.Request}
    (hroutes : ∀ route ∈ routes, route.match? request = none)
    (hcontext : (contextRoute.match? request).isSome) :
    dispatch (routes ++ contextRoute :: others) request =
      (Work.snapshot fun | some v => Work.answer v | none => Work.fail Work.noExtent).bind Work.settle := by
  obtain ⟨parameters, hmatch⟩ := Option.isSome_iff_exists.mp hcontext
  have hnone : (routes.findSome? fun route => (route.match? request).map route.handler) = none :=
    List.findSome?_eq_none_iff.mpr fun route hroute => by rw [hroutes route hroute, Option.map_none]
  rw [dispatch, List.findSome?_append, hnone, List.findSome?_cons, hmatch]
  rfl

section

variable {againIn : Future LogRecord Outcome → Scoped LogRecord Outcome (Poll LogRecord Outcome .async)}
  {routes others : List Route} {request : Http.Request} {chain : CallChain} {h : Handle}

theorem Route.pollIn_dispatch_context (hroutes : ∀ route ∈ routes, route.match? request = none)
    (hcontext : (contextRoute.match? request).isSome) (hcurrent : chain.current = some h)
    (x : Scene LogRecord Outcome) :
    (dispatch (routes ++ contextRoute :: others) request).pollIn againIn chain x =
      (.done (.returned (.response (.json .ok (x.heap.read h).shown))),
        { x with heap := x.heap.write h (x.heap.read h) }) := by
  rw [dispatch_context hroutes hcontext, Program.pollIn_bind, Scoped.bind_apply,
    Work.pollIn_snapshot againIn _ hcurrent]
  rfl

/-- What the layer for other origins makes of a response to a request that is no question of a browser. -/
def Cors.sharing (cors : Option Cors) (request : Http.Request) (r : Response) : Response :=
  cors.elim r fun cors => cors.augment request r

theorem Cors.sharing_status_body (cors : Option Cors) (request : Http.Request) (r : Response) :
    (sharing cors request r).status = r.status ∧ (sharing cors request r).body = r.body := by
  cases cors with
  | none => exact ⟨rfl, rfl⟩
  | some cors => exact ⟨rfl, rfl⟩

theorem Cors.pollIn_around {cors : Option Cors} {inner : Service} {r : Response}
    {x x' : Scene LogRecord Outcome} (hasked : cors.isSome → Cors.asked? request = none)
    (hinner : (inner request).pollIn againIn chain x = (.done (.returned (.response r)), x')) :
    ((cors.elim inner fun cors => cors.around inner) request).pollIn againIn chain x =
      (.done (.returned (.response (sharing cors request r))), x') := by
  cases cors with
  | none => exact hinner
  | some cors =>
    rw [Option.elim_some, around, hasked rfl, Program.pollIn_bind, Scoped.bind_apply, hinner]
    rfl

end

/-! ### Served in one poll -/

namespace Process

theorem follow_ended (depth : Nat) (schedule : List Choice) {p : Process LogRecord Outcome}
    {exit : Exit Outcome} (hroot : p.root = .ended exit) (htasks : p.session.tasks = []) (world : World) :
    p.follow depth schedule world = (p, world) := by
  induction schedule with
  | nil => rfl
  | cons choice schedule ih =>
    have hstep : p.step depth choice world = (p, world) := by
      obtain ⟨root, session⟩ := p
      cases hroot
      cases choice with
      | root => rfl
      | task number =>
        have hnone : session.tasks[number]? = none := by
          rw [show session.tasks = [] from htasks]
          rfl
        rw [step, hnone]
    rw [follow, hstep]
    exact ih

/-- A service that ends at its first poll has ended under every schedule. -/
theorem follow_ofCall (own : Handle) (turns : List Turn) {program : Work} {outcome : Outcome} {heap heap' : Heap}
    (hpoll : ∀ againIn session, program.pollIn againIn { extents := [some own] } ⟨heap, session⟩ =
      (.done (.returned outcome), ⟨heap', session⟩)) (depth : Nat) (schedule : List Choice) :
    (ofCall own turns program).follow depth (.root :: schedule) { heap } =
      (⟨.ended (.returned outcome), (ofCall own turns program).session⟩, { heap := heap' }) := by
  obtain ⟨againIn, hagain⟩ := Future.exists_pollInAt (ε := LogRecord) (ρ := Outcome) depth
  have hready (session : Session LogRecord Outcome) :
      (Future.ready program).pollInAt depth { extents := [some own] } ⟨heap, session⟩ =
        (.done (.returned outcome), ⟨heap', session⟩) := by
    rw [hagain]
    exact hpoll againIn session
  have hstep : (ofCall own turns program).stepIn depth .root heap =
      (⟨.ended (.returned outcome), (ofCall own turns program).session⟩, heap') := by
    rw [ofCall, Future.run, ContextLayer.stepIn_root, hready]
  rw [follow, step_machine, hstep]
  exact follow_ended depth schedule rfl rfl { heap := heap' }

end Process

namespace ContextLayer

theorem PassesSafely.exists_response {settings : ContextSettings} {id : Option String} {r : Response}
    {outcome : Outcome} (h : PassesSafely settings id (.response r) outcome) :
    ∃ response, outcome = .response response := by
  rw [PassesSafely] at h
  split at h
  · obtain ⟨text, response, -, houtcome, -⟩ := h
    exact ⟨response, houtcome⟩
  · exact ⟨r, h⟩

theorem serves_endpoint (settings : ContextSettings) {ids : IdSupply}
    (hids : ∀ format n, IsUuid (ids.source format n)) (others : List Route) {routes : List Route}
    {request : Http.Request}
    (hroutes : ∀ route ∈ routes, route.match? request = none)
    (hcontext : (contextRoute.match? request).isSome) {cors : Option Cors}
    (hasked : cors.isSome → Cors.asked? request = none) (number : Nat) (turns : List Turn) (depth : Nat)
    (schedule : List Choice) (heap : Heap) :
    let layer := ofSettings settings
    let entries := (layer.initializer.entries request ids).1
    let id := entries.requestId?
    let endpoint := Route.dispatch (routes ++ contextRoute :: others)
    let inner := cors.elim endpoint fun cors => cors.around endpoint
    let own := Cors.sharing cors request (.json .ok entries.shown)
    let outer := (Process.ofProgram number turns (layer.around ids inner request)).follow depth
      (.root :: schedule) { heap }
    ∃ response, outer.1.exit? = some (.returned (.response response)) ∧
      outer.1.events = [bindRecord request id, releaseRecord (.response own) id] ∧
      PassesSafely settings id (.response own) (.response response) := by
  intro layer entries id endpoint inner own outer
  let bound : Handle := ⟨number, 0⟩
  have hpoll (againIn) (session : Session LogRecord Outcome) :
      (inner request).pollIn againIn { extents := [some bound] } ⟨heap.write bound entries, session⟩ =
        (.done (.returned (.response own)), ⟨(heap.write bound entries).write bound entries, session⟩) := by
    have hendpoint : (endpoint request).pollIn againIn { extents := [some bound] }
        ⟨heap.write bound entries, session⟩ = _ :=
      Route.pollIn_dispatch_context hroutes hcontext rfl _
    rw [Heap.read_write, if_pos rfl] at hendpoint
    exact Cors.pollIn_around hasked hendpoint
  obtain ⟨called, outer', heap', hfollows, hcalled, houter⟩ :=
    layer.exists_follows ids inner request number turns depth schedule heap
  rw [Process.follow_ofCall bound turns hpoll] at hcalled
  obtain ⟨rfl, -⟩ := Prod.mk.inj hcalled
  obtain ⟨outcome', records, during, late, hpasses, hexit, hcalled, hevents⟩ := hfollows.of_returned rfl
  obtain ⟨rfl, rfl⟩ : during = [] ∧ late = [] := List.append_eq_nil_iff.mp hcalled.symm
  obtain ⟨rfl, hsafely⟩ := hpasses.safely fun format n => isAcceptableId_of_isUuid (hids format n)
  have houter : outer = (outer', { heap := heap' }) := houter
  rw [houter]
  obtain ⟨response, rfl⟩ := hsafely.exists_response
  exact ⟨response, hexit, hevents, hsafely⟩

/-- The records of the layer name the identifier in their last words. -/
theorem records_name_id (request : Http.Request) (r : Response) (text : String) :
    ∀ record ∈ [bindRecord request (some text), releaseRecord (.response r) (some text)],
      record.level = .debug ∧ ∃ front, record.text = front ++ "(request_id=" ++ text ++ ")" := by
  have hshown (front : String) :
      front ++ shownId (some text) = front ++ "(request_id=" ++ text ++ ")" := by
    simp only [shownId, Option.getD_some, String.append_assoc]
  intro record hrecord
  obtain rfl | hrecord := List.mem_cons.mp hrecord
  · exact ⟨rfl, _, hshown _⟩
  · cases List.mem_singleton.mp hrecord
    exact ⟨rfl, _, hshown _⟩

namespace PassesSafely

variable {settings : ContextSettings} {id : Option String} {r response : Response}

theorem status_body (h : PassesSafely settings id (.response r) (.response response)) :
    response.status = r.status ∧ response.body = r.body := by
  rw [PassesSafely] at h
  split at h
  · obtain ⟨text, r', -, hresponse, hmarked, -⟩ := h
    cases hresponse
    exact ⟨hmarked.status_eq, hmarked.body_eq⟩
  · cases h
    exact ⟨rfl, rfl⟩

theorem unmarked (h : PassesSafely settings id (.response r) (.response response))
    (hkind : settings.initializer = .empty) : response = r := by
  rw [PassesSafely, hkind, if_neg fun hboth => by cases hboth.1] at h
  cases h
  rfl

theorem marked_or_eq {text : String}
    (h : PassesSafely settings (some text) (.response r) (.response response))
    (hkind : settings.initializer = .request) :
    if settings.echoId then r.Marked settings.idHeader ⟨Text.Utf8.encode text⟩ response else response = r := by
  rw [PassesSafely] at h
  by_cases hecho : settings.echoId
  · rw [if_pos ⟨hkind, hecho⟩] at h
    obtain ⟨text', r', htext, hresponse, hmarked, -⟩ := h
    cases htext
    cases hresponse
    rw [if_pos hecho]
    exact hmarked
  · rw [if_neg fun hboth => hecho hboth.2] at h
    cases h
    rw [if_neg hecho]

end PassesSafely

/-- The endpoint that shows the context of a request, reached through a layer of any settings, answers with
the entries that the layer has bound and with the identifier among them, or null. If contexts begin with a
description of the request, that is the identifier which both records name, and the header of identifiers
holds it if it is sent back or if the response from inside happened to hold it already; in all other
respects the response is the one from inside. Wherever a snapshot is taken, it shows the context of the
innermost extent, or nothing outside all extents. -/
theorem endpoint_shows_bound (settings : ContextSettings) (ids : IdSupply)
    (hids : ∀ format n, IsUuid (ids.source format n)) (routes others : List Route) (request : Http.Request)
    (hroutes : ∀ route ∈ routes, route.match? request = none)
    (hcontext : (contextRoute.match? request).isSome) (cors : Option Cors)
    (hasked : cors.isSome → Cors.asked? request = none) (number : Nat) (turns : List Turn) (depth : Nat)
    (schedule : List Choice) (heap : Heap) :
    let layer := ofSettings settings
    let entries := (layer.initializer.entries request ids).1
    let endpoint := Route.dispatch (routes ++ contextRoute :: others)
    let inner := cors.elim endpoint fun cors => cors.around endpoint
    let own := Cors.sharing cors request (.json .ok entries.shown)
    let outer := (Process.ofProgram number turns (layer.around ids inner request)).follow depth
      (.root :: schedule) { heap }
    (∃ response, outer.1.exit? = some (.returned (.response response)) ∧
      response.status = .ok ∧ response.body = .json entries.shown ∧
      match settings.initializer with
      | .empty => entries.shown = .ofMembers [("request_id", .null), ("values", .ofDictionary .empty)] ∧
        response = own
      | .request => ∃ text,
        entries.shown = .ofMembers [("request_id", .string text), ("values", .ofDictionary entries)] ∧
        entries.toList = [("http_method", .string request.method), ("path", .string request.target.path),
          ("request_id", .string text)] ∧
        (outer.1.events.length = 2 ∧ ∀ record ∈ outer.1.events, record.level = .debug ∧
          ∃ front, record.text = front ++ "(request_id=" ++ text ++ ")") ∧
        (if settings.echoId then own.Marked settings.idHeader ⟨Text.Utf8.encode text⟩ response
          else response = own) ∧
        (⟨Text.Utf8.encode text⟩ ∈ response.headers.all settings.idHeader ↔
          settings.echoId ∨ ⟨Text.Utf8.encode text⟩ ∈ own.headers.all settings.idHeader)) ∧
    ∀ (next : Option Json → Work) (chain : CallChain) (x : Scene LogRecord Outcome),
      (Future.ready (Work.snapshot next)).pollAt depth (x.machine chain) =
        match chain.current with
        | none => (Future.ready (next none)).pollAt depth (x.machine chain)
        | some h =>
          (Future.ready (next (some (x.heap.read h).shown))).pollAt depth ((x.machine chain).modify h id) := by
  intro layer entries endpoint inner own outer
  obtain ⟨response, hexit, hevents, hsafely⟩ :=
    serves_endpoint settings hids others hroutes hcontext hasked number turns depth schedule heap
  have hown : Cors.sharing cors request (.json .ok entries.shown) = own := rfl
  rw [hown] at hevents hsafely
  obtain ⟨hstatus, hbody⟩ := hsafely.status_body
  obtain ⟨hstatus', hbody'⟩ := Cors.sharing_status_body cors request (.json .ok entries.shown)
  refine ⟨⟨response, hexit, hstatus.trans hstatus', hbody.trans hbody', ?_⟩, Work.pollAt_snapshot depth⟩
  have hentries : entries = ((Initializer.ofSettings settings).entries request ids).1 := rfl
  cases hkind : settings.initializer with
  | empty =>
    have hempty : entries = .empty := by
      rw [hentries, Initializer.ofSettings, hkind]
      rfl
    refine ⟨?_, hsafely.unmarked hkind⟩
    rw [hempty]
    rfl
  | request =>
    obtain ⟨text, hdescribe⟩ : ∃ text, entries = Initializer.describe request text := by
      rw [hentries, Initializer.ofSettings, hkind]
      exact ⟨_, rfl⟩
    have hid : entries.requestId? = some text := by
      rw [hdescribe]
      exact Initializer.requestId?_describe request text
    rw [show ((ofSettings settings).initializer.entries request ids).1.requestId? = _ from hid] at hevents hsafely
    have hmarked := hsafely.marked_or_eq hkind
    have hshown : (entries.get? "request_id").bind Json.string? = some text := hid
    refine ⟨text, by rw [Entries.shown, hshown]; rfl, ?_, ⟨congrArg List.length hevents, ?_⟩, hmarked, ?_⟩
    · rw [hdescribe]
      exact Initializer.toList_describe request text
    · rw [show outer.1.events = _ from hevents]
      exact records_name_id request own text
    · by_cases hecho : settings.echoId
      · rw [if_pos hecho] at hmarked
        exact ⟨fun _ => .inl hecho, fun _ => by rw [hmarked.all_eq]; exact List.mem_singleton_self _⟩
      · rw [if_neg hecho] at hmarked
        rw [hmarked]
        exact (or_iff_right hecho).symm

theorem entries_of_incoming {settings : ContextSettings} {request : Http.Request} {text : String}
    (ids : IdSupply) (hkind : settings.initializer = .request)
    (hincoming : IdPolicy.incoming? ⟨settings.idHeader, settings.trustIncoming, settings.idFormat⟩ request =
      some text) :
    ((ofSettings settings).initializer.entries request ids).1 = Initializer.describe request text := by
  change ((Initializer.ofSettings settings).entries request ids).1 = _
  rw [Initializer.ofSettings, hkind]
  simp only [Initializer.entries, IdPolicy.choose, hincoming]

/-- A request from another origin brings an identifier, and gets it back. -/
theorem endpoint_shows_bound_traced :
    let settings : ContextSettings := {}
    let cors := Cors.ofSettings settings
    let ids := IdSupply.ofSource .mock
    let request : Http.Request := ⟨"GET", ⟨"/api/v1/context", none⟩,
      [(Cors.originHeader, .ofAscii "http://localhost:3000"), (settings.idHeader, .ofAscii "trace-123")], []⟩
    let endpoint := Route.dispatch [healthRoute "", contextRoute]
    let outer := (Process.ofProgram 0 [] ((ofSettings settings).around ids (cors.around endpoint) request)).follow
      0 [.root] {}
    (∀ format n, IsUuid (ids.source format n)) ∧ (healthRoute "").match? request = none ∧
      (contextRoute.match? request).isSome ∧ Cors.asked? request = none ∧
      ∃ response, outer.1.exit? = some (.returned (.response response)) ∧
        response.headers.all settings.idHeader = [.ofAscii "trace-123"] := by
  intro settings cors ids request endpoint outer
  have hhealth : (healthRoute "").match? request = none := by decide +kernel
  have hroutes : ∀ route ∈ [healthRoute ""], route.match? request = none := fun route hroute =>
    List.mem_singleton.mp hroute ▸ hhealth
  have hcontext : (contextRoute.match? request).isSome := by decide +kernel
  have hasked : Cors.asked? request = none := by decide
  obtain ⟨⟨response, hexit, -, -, text, -, htoList, -, hmarked, -⟩, -⟩ :=
    endpoint_shows_bound settings ids isUuid_mock [healthRoute ""] [] request hroutes hcontext (some cors)
      (fun _ => hasked) 0 [] 0 [] .empty
  have hincoming : IdPolicy.incoming? ⟨settings.idHeader, true, .v4⟩ request = some "trace-123" := by decide
  have hentries : ((ofSettings settings).initializer.entries request ids).1 = _ :=
    entries_of_incoming ids rfl hincoming
  rw [hentries, Initializer.toList_describe] at htoList
  obtain rfl : "trace-123" = text := by simpa using htoList
  refine ⟨isUuid_mock, hhealth, hcontext, hasked, response, hexit, ?_⟩
  rw [hmarked.all_eq]
  decide

/-- The one header that a response from inside may hold is the one that names the kind of its body. Where
identifiers go by that name, the response to an identifier that names the same kind holds it, though
identifiers are not sent back. -/
theorem endpoint_shows_kind :
    let settings : ContextSettings := { idHeader := Http.contentType, echoId := false }
    let ids := IdSupply.ofSource .mock
    let request : Http.Request :=
      ⟨"GET", ⟨"/api/v1/context", none⟩, [(Http.contentType, Http.applicationJson)], []⟩
    let layer := ofSettings settings
    let endpoint := Route.dispatch [healthRoute "", contextRoute]
    let outer := (Process.ofProgram 0 [] (layer.around ids endpoint request)).follow 0 [.root] {}
    ∃ response, outer.1.exit? = some (.returned (.response response)) ∧
      (layer.initializer.entries request ids).1.requestId? = some "application/json" ∧
      ¬ (⟨Text.Utf8.encode "application/json"⟩ ∈ response.headers.all settings.idHeader ↔
        settings.echoId) := by
  intro settings ids request layer endpoint outer
  have hroutes : ∀ route ∈ [healthRoute ""], route.match? request = none := by
    intro route hroute
    cases List.mem_singleton.mp hroute
    decide +kernel
  have hcontext : (contextRoute.match? request).isSome := by decide +kernel
  have hids : ∀ format n, IsUuid (ids.source format n) := isUuid_mock
  have hasked : (none : Option Cors).isSome → Cors.asked? request = none := fun hsome => by cases hsome
  obtain ⟨response, hexit, -, hsafely⟩ :=
    serves_endpoint settings hids [] hroutes hcontext hasked 0 [] 0 [] .empty
  rw [PassesSafely, if_neg (by decide)] at hsafely
  cases hsafely
  have hheld : ⟨Text.Utf8.encode "application/json"⟩ ∈ [Http.applicationJson] := by decide
  have hincoming : IdPolicy.incoming? ⟨settings.idHeader, true, .v4⟩ request = some "application/json" := by decide
  have hid : (layer.initializer.entries request ids).1.requestId? = some "application/json" := by
    rw [entries_of_incoming ids rfl hincoming]
    exact Initializer.requestId?_describe request _
  refine ⟨_, hexit, hid, fun hiff => ?_⟩
  have hecho : settings.echoId = true := hiff.mp hheld
  cases hecho

end ContextLayer

end RequestScope
