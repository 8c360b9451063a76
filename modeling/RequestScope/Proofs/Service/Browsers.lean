import RequestScope.Proofs.Service.Sharing
import RequestScope.Proofs.Settings.Reading

/-!
# Identifiers and browsers

The layers of the service as a browser finds them: normal paths outside, then the context layer, then the
layer for other origins, so that what the inner layer answers passes through the one that sends identifiers
back. The header of identifiers is one and the same in all of them, and a page of an allowed origin can send
and read it.
-/

namespace RequestScope

open Http (HeaderName HeaderValue Request Response)
open Settings (ContextSettings)

/-- A service with the layers around it that the settings ask for. -/
def Service.layered (inner : Service) (settings : ContextSettings) (ids : IdSupply) : Service :=
  normalizeLayer ((ContextLayer.ofSettings settings).around ids ((Cors.ofSettings settings).around inner))

/-! ### What a call returns -/

namespace Process

/-- How far a call is that passes on what another program returns. -/
inductive Awaits (own : Handle) (pass : Outcome → Outcome) : Process LogRecord Outcome → Prop
  | inside (body : Future LogRecord Outcome) (session : Session LogRecord Outcome) :
      Awaits own pass
        ⟨.running (.within (.held (some own)) (body.bind fun outcome => .ret (pass outcome)) .ret), session⟩
  | panicked (text : String) (session : Session LogRecord Outcome) :
      Awaits own pass ⟨.ended (.panicked text), session⟩
  | returned (outcome : Outcome) (session : Session LogRecord Outcome) :
      Awaits own pass ⟨.ended (.returned (pass outcome)), session⟩

namespace Awaits

variable {own : Handle} {pass : Outcome → Outcome} {p : Process LogRecord Outcome}

theorem withSession (h : p.Awaits own pass) (session : Session LogRecord Outcome) :
    Awaits own pass { p with session } := by
  cases h with
  | inside body _ => exact .inside body session
  | panicked text _ => exact .panicked text session
  | returned outcome _ => exact .returned outcome session

theorem stepIn (h : p.Awaits own pass) (depth : Nat) (choice : Choice) (heap : Heap) :
    (p.stepIn depth choice heap).1.Awaits own pass := by
  cases choice with
  | task number =>
    rw [Process.stepIn]
    split
    · exact h
    · exact h.withSession _
  | root =>
    cases h with
    | inside body session =>
      obtain ⟨againIn, hbind⟩ := Future.exists_pollInAt_bind (ε := LogRecord) (ρ := Outcome) depth
      rw [ContextLayer.stepIn_root, hbind, Scoped.bind_apply]
      rcases body.pollInAt depth { extents := [some own] } ⟨heap, session⟩ with ⟨result, x⟩
      cases result with
      | done exit =>
        cases exit with
        | returned outcome => exact .returned outcome x.session
        | panicked text => exact .panicked text x.session
      | pending body' => exact .inside body' x.session
    | panicked text session => exact .panicked text session
    | returned outcome session => exact .returned outcome session

theorem follow (h : p.Awaits own pass) (depth : Nat) (schedule : List Choice) (heap : Heap) :
    (p.follow depth schedule { heap }).1.Awaits own pass := by
  induction schedule generalizing p heap with
  | nil => exact h
  | cons choice schedule ih =>
    rw [Process.follow, Process.step_machine]
    exact ih (h.stepIn depth choice heap) _

theorem exists_of_returned (h : p.Awaits own pass) {outcome : Outcome}
    (hroot : p.root = .ended (.returned outcome)) : ∃ outcome', outcome = pass outcome' := by
  cases h with
  | inside body session => cases hroot
  | panicked text session => cases hroot
  | returned outcome' session =>
    cases hroot
    exact ⟨outcome', rfl⟩

end Awaits

end Process

/-! ### Answers that pass through the layers -/

/-- What the context layer has passed on, if it has passed on anything. -/
theorem ContextLayer.Follows.exists_passed {layer : ContextLayer} {id : Option String} {own : Handle}
    {begun : LogRecord} {called outer : Process LogRecord Outcome} (h : layer.Follows id own begun called outer)
    {outcome' : Outcome} (hexit : outer.exit? = some (.returned outcome')) :
    ∃ outcome records, called.root = .ended (.returned outcome) ∧ layer.PassesOn id outcome outcome' records := by
  cases h with
  | inside body session => cases hexit
  | panicked text session => cases hexit
  | passed outcome outcome' records during session hpasses =>
    cases hexit
    exact ⟨outcome, records, rfl, hpasses⟩

/-- Every request is answered by one of the two routes or by none, in one poll. -/
theorem Route.pollIn_routes (now : String) (request : Request) (own : Handle) (heap : Heap) :
    ∃ r heap', ∀ againIn session,
      (dispatch [healthRoute now, contextRoute] request).pollIn againIn { extents := [some own] } ⟨heap, session⟩ =
        (.done (.returned (.response r)), ⟨heap', session⟩) := by
  cases hhealth : (healthRoute now).match? request with
  | some parameters =>
    obtain ⟨r, hanswer⟩ : ∃ r, (healthRoute now).handler parameters request = Work.respond r := ⟨_, rfl⟩
    refine ⟨r, heap, fun againIn session => ?_⟩
    rw [dispatch, List.findSome?_cons, hhealth, Option.map_some]
    simp only [hanswer]
    rfl
  | none =>
    cases hcontext : contextRoute.match? request with
    | some parameters =>
      have hroutes : ∀ route ∈ [healthRoute now], route.match? request = none := fun route hroute =>
        List.mem_singleton.mp hroute ▸ hhealth
      refine ⟨.json .ok (heap.read own).shown, heap.write own (heap.read own), fun againIn session => ?_⟩
      have hpoll : (dispatch ([healthRoute now] ++ contextRoute :: []) request).pollIn againIn
          { extents := [some own] } ⟨heap, session⟩ = _ :=
        pollIn_dispatch_context hroutes (Option.isSome_of_eq_some hcontext) rfl ⟨heap, session⟩
      exact hpoll
    | none =>
      refine ⟨.bare .notFound, heap, fun againIn session => ?_⟩
      rw [dispatch, List.findSome?_cons, hhealth, List.findSome?_cons, hcontext]
      rfl

namespace Cors

/-- What the layer for other origins makes of the end of a service. -/
def pass (cors : Cors) (request : Request) : Outcome → Outcome
  | .response r => .response (cors.augment request r)
  | outcome => outcome

theorem around_eq_bind {cors : Cors} {inner : Service} {request : Request} (hasked : asked? request = none) :
    cors.around inner request = (inner request).bind fun outcome => .ret (cors.pass request outcome) := by
  have hpass : (fun | .response r => Work.respond (cors.augment request r) | outcome => .ret outcome) =
      fun outcome => (.ret (cors.pass request outcome) : Work) := by
    funext outcome
    cases outcome <;> rfl
  rw [around, hasked]
  exact congrArg (inner request).bind hpass

theorem asked?_of_asks {settings : ContextSettings} {request : Request} {origin method : String}
    {texts : List String} (h : Asks request origin method texts)
    (hmethod : method ∈ (ofSettings settings).methods) : asked? request = some method := by
  have hread : ∀ method ∈ ["GET", "POST", "PUT", "DELETE", "PATCH", "OPTIONS"],
      ((HeaderValue.ofAscii method).toText?).filter
        (fun method => !method.isEmpty && method.toList.all Http.isTokenChar) = some method := by
    decide
  rw [asked?, h.method_eq, h.asked_eq]
  exact hread method hmethod

end Cors

section

variable {settings : ContextSettings} {ids : IdSupply} {inner : Service} {request : Request} {number : Nat}
  {turns : List Turn} {depth : Nat} {schedule : List Choice} {heap : Heap}

/-- What ends a request as it has come through the layers. -/
abbrev Service.exit? (service : Service) (request : Request) (number : Nat) (turns : List Turn) (depth : Nat)
    (schedule : List Choice) (heap : Heap) : Option (Exit Outcome) :=
  ((Process.ofProgram number turns (service request)).follow depth (.root :: schedule) { heap }).1.exit?

/-- A response that the layer for other origins gives in one poll comes through with the headers of that
layer. -/
theorem Service.exit?_layered {r : Response} {heap' : Heap}
    (hecho : ∀ name ∈ Cors.responseHeaders, (ContextLayer.ofSettings settings).echo ≠ some name)
    (hpoll : ∀ againIn session, ((Cors.ofSettings settings).around inner request.normalize).pollIn againIn
      { extents := [some ⟨number, 0⟩] }
      ⟨heap.write ⟨number, 0⟩ ((ContextLayer.ofSettings settings).initializer.entries request.normalize ids).1,
        session⟩ = (.done (.returned (.response r)), ⟨heap', session⟩)) :
    ∃ response, (inner.layered settings ids).exit? request number turns depth schedule heap =
        some (.returned (.response response)) ∧ response.status = r.status ∧
      ∀ name ∈ Cors.responseHeaders, response.headers.all name = r.headers.all name := by
  obtain ⟨called, outer, heap'', hfollows, hcalled, houter⟩ := (ContextLayer.ofSettings settings).exists_follows ids
    ((Cors.ofSettings settings).around inner) request.normalize number turns depth schedule heap
  rw [Process.follow_ofCall _ turns hpoll] at hcalled
  obtain ⟨rfl, -⟩ := Prod.mk.inj hcalled
  obtain ⟨outcome', records, -, -, hpasses, hexit, -, -⟩ := hfollows.of_returned rfl
  obtain ⟨response, rfl, hstatus, hkept⟩ := hpasses.keeps
  refine ⟨response, ?_, hstatus, fun name hname => hkept name (hecho name hname)⟩
  rw [Service.exit?, Service.layered, normalizeLayer, houter]
  exact hexit

theorem Cors.Asks.normalize {origin method : String} {texts : List String}
    (h : Asks request origin method texts) : Asks request.normalize origin method texts :=
  ⟨h.method_eq, h.origin_eq, h.asked_eq, h.isList, h.texts_eq⟩

/-- Questions are answered inside, and their answers come through. -/
theorem Service.layered_asked {origin method : String} {texts : List String}
    (hecho : ∀ name ∈ Cors.responseHeaders, (ContextLayer.ofSettings settings).echo ≠ some name)
    (horigin : origin ∈ (Cors.ofSettings settings).origins)
    (hmethod : method ∈ (Cors.ofSettings settings).methods) (hasks : Cors.Asks request origin method texts) :
    ∃ response, (inner.layered settings ids).exit? request number turns depth schedule heap =
        some (.returned (.response response)) ∧
      ((∀ text ∈ texts, ∃ name, name.IsNamedBy text ∧ name ∈ (Cors.ofSettings settings).headers) →
        (Cors.ofSettings settings).Permits origin response) ∧
      ((∃ text ∈ texts, ∀ name, name.IsNamedBy text → name ∉ (Cors.ofSettings settings).headers) →
        Cors.Denies response) := by
  let answer := (Cors.ofSettings settings).preflight request.normalize method
  have hpoll (againIn) (session : Session LogRecord Outcome) (heap : Heap) :
      ((Cors.ofSettings settings).around inner request.normalize).pollIn againIn
        { extents := [some ⟨number, 0⟩] } ⟨heap, session⟩ = (.done (.returned (.response answer)), ⟨heap, session⟩) := by
    rw [Cors.around, Cors.asked?_of_asks hasks.normalize hmethod]
    rfl
  obtain ⟨response, hexit, hstatus, hkept⟩ :=
    Service.exit?_layered hecho fun againIn session => hpoll againIn session _
  refine ⟨response, hexit, fun hnamed => ?_, fun hother => ?_⟩
  · exact (hasks.normalize.permits horigin hmethod hnamed).of_kept hstatus hkept
  · obtain ⟨text, htext, hnot⟩ := hother
    refine (hasks.normalize.denies horigin hmethod fun hnamed => ?_).of_kept hstatus hkept
    obtain ⟨name, hname, hallowed⟩ := hnamed text htext
    exact hnot name hname hallowed

/-- A response to a request of a page has passed the layer for other origins and then the context layer. -/
theorem Service.exists_passed_of_layered (hasked : Cors.asked? request = none) {response : Response}
    (hexit : (inner.layered settings ids).exit? request number turns depth schedule heap =
      some (.returned (.response response))) :
    ∃ r records, (ContextLayer.ofSettings settings).PassesOn
      ((ContextLayer.ofSettings settings).initializer.entries request.normalize ids).1.requestId?
      (.response ((Cors.ofSettings settings).augment request.normalize r)) (.response response) records := by
  have hasked' : Cors.asked? request.normalize = none := hasked
  let pass := (Cors.ofSettings settings).pass request.normalize
  let own : Handle := ⟨number, 0⟩
  obtain ⟨called, outer, heap', hfollows, hcalled, houter⟩ := (ContextLayer.ofSettings settings).exists_follows ids
    ((Cors.ofSettings settings).around inner) request.normalize number turns depth schedule heap
  have houterExit : outer.exit? = some (.returned (.response response)) := by
    rw [Service.exit?, Service.layered, normalizeLayer, houter] at hexit
    exact hexit
  obtain ⟨outcome, records, hroot, hpasses⟩ := hfollows.exists_passed houterExit
  have hbegun : (Process.ofCall own turns ((Cors.ofSettings settings).around inner request.normalize)).Awaits own
      pass := by
    rw [Cors.around_eq_bind hasked']
    exact .inside (.ready (inner request.normalize)) _
  have hawaits := hbegun.follow depth (.root :: schedule)
    (heap.write own ((ContextLayer.ofSettings settings).initializer.entries request.normalize ids).1)
  rw [hcalled] at hawaits
  obtain ⟨outcome', rfl⟩ := hawaits.exists_of_returned hroot
  cases outcome' with
  | response r => exact ⟨r, records, hpasses⟩
  | failure f => cases hpasses
  | value v => cases hpasses

/-- An identifier that a request of a page brings stands in the response to it, and the page may read it. -/
theorem Service.layered_identified {origin id : String} {value : HeaderValue} {response : Response}
    (hkind : settings.initializer = .request) (htrust : settings.trustIncoming) (hecho : settings.echoId)
    (hheader : settings.idHeader ∉ Cors.responseHeaders) (horigin : origin ∈ (Cors.ofSettings settings).origins)
    (hasked : Cors.asked? request = none)
    (hsent : request.headers.first? Cors.originHeader = some (.ofAscii origin))
    (hvalue : request.headers.first? settings.idHeader = some value) (hbrings : value.Brings id)
    (hexit : (inner.layered settings ids).exit? request number turns depth schedule heap =
      some (.returned (.response response))) :
    Cors.Exposes origin settings.idHeader response ∧
      response.headers.all settings.idHeader = [⟨Text.Utf8.encode id⟩] := by
  have hechoes : (ContextLayer.ofSettings settings).echo = some settings.idHeader := if_pos hecho
  have hincoming : IdPolicy.incoming? ⟨settings.idHeader, settings.trustIncoming, settings.idFormat⟩
      request.normalize = some id :=
    IdPolicy.incoming?_eq_some_iff.mpr ⟨htrust, value, hvalue, hbrings⟩
  have hlegal : Http.IsLegal id :=
    Http.isLegal_of_plain (Http.isPlain_of_acceptable (isAcceptableId_iff_length.mpr hbrings.1))
  obtain ⟨r, records, hpasses⟩ := Service.exists_passed_of_layered hasked hexit
  rw [ContextLayer.entries_of_incoming ids hkind hincoming, Initializer.requestId?_describe] at hpasses
  obtain ⟨response', heq, -, hkept⟩ := hpasses.keeps
  cases heq
  obtain ⟨-, response', heq, hmarked⟩ := hpasses.of_legal hechoes hlegal
  cases heq
  refine ⟨(Cors.exposes_augment rfl horigin hsent r).of_kept fun name hname => hkept name fun heq => ?_,
    hmarked.all_eq⟩
  cases hechoes.symm.trans heq
  exact hheader hname

/-- The routes answer every request that is no question. -/
theorem Service.layered_routes (hecho : ∀ name ∈ Cors.responseHeaders, (ContextLayer.ofSettings settings).echo ≠ some name)
    (hasked : Cors.asked? request = none) (now : String) :
    ∃ response, ((Route.dispatch [healthRoute now, contextRoute]).layered settings ids).exit? request number turns
      depth schedule heap = some (.returned (.response response)) := by
  let bound := heap.write ⟨number, 0⟩ ((ContextLayer.ofSettings settings).initializer.entries request.normalize ids).1
  obtain ⟨r, heap', hpoll⟩ := Route.pollIn_routes now request.normalize ⟨number, 0⟩ bound
  have hasked' : Cors.asked? request.normalize = none := hasked
  have haround (againIn) (session : Session LogRecord Outcome) :
      ((Cors.ofSettings settings).around (Route.dispatch [healthRoute now, contextRoute]) request.normalize).pollIn
        againIn { extents := [some ⟨number, 0⟩] } ⟨bound, session⟩ =
          (.done (.returned (.response ((Cors.ofSettings settings).augment request.normalize r))),
            ⟨heap', session⟩) := by
    rw [Cors.around_eq_bind hasked', Program.pollIn_bind, Scoped.bind_apply, hpoll]
    rfl
  obtain ⟨response, hexit, -⟩ := Service.exit?_layered hecho haround
  exact ⟨response, hexit⟩

end

/-! ### The one header -/

theorem Http.HeaderName.toLower_of_parse?_text {name : HeaderName} (h : parse? name.text = some name) :
    ∀ c ∈ name.text.toList, c.toLower = c := by
  have htext : name.text.toList = name.text.toList.map Char.toLower :=
    (congrArg (fun name => name.text.toList) (eq_ofSpelling_of_parse? h)).trans String.toList_ofList
  rw [← List.map_id name.text.toList, List.map_map] at htext
  exact fun c hc => (List.map_inj_left.mp htext c hc).symm

namespace Settings

namespace ContextSettings

theorem idHeader_ofVariables (vars : Variables) :
    (ofVariables vars).1.idHeader =
      ((vars.text? "REQUEST_ID_HEADER").bind parseHeaderName?).getD defaultIdHeader :=
  congrArg (·.getD defaultIdHeader) (readSetting_fst vars "REQUEST_ID_HEADER" parseHeaderName?)

theorem idHeader_of_isSpelling {vars : Variables} {raw : String}
    (hraw : vars.text? "REQUEST_ID_HEADER" = some raw) (hspelling : HeaderName.IsSpelling (Text.trim raw)) :
    (ofVariables vars).1.idHeader = .ofSpelling (Text.trim raw) := by
  have hparse : parseHeaderName? raw = some (.ofSpelling (Text.trim raw)) :=
    HeaderName.parse?_eq_some_iff.mpr ⟨hspelling, rfl⟩
  rw [idHeader_ofVariables, hraw, Option.bind_some, hparse, Option.getD_some]

theorem idHeader_of_not_isSpelling {vars : Variables}
    (h : ∀ raw, vars.text? "REQUEST_ID_HEADER" = some raw → ¬ HeaderName.IsSpelling (Text.trim raw)) :
    (ofVariables vars).1.idHeader = defaultIdHeader := by
  have hnone : (vars.text? "REQUEST_ID_HEADER").bind parseHeaderName? = none := by
    refine Option.bind_eq_none_iff.mpr fun raw hraw => Option.eq_none_iff_forall_ne_some.mpr fun name hname => ?_
    exact h raw hraw (HeaderName.parse?_eq_some_iff.mp hname).1
  rw [idHeader_ofVariables, hnone, Option.getD_none]

/-- Whatever the variable holds, the name of the header spells itself. -/
theorem parse?_idHeader (vars : Variables) :
    HeaderName.parse? (ofVariables vars).1.idHeader.text = some (ofVariables vars).1.idHeader := by
  rw [idHeader_ofVariables]
  cases hparse : (vars.text? "REQUEST_ID_HEADER").bind parseHeaderName? with
  | none =>
    rw [Option.getD_none]
    decide
  | some header =>
    obtain ⟨raw, -, hraw⟩ := Option.bind_eq_some_iff.mp hparse
    exact HeaderName.parse?_text hraw

end ContextSettings

end Settings

/-- All layers use one header, which the settings name in any letter case and with white space around it, and
browsers can use it unless it is one that the layer for other origins sets itself. A page of an allowed
origin may ask to send any of four headers, spelled in any way and in any order, and no other. A request of
such a page that brings an identifier in that header gets it back there, in a response that the page may
read, whatever service answers; and the routes do answer. -/
theorem Cors.one_header_everywhere (vars : Settings.Variables) (ids : IdSupply) :
    let settings := (ContextSettings.ofVariables vars).1
    let header := settings.idHeader
    let layer := ContextLayer.ofSettings settings
    let cors := Cors.ofSettings settings
    settings.initializer = .request → settings.trustIncoming → settings.echoId →
    (((∀ raw, vars.text? "REQUEST_ID_HEADER" = some raw → HeaderName.IsSpelling (Text.trim raw) →
        header = .ofSpelling (Text.trim raw)) ∧
      ((∀ raw, vars.text? "REQUEST_ID_HEADER" = some raw → ¬ HeaderName.IsSpelling (Text.trim raw)) →
        header = Settings.defaultIdHeader) ∧
      ∀ c ∈ header.text.toList, c.toLower = c) ∧
      layer.initializer = .request ⟨header, true, settings.idFormat⟩ ∧ layer.echo = some header ∧
      cors.headers = [⟨"authorization"⟩, ⟨"accept"⟩, ⟨"content-type"⟩, header] ∧ cors.exposed = [header]) ∧
    (header ∉ responseHeaders → ∀ origin ∈ cors.origins,
      ∀ (number : Nat) (turns : List Turn) (depth : Nat) (schedule : List Choice) (heap : Heap),
      (∀ (inner : Service) (request : Request) (texts : List String), ∀ method ∈ cors.methods,
        Asks request origin method texts → ∃ response,
          (inner.layered settings ids).exit? request number turns depth schedule heap =
            some (.returned (.response response)) ∧
          ((∀ text ∈ texts, ∃ name, name.IsNamedBy text ∧ name ∈ cors.headers) →
            cors.Permits origin response) ∧
          ((∃ text ∈ texts, ∀ name, name.IsNamedBy text → name ∉ cors.headers) → Denies response)) ∧
      ∀ (method : String) (target : Http.Target) (lines : List Http.Line) (body : List UInt8)
        (value : HeaderValue) (id : String),
        let request : Request := ⟨method, target, .ofLines lines, body⟩
        asked? request = none → Http.Line.first? lines originHeader = some (.ofAscii origin) →
        Http.Line.first? lines header = some value → value.Brings id →
        (∀ (inner : Service) (response : Response),
          (inner.layered settings ids).exit? request number turns depth schedule heap =
            some (.returned (.response response)) →
          Exposes origin header response ∧ response.headers.all header = [⟨Text.Utf8.encode id⟩]) ∧
        ∀ now, ∃ response,
          ((Route.dispatch [healthRoute now, contextRoute]).layered settings ids).exit? request number turns depth
            schedule heap = some (.returned (.response response))) := by
  intro settings header layer cors hkind htrust hecho
  have hechoes : layer.echo = some header := if_pos hecho
  have hinitializer : layer.initializer = .request ⟨header, true, settings.idFormat⟩ := by
    change Initializer.ofSettings settings = _
    rw [Initializer.ofSettings, hkind, htrust]
  refine ⟨⟨⟨fun raw => ContextSettings.idHeader_of_isSpelling, ContextSettings.idHeader_of_not_isSpelling,
    HeaderName.toLower_of_parse?_text (ContextSettings.parse?_idHeader vars)⟩, hinitializer, hechoes, rfl, rfl⟩, ?_⟩
  intro hheader origin horigin number turns depth schedule heap
  have hechoNe : ∀ name ∈ responseHeaders, layer.echo ≠ some name := by
    intro name hname heq
    cases hechoes.symm.trans heq
    exact hheader hname
  refine ⟨fun inner request texts method hmethod hasks =>
    Service.layered_asked hechoNe horigin hmethod hasks, ?_⟩
  intro method target lines body value id request hasked hsent hvalue hbrings
  have hsent : request.headers.first? originHeader = some (.ofAscii origin) :=
    (Http.Headers.first?_ofLines lines originHeader).trans hsent
  have hvalue : request.headers.first? header = some value :=
    (Http.Headers.first?_ofLines lines header).trans hvalue
  exact ⟨fun inner response =>
    Service.layered_identified hkind htrust hecho hheader horigin hasked hsent hvalue hbrings,
    Service.layered_routes hechoNe hasked⟩

/-- The header is set with white space around its name; a page asks for it and for another one in letters of
its own, and then sends it. -/
theorem Cors.one_header_everywhere_traced :
    let vars : Settings.Variables := .ofList [("REQUEST_ID_HEADER", Text.Utf8.encode " X-Trace-ID\t")]
    let settings := (ContextSettings.ofVariables vars).1
    let ids := IdSupply.ofSource .mock
    let origin := "http://localhost:3000"
    let texts := ["X-TRACE-ID ", " accept"]
    let question : Request := ⟨"OPTIONS", ⟨"/health", none⟩,
      [(originHeader, .ofAscii origin), (accessControl "request-method", .ofAscii "GET"),
        (accessControl "request-headers", ⟨Text.Utf8.encode (",".intercalate texts)⟩)], []⟩
    let lines : List Http.Line := [⟨"Origin", .ofAscii origin, by decide⟩,
      ⟨"x-TRACE-id", .ofAscii "trace-1", by decide⟩]
    let exit? (request : Request) := ((Route.dispatch [healthRoute "", contextRoute]).layered settings ids).exit?
      request 0 [] 0 [] .empty
    (settings.initializer = .request ∧ settings.trustIncoming ∧ settings.echoId ∧
      settings.idHeader = ⟨"x-trace-id"⟩ ∧ settings.idHeader ∉ responseHeaders ∧ Asks question origin "GET" texts) ∧
    (∃ answer, exit? question = some (.returned (.response answer)) ∧
      (Cors.ofSettings settings).Permits origin answer) ∧
    ∃ response, exit? ⟨"GET", ⟨"/health", none⟩, .ofLines lines, []⟩ = some (.returned (.response response)) ∧
      response.headers.all settings.idHeader = [.ofAscii "trace-1"] := by
  intro vars settings ids origin texts question lines exit?
  have hheader : settings.idHeader = ⟨"x-trace-id"⟩ := by decide +kernel
  have hnot : settings.idHeader ∉ responseHeaders := by
    rw [hheader]
    decide
  have hplain : ∀ text ∈ texts, ∀ c ∈ text.toList, (isVisible c ∨ c = ' ' ∨ c = '\t') ∧ c ≠ ',' := by
    simp [texts, isVisible]
  have hasks : Asks question origin "GET" texts :=
    ⟨rfl, by decide +kernel, by decide +kernel, ⟨by decide, hplain⟩, by decide +kernel⟩
  have haccept : HeaderName.IsNamedBy ⟨"accept"⟩ " accept" :=
    ⟨" ", "accept", "", by simp, by decide, ⟨by decide, by decide, List.all_eq_true.mp (by decide)⟩, by decide⟩
  have htrace : HeaderName.IsNamedBy ⟨"x-trace-id"⟩ "X-TRACE-ID " :=
    ⟨"", "X-TRACE-ID", " ", by simp, by decide, ⟨by decide, by decide, List.all_eq_true.mp (by decide)⟩,
      by decide⟩
  obtain ⟨-, hbrowsers⟩ := one_header_everywhere vars ids rfl rfl rfl
  obtain ⟨hquestion, hactual⟩ := hbrowsers hnot origin (by decide) 0 [] 0 [] .empty
  obtain ⟨answer, hanswer, hpermits, -⟩ :=
    hquestion (Route.dispatch [healthRoute "", contextRoute]) question texts "GET" (by decide) hasks
  have hsent : Http.Line.first? lines settings.idHeader = some (.ofAscii "trace-1") := by
    rw [hheader]
    decide
  obtain ⟨hidentified, hroutes⟩ := hactual "GET" ⟨"/health", none⟩ lines [] (.ofAscii "trace-1") "trace-1" rfl
    (by decide) hsent ⟨⟨by decide, by decide, by simp⟩, "", "", by simp, by decide⟩
  obtain ⟨response, hresponse⟩ := hroutes ""
  refine ⟨⟨rfl, rfl, rfl, hheader, hnot, hasks⟩, ⟨answer, hanswer, hpermits ?_⟩, response, hresponse, ?_⟩
  · have hnamed : ∀ text ∈ ["X-TRACE-ID ", " accept"], ∃ name, HeaderName.IsNamedBy name text ∧
        name ∈ (Cors.ofSettings settings).headers := by
      intro text htext
      obtain rfl | htext := List.mem_cons.mp htext
      · exact ⟨⟨"x-trace-id"⟩, htrace, hheader ▸ List.mem_of_getLast? rfl⟩
      · cases List.mem_singleton.mp htext
        exact ⟨⟨"accept"⟩, haccept, .tail _ (.head _)⟩
    exact hnamed
  · rw [(hidentified _ response hresponse).2]
    decide

end RequestScope
