import RequestScope.Proofs.Http.Headers
import RequestScope.Proofs.Http.Identifiers
import RequestScope.Service.Site

/-!
# Identifiers that are not taken

A request may bring an identifier that nobody trusts or that is not acceptable. Then nothing depends on
the header that it came in: two requests that are alike but for that header are given the same context,
and are served alike by every service that overlooks the header. The layers of a site overlook all but a
few headers, and the endpoint that shows the context overlooks all.
-/

namespace RequestScope

open Compression (Unpackers)
open Http (HeaderName HeaderValue Headers Request)
open Settings (ContextSettings)

/-- Two requests that differ in nothing but what stands under one header: whether anything does, how
often, where, and what. -/
structure Http.Request.AlikeBut (header : HeaderName) (r r' : Request) : Prop where
  method_eq : r.method = r'.method
  target_eq : r.target = r'.target
  headers_eq : (r.headers.filter fun h => h.1 != header) = r'.headers.filter fun h => h.1 != header
  body_eq : r.body = r'.body

/-- A request whose first value under a header, if there is one, is no identifier that may be used. -/
def Http.Request.BringsNone (header : HeaderName) (r : Request) : Prop :=
  ∀ value text, r.headers.first? header = some value → value.toText? = some text →
    ¬ isAcceptableId (Text.trim text)

/-- A service that does not look at a header. -/
def Service.Overlooks (service : Service) (header : HeaderName) : Prop :=
  ∀ r r', r.AlikeBut header r' → service r = service r'

namespace Http

theorem Headers.all_filter (headers : Headers) {header name : HeaderName} (hne : name ≠ header) :
    Headers.all (headers.filter fun h => h.1 != header) name = headers.all name := by
  have hboth (h : HeaderName × HeaderValue) : (h.1 == name && h.1 != header) = (h.1 == name) := by
    by_cases hname : h.1 = name
    · simp [hname, hne]
    · simp [hname]
  rw [all, all, List.filter_filter]
  simp only [hboth]

namespace Request.AlikeBut

variable {header name : HeaderName} {r r' : Request}

theorem first?_eq (h : r.AlikeBut header r') (hne : name ≠ header) :
    r.headers.first? name = r'.headers.first? name := by
  rw [Headers.first?, Headers.first?, ← r.headers.all_filter hne, h.headers_eq, r'.headers.all_filter hne]

theorem normalize (h : r.AlikeBut header r') : r.normalize.AlikeBut header r'.normalize where
  method_eq := h.method_eq
  target_eq := by rw [Request.normalize, Request.normalize, h.target_eq]
  headers_eq := h.headers_eq
  body_eq := h.body_eq

end Request.AlikeBut

end Http

/-! ### Contexts and records -/

section

variable {header : HeaderName} {r r' : Request}

theorem IdPolicy.incoming?_of_bringsNone {policy : IdPolicy}
    (h : policy.trustIncoming = false ∨ r.BringsNone policy.header) : policy.incoming? r = none := by
  rw [incoming?]
  obtain htrust | hnone := h
  · rw [htrust]
    rfl
  · split
    · refine Option.filter_eq_none_iff.mpr fun id hid => ?_
      obtain ⟨text, htext, rfl⟩ := Option.map_eq_some_iff.mp hid
      obtain ⟨value, hvalue, htext⟩ := Option.bind_eq_some_iff.mp htext
      exact hnone value text hvalue htext
    · rfl

/-- A request that brings no identifier gets the next one of the supply. -/
theorem IdPolicy.choose_of_bringsNone {policy : IdPolicy} (ids : IdSupply)
    (h : policy.trustIncoming = false ∨ r.BringsNone policy.header) :
    policy.choose r ids = ids.next policy.format := by
  rw [choose, incoming?_of_bringsNone h]

theorem Initializer.describe_eq (h : r.AlikeBut header r') (id : String) :
    describe r id = describe r' id := by
  rw [describe, describe, h.method_eq, h.target_eq]

theorem Initializer.entries_of_bringsNone {settings : ContextSettings} (ids : IdSupply)
    (hkind : settings.initializer = .request)
    (h : settings.trustIncoming = false ∨ r.BringsNone settings.idHeader) :
    (ofSettings settings).entries r ids =
      (describe r (ids.next settings.idFormat).1, (ids.next settings.idFormat).2) := by
  have hchoose : IdPolicy.choose ⟨settings.idHeader, settings.trustIncoming, settings.idFormat⟩ r ids =
      ids.next settings.idFormat := IdPolicy.choose_of_bringsNone ids h
  rw [ofSettings, hkind]
  simp only [entries, hchoose]

theorem Initializer.entries_eq {settings : ContextSettings} (ids : IdSupply)
    (halike : r.AlikeBut settings.idHeader r')
    (hnone : settings.trustIncoming = false ∨
      r.BringsNone settings.idHeader ∧ r'.BringsNone settings.idHeader) :
    (ofSettings settings).entries r ids = (ofSettings settings).entries r' ids := by
  cases hkind : settings.initializer with
  | empty =>
    rw [ofSettings, hkind]
    rfl
  | request =>
    rw [entries_of_bringsNone ids hkind (hnone.imp_right And.left),
      entries_of_bringsNone ids hkind (hnone.imp_right And.right), describe_eq halike]

theorem ContextLayer.around_eq {layer : ContextLayer} {ids : IdSupply} {inner : Service}
    (halike : r.AlikeBut header r')
    (hentries : layer.initializer.entries r ids = layer.initializer.entries r' ids)
    (hinner : inner r = inner r') : layer.around ids inner r = layer.around ids inner r' := by
  have hrecord (id : Option String) : bindRecord r id = bindRecord r' id := by
    rw [bindRecord, bindRecord, halike.method_eq, halike.target_eq]
  simp only [around, hentries, hrecord, hinner]

/-! ### The layers inside -/

/-- The headers that the layer for other origins looks at. -/
def Cors.consulted : List HeaderName :=
  [originHeader, accessControl "request-method", accessControl "request-headers"]

theorem Cors.around_eq {cors : Cors} {inner : Service} (halike : r.AlikeBut header r')
    (hnot : header ∉ consulted) (hinner : inner r = inner r') :
    cors.around inner r = cors.around inner r' := by
  have hfirst (name : HeaderName) (hname : name ∈ consulted) :
      r.headers.first? name = r'.headers.first? name :=
    halike.first?_eq fun heq => hnot (heq ▸ hname)
  have horigin := hfirst originHeader (by simp [consulted])
  have hmethod := hfirst (accessControl "request-method") (by simp [consulted])
  have hheaders := hfirst (accessControl "request-headers") (by simp [consulted])
  have hasked : asked? r = asked? r' := by rw [asked?, asked?, halike.method_eq, hmethod]
  have hallowed : cors.allowedOrigin? r = cors.allowedOrigin? r' := by
    rw [allowedOrigin?, allowedOrigin?, horigin]
  have hcheck (method : String) : cors.check r method = cors.check r' method := by
    simp only [check, horigin, hallowed, hheaders]
  have hpreflight (method : String) : cors.preflight r method = cors.preflight r' method := by
    rw [preflight, preflight, hcheck]
  have haugment : cors.augment r = cors.augment r' := by
    funext response
    simp only [augment, hallowed]
  simp only [around, hasked, hpreflight, haugment, hinner]

/-- The headers that the probing layer looks at. -/
def Probe.consulted : List HeaderName := [⟨"x-test-ext"⟩, ⟨"x-test-set"⟩, ⟨"x-test-fail"⟩]

theorem Probe.around_eq {inner : Service} (halike : r.AlikeBut header r') (hnot : header ∉ consulted)
    (hinner : inner r = inner r') : around inner r = around inner r' := by
  have htext (name : String) (hname : ⟨name⟩ ∈ consulted) : headerText? r name = headerText? r' name := by
    rw [headerText?, headerText?, halike.first?_eq fun heq => hnot (heq ▸ hname)]
  have hext := htext "x-test-ext" (by simp [consulted])
  have hset := htext "x-test-set" (by simp [consulted])
  have hfail := htext "x-test-fail" (by simp [consulted])
  simp only [around, replaceCarried, overwriteId, hext, hset, hfail, hinner]

/-- The headers that the layers inside the context layer of a site look at. -/
def Site.consulted (site : Site) : List HeaderName :=
  (site.cors.elim [] fun _ => Cors.consulted) ++ Probe.consulted

/-! ### The endpoint -/

theorem Route.match?_eq (halike : r.AlikeBut header r') (route : Route) :
    route.match? r = route.match? r' := by
  rw [match?, match?, matchedPath, matchedPath, halike.method_eq, halike.target_eq]

/-- Whoever asks for the context gets an answer in which no header has a part. -/
theorem Route.dispatch_context_eq (site : Site) (unpackers : Unpackers) (halike : r.AlikeBut header r')
    (hcontext : (contextRoute.match? r).isSome) :
    dispatch (site.routes unpackers) r = dispatch (site.routes unpackers) r' := by
  obtain ⟨parameters, hmatch⟩ := Option.isSome_iff_exists.mp hcontext
  have hmatch' : contextRoute.match? r' = some parameters := (match?_eq halike _).symm.trans hmatch
  have hhealth := match?_eq halike (healthRoute site.now)
  rw [dispatch, dispatch, Site.routes, List.cons_append, List.cons_append, List.findSome?_cons,
    List.findSome?_cons, List.findSome?_cons, List.findSome?_cons, hmatch, hmatch', hhealth]
  cases (healthRoute site.now).match? r' <;> rfl

/-- The request as the layers behind the one for normal paths see it. -/
def Site.seen (site : Site) (r : Request) : Request := if site.normalize then r.normalize else r

theorem Site.seen_alike (site : Site) (halike : r.AlikeBut header r') :
    (site.seen r).AlikeBut header (site.seen r') := by
  rw [seen, seen]
  split
  · exact halike.normalize
  · exact halike

theorem Site.seen_bringsNone (site : Site) (h : r.BringsNone header) :
    (site.seen r).BringsNone header := by
  rw [seen]
  split
  · exact h
  · exact h

theorem Site.service_eq_around (site : Site) {layer : ContextLayer} (unpackers : Unpackers) (ids : IdSupply)
    (hlayer : site.layer = some layer) (r : Request) :
    site.service unpackers ids r = layer.around ids
      (site.cors.elim (Probe.around (Route.dispatch (site.routes unpackers))) fun cors =>
        cors.around (Probe.around (Route.dispatch (site.routes unpackers)))) (site.seen r) := by
  rw [service, seen, hlayer]
  cases site.normalize <;> rfl

theorem Site.service_context_eq (site : Site) {settings : ContextSettings} (unpackers : Unpackers)
    (ids : IdSupply)
    (halike : r.AlikeBut settings.idHeader r')
    (hnone : settings.trustIncoming = false ∨
      r.BringsNone settings.idHeader ∧ r'.BringsNone settings.idHeader)
    (hlayer : site.layer = some (.ofSettings settings)) (hnot : settings.idHeader ∉ site.consulted)
    (hcontext : (contextRoute.match? (site.seen r)).isSome) :
    site.service unpackers ids r = site.service unpackers ids r' := by
  have hseen := site.seen_alike halike
  have hentries := Initializer.entries_eq ids hseen
    (hnone.imp_right fun h => ⟨site.seen_bringsNone h.1, site.seen_bringsNone h.2⟩)
  rw [consulted, List.mem_append, not_or] at hnot
  have hprobe := Probe.around_eq hseen hnot.2 (Route.dispatch_context_eq site unpackers hseen hcontext)
  rw [service_eq_around site unpackers ids hlayer, service_eq_around site unpackers ids hlayer]
  refine ContextLayer.around_eq hseen hentries ?_
  cases hcors : site.cors with
  | none => exact hprobe
  | some cors =>
    rw [hcors] at hnot
    exact Cors.around_eq hseen hnot.1 hprobe

end

/-- Where incoming identifiers are not trusted, or neither of two requests brings one that may be used,
what stands under their header has no part in anything: two requests that differ in nothing else are
given the same context, with a generated identifier, and under every schedule they are served alike, with
the same contexts, records and response, by every service that overlooks the header. So is who asks a
site for the context of the request, unless the header is one that the site's own layers look at. -/
theorem unused_header_unseen (settings : ContextSettings) (ids : IdSupply) (r r' : Request)
    (halike : r.AlikeBut settings.idHeader r')
    (hnone : settings.trustIncoming = false ∨
      r.BringsNone settings.idHeader ∧ r'.BringsNone settings.idHeader) :
    let layer := ContextLayer.ofSettings settings
    (layer.initializer.entries r ids = layer.initializer.entries r' ids ∧
      (settings.initializer = .request →
        (layer.initializer.entries r ids).1.requestId? = some (ids.next settings.idFormat).1)) ∧
    (∀ inner : Service, inner.Overlooks settings.idHeader →
      ∀ (number : Nat) (turns : List Turn) (depth : Nat) (schedule : List Choice) (world : World),
        (Process.ofProgram number turns (layer.around ids inner r)).follow depth schedule world =
          (Process.ofProgram number turns (layer.around ids inner r')).follow depth schedule world) ∧
    ∀ site : Site, site.layer = some layer → settings.idHeader ∉ site.consulted →
      (contextRoute.match? (site.seen r)).isSome →
        ∀ (unpackers : Unpackers) (number : Nat) (world : World),
          Site.serve [site.process ids number r unpackers] world =
            Site.serve [site.process ids number r' unpackers] world := by
  intro layer
  refine ⟨⟨Initializer.entries_eq ids halike hnone, fun hkind => ?_⟩,
    fun inner hinner number turns depth schedule world => ?_,
    fun site hlayer hnot hcontext unpackers number world => ?_⟩
  · have hentries := Initializer.entries_of_bringsNone ids hkind (hnone.imp_right And.left)
    change ((Initializer.ofSettings settings).entries r ids).1.requestId? = _
    rw [hentries]
    exact Initializer.requestId?_describe r _
  · rw [ContextLayer.around_eq halike (Initializer.entries_eq ids halike hnone) (hinner r r' halike)]
  · rw [Site.process, Site.process, site.service_context_eq unpackers ids halike hnone hlayer hnot hcontext]

/-- Identifiers are trusted, but one request brings a text with a space first and a good one behind it, and
the other brings none. -/
theorem unused_header_unseen_malformed :
    let settings : ContextSettings := {}
    let layer := ContextLayer.ofSettings settings
    let site : Site := { normalize := true, layer := some layer, cors := some (.ofSettings settings), now := "" }
    let target : Http.Target := ⟨"//api/v1/context/", none⟩
    let ids := IdSupply.ofSource .mock
    let r : Request := ⟨"GET", target,
      [(settings.idHeader, .ofAscii "two words"), (settings.idHeader, .ofAscii "good")], []⟩
    let r' : Request := ⟨"GET", target, [], []⟩
    r.AlikeBut settings.idHeader r' ∧ r.BringsNone settings.idHeader ∧ r'.BringsNone settings.idHeader ∧
      (layer.initializer.entries r ids).1.requestId? = some mockV4 ∧
      Site.serve [site.process ids 0 r] {} = Site.serve [site.process ids 0 r'] {} := by
  intro settings layer site target ids r r'
  have halike : r.AlikeBut settings.idHeader r' := ⟨rfl, rfl, by decide, rfl⟩
  have hfirst : r.BringsNone settings.idHeader := by
    intro value text hvalue htext
    have hread : HeaderValue.toText? (.ofAscii "two words") = some "two words" := by decide +kernel
    cases hvalue
    cases hread.symm.trans htext
    decide +kernel
  have hnone : r'.BringsNone settings.idHeader := by
    intro value text hvalue
    cases hvalue
  obtain ⟨⟨-, hid⟩, -, hsite⟩ := unused_header_unseen settings ids r r' halike (.inr ⟨hfirst, hnone⟩)
  have hcontext : (contextRoute.match? (site.seen r)).isSome := by decide +kernel
  exact ⟨halike, hfirst, hnone, hid rfl, hsite site rfl (by decide) hcontext .stored 0 {}⟩

end RequestScope
