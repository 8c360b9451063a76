import RequestScope.Proofs.Http.Identifiers
import RequestScope.Proofs.Service.Around

/-!
# Identifiers in responses are safe text

A layer made from settings takes identifiers from two sources only: from requests, if they are
acceptable, and from a generator. Both are visible ASCII of a bounded length, so whatever the service
does, what the layer puts into a response is harmless text of that kind, and the layer never finds that
an identifier cannot be sent back.
-/

namespace RequestScope

open Http (HeaderName HeaderValue IsLegal Response)
open Settings (ContextSettings)

/-- A header value of visible ASCII, with as many octets as an identifier may have characters. -/
structure Http.HeaderValue.IsSafe (value : HeaderValue) : Prop where
  length_pos : 1 ≤ value.octets.length
  length_le : value.octets.length ≤ 128
  visible : ∀ b ∈ value.octets, 0x21 ≤ b.toNat ∧ b.toNat ≤ 0x7e

theorem Http.HeaderValue.isSafe_encode {id : String} (h : isAcceptableId id) :
    HeaderValue.IsSafe ⟨Text.Utf8.encode id⟩ := by
  obtain ⟨hne, hlength, hvisible⟩ := isAcceptableId_iff.mp h
  have hascii : ∀ c ∈ id.toList, c.toNat < 0x80 := fun c hc => by
    have := isVisible_iff.mp (hvisible c hc)
    omega
  have hencode := Text.Utf8.encode_eq_map hascii
  refine ⟨?_, ?_, fun b hb => ?_⟩
  · rw [hencode, List.length_map]
    exact List.length_pos_iff.mpr hne
  · rw [hencode, List.length_map]
    exact hlength
  · rw [hencode, List.mem_map] at hb
    obtain ⟨c, hc, rfl⟩ := hb
    rw [Text.Utf8.toNat_toUInt8 (hascii c hc)]
    exact isVisible_iff.mp (hvisible c hc)

namespace ContextLayer

/-- How a layer of the given settings passes on the end of a service: a response gets the identifier of
its context, as safe text, if there is one and it is to be sent back; anything else stays as it is. -/
def PassesSafely (settings : ContextSettings) (id : Option String) : Outcome → Outcome → Prop
  | .response r, outcome' =>
    if settings.initializer = .request ∧ settings.echoId then
      ∃ text r', id = some text ∧ outcome' = .response r' ∧
        r.Marked settings.idHeader ⟨Text.Utf8.encode text⟩ r' ∧
        HeaderValue.IsSafe ⟨Text.Utf8.encode text⟩
    else outcome' = .response r
  | outcome, outcome' => outcome' = outcome

/-- The context of a request has an acceptable identifier or none. -/
theorem requestId?_entries (settings : ContextSettings) {ids : IdSupply} (request : Http.Request)
    (hids : ∀ format n, isAcceptableId (ids.source format n)) :
    let id := ((ofSettings settings).initializer.entries request ids).1.requestId?
    match settings.initializer with
    | .empty => id = none
    | .request => ∃ text, id = some text ∧ isAcceptableId text := by
  intro id
  have hid : id = ((Initializer.ofSettings settings).entries request ids).1.requestId? := rfl
  rw [Initializer.ofSettings] at hid
  cases hkind : settings.initializer with
  | empty =>
    rw [hkind] at hid
    exact hid
  | request =>
    rw [hkind] at hid
    exact ⟨_, hid.trans (Initializer.requestId?_describe request _),
      IdPolicy.isAcceptableId_choose_of_generated _ request hids⟩

theorem PassesOn.safely {settings : ContextSettings} {ids : IdSupply} {request : Http.Request}
    {outcome outcome' : Outcome} {records : List LogRecord}
    (hids : ∀ format n, isAcceptableId (ids.source format n))
    (h : (ofSettings settings).PassesOn
      ((ofSettings settings).initializer.entries request ids).1.requestId? outcome outcome' records) :
    let id := ((ofSettings settings).initializer.entries request ids).1.requestId?
    records = [releaseRecord outcome id] ∧ PassesSafely settings id outcome outcome' := by
  intro id
  have hid := requestId?_entries settings request hids
  have hecho : (ofSettings settings).echo = if settings.echoId then some settings.idHeader else none := rfl
  by_cases hboth : settings.initializer = .request ∧ settings.echoId
  · obtain ⟨hkind, hon⟩ := hboth
    rw [hkind] at hid
    rw [if_pos hon] at hecho
    obtain ⟨text, htext, hacceptable⟩ := hid
    have hlegal := Http.isLegal_of_plain (Http.isPlain_of_acceptable hacceptable)
    rw [htext] at h
    obtain ⟨hrecords, hpassed⟩ := h.of_legal hecho hlegal
    refine ⟨hrecords.trans (by rw [← htext]), ?_⟩
    cases outcome with
    | response r =>
      obtain ⟨r', hresponse, hr⟩ := hpassed
      rw [PassesSafely, if_pos ⟨hkind, hon⟩]
      exact ⟨text, r', htext, hresponse, hr, HeaderValue.isSafe_encode hacceptable⟩
    | failure f => exact hpassed
    | value v => exact hpassed
  · have hnone : (ofSettings settings).echo = none ∨ id = none := by
      cases hkind : settings.initializer with
      | empty =>
        rw [hkind] at hid
        exact .inr hid
      | request => exact .inl (hecho.trans (if_neg fun hon => hboth ⟨hkind, hon⟩))
    obtain ⟨hrecords, rfl⟩ := h.unchanged hnone
    refine ⟨hrecords, ?_⟩
    cases outcome' with
    | response r =>
      rw [PassesSafely, if_neg hboth]
    | failure f => rfl
    | value v => rfl

/-- If generated identifiers are hexadecimal digits and hyphens, a layer of any settings adds to the
records of a service one when the extent begins and, if the service returns, one when it ends, none of
which is a warning, and passes on the end safely: what it puts into a response has from 1 to 128 octets,
all of them visible ASCII, and it does put it there if the settings ask for it. -/
theorem echo_is_safe (settings : ContextSettings) (ids : IdSupply)
    (hids : ∀ format n, IsHexId (ids.source format n)) (inner : Service) (request : Http.Request)
    (number : Nat) (turns : List Turn) (depth : Nat) (schedule : List Choice) (heap : Heap) :
    let layer := ofSettings settings
    let entries := (layer.initializer.entries request ids).1
    let id := entries.requestId?
    let begun := bindRecord request id
    let called := (Process.ofCall ⟨number, 0⟩ turns (inner request)).follow depth (.root :: schedule)
      { heap := heap.write ⟨number, 0⟩ entries }
    let outer := (Process.ofProgram number turns (layer.around ids inner request)).follow depth
      (.root :: schedule) { heap }
    (begun.level = .debug ∧ ∀ outcome, (releaseRecord outcome id).level = .debug) ∧
    match called.1.exit? with
    | some (.returned outcome) => ∃ outcome' during late,
      outer.1.exit? = some (.returned outcome') ∧ called.1.events = during ++ late ∧
      outer.1.events = begun :: during ++ releaseRecord outcome id :: late ∧
      PassesSafely settings id outcome outcome'
    | exit => outer.1.exit? = exit ∧ outer.1.events = begun :: called.1.events := by
  intro layer entries id begun called outer
  obtain ⟨called', outer', heap', hfollows, hcalled, houter⟩ :=
    layer.exists_follows ids inner request number turns depth schedule heap
  have hcalled : called = (called', { heap := heap' }) := hcalled
  have houter : outer = (outer', { heap := heap' }) := houter
  refine ⟨⟨rfl, fun outcome => by cases outcome <;> rfl⟩, ?_⟩
  rw [hcalled, houter]
  cases hfollows with
  | inside body session => exact ⟨rfl, by simp [Process.events, Session.behind, begun, id, entries]⟩
  | panicked text session => exact ⟨rfl, by simp [Process.events, Session.behind, begun, id, entries]⟩
  | passed outcome outcome' records during session hpasses =>
    obtain ⟨rfl, hsafely⟩ : records = [releaseRecord outcome id] ∧ PassesSafely settings id outcome outcome' :=
      hpasses.safely fun format n => isAcceptableId_of_isHexId (hids format n)
    refine ⟨outcome', during.reverse, session.events.reverse, rfl, ?_, ?_, hsafely⟩
    · simp [Process.events, Session.behind]
    · simp [Process.events, Session.behind, begun, id, entries]

/-- The request brings an octet that is no text, the service overwrites the identifier with a line break and
answers with two values under the header; the response has one, which is safe. -/
theorem echo_is_safe_overwritten :
    let settings : ContextSettings := {}
    let ids := IdSupply.ofSource .mock
    let header := settings.idHeader
    let value := HeaderValue.ofAscii "other"
    let r : Response := ⟨.ok, [(header, value), (header, value)], .empty⟩
    let inner : Service := fun _ =>
      .insert .current Entries.requestIdKey (.string "\n") fun _ => Work.respond r
    let request : Http.Request := ⟨"GET", ⟨"/", none⟩, [(header, ⟨[0xff]⟩)], []⟩
    let outer := (Process.ofProgram 0 [] ((ofSettings settings).around ids inner request)).follow 0
      [.root] {}
    (∀ format n, IsHexId (ids.source format n)) ∧
      ∃ r' value', outer.1.exit? = some (.returned (.response r')) ∧
        r'.headers.all header = [value'] ∧ value'.IsSafe := by
  intro settings ids header value r inner request outer
  have hids : ∀ format n, IsHexId (ids.source format n) := fun format n =>
    isHexId_of_isUuid (isUuid_mock format n)
  obtain ⟨-, h⟩ := echo_is_safe settings ids hids inner request 0 [] 0 [] .empty
  obtain ⟨outcome', -, -, hexit, -, -, hsafely⟩ := h
  rw [PassesSafely, if_pos ⟨rfl, rfl⟩] at hsafely
  obtain ⟨text, r', -, rfl, hmarked, hsafe⟩ := hsafely
  exact ⟨hids, r', _, hexit, hmarked.all_eq, hsafe⟩

end ContextLayer

end RequestScope
