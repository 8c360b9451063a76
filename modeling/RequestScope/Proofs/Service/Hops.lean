import RequestScope.Proofs.Http.Identifiers
import RequestScope.Proofs.Service.Around

/-!
# One identifier along a chain of services

Services that call each other, each with the context layer and each request with the identifier that
the caller has put into its context. What one service sends is what the next one takes, so that the
identifier of the first is in every context, in every record of a layer and in every response.
-/

namespace RequestScope

open Http (HeaderName IsLegal)
open Settings (ContextSettings IdFormat)

/-- A service of a chain and the request that comes to it. All services of a chain use the same header;
what they generate when they need an identifier may differ. -/
structure Hop (header : HeaderName) where
  format : IdFormat := .v4
  ids : IdSupply
  inner : Service
  request : Http.Request

namespace Hop

variable {header : HeaderName} {hop next : Hop header} {id : String}

/-- The settings of a service of a chain: identifiers are trusted when they come in and sent back. -/
def settings (hop : Hop header) : ContextSettings :=
  { initializer := .request, idHeader := header, trustIncoming := true, idFormat := hop.format
    echoId := true }

/-- The context layer of the service. -/
def layer (hop : Hop header) : ContextLayer := .ofSettings hop.settings

/-- The policy that the layer follows. -/
def policy (hop : Hop header) : IdPolicy := ⟨header, true, hop.format⟩

/-- The context of the request before the service is called. -/
def context (hop : Hop header) : Entries := (hop.layer.initializer.entries hop.request hop.ids).1

/-- The supply of identifiers after the context was made. -/
def idsAfter (hop : Hop header) : IdSupply := (hop.layer.initializer.entries hop.request hop.ids).2

theorem requestId?_context (hop : Hop header) :
    hop.context.requestId? = some (hop.policy.choose hop.request hop.ids).1 :=
  Initializer.requestId?_describe hop.request _

theorem idsAfter_eq (hop : Hop header) : hop.idsAfter = (hop.policy.choose hop.request hop.ids).2 := rfl

/-- The request to the next service brings the identifier of this one's context, perhaps with spaces and
tabs around it. -/
def SendsOn (hop next : Hop header) : Prop :=
  ∃ id left right : String, hop.context.requestId? = some id ∧
    (∀ c ∈ left.toList ++ right.toList, c = ' ' ∨ c = '\t') ∧
    next.request.headers.first? header = some ⟨Text.Utf8.encode (left ++ id ++ right)⟩

/-- The identifier is in the context of the request, in the records of the layer, which name it in so many
words, and in the response if there is one, where it is the only value under the header. -/
structure Carries (hop : Hop header) (id : String) : Prop where
  context_eq : hop.context.requestId? = some id
  served : ∀ (number : Nat) (turns : List Turn) (depth : Nat) (schedule : List Choice) (heap : Heap),
    let called := (Process.ofCall ⟨number, 0⟩ turns (hop.inner hop.request)).follow depth
      (.root :: schedule) { heap := heap.write ⟨number, 0⟩ hop.context }
    let served := hop.layer.around hop.ids hop.inner hop.request
    let outer := (Process.ofProgram number turns served).follow depth (.root :: schedule) { heap }
    match outer.1.exit? with
    | some (.returned outcome) =>
      (∃ during late, called.1.events = during ++ late ∧
        outer.1.events = ContextLayer.begunWith hop.request id :: during ++
          ContextLayer.endedWith outcome id :: late) ∧
      ∀ r, outcome = .response r → r.headers.all header = [⟨Text.Utf8.encode id⟩]
    | _ => outer.1.events = ContextLayer.begunWith hop.request id :: called.1.events

/-! ### One service -/

theorem records_eq_of_passesOn {outcome outcome' : Outcome} {records : List LogRecord}
    (h : hop.layer.PassesOn (some id) outcome outcome' records) (hlegal : IsLegal id) :
    records = [ContextLayer.releaseRecord outcome' (some id)] ∧
      ∀ r, outcome' = .response r → r.headers.all header = [⟨Text.Utf8.encode id⟩] := by
  have hecho : hop.layer.echo = some header := rfl
  obtain ⟨rfl, hpassed⟩ := h.of_legal hecho hlegal
  cases outcome with
  | response r =>
    obtain ⟨r', rfl, hr⟩ := hpassed
    refine ⟨?_, ?_⟩
    · rw [ContextLayer.releaseRecord, ContextLayer.releaseRecord, hr.status_eq]
    · rintro _ ⟨⟩
      exact hr.all_eq
  | failure _ | value _ =>
    cases hpassed
    refine ⟨rfl, ?_⟩
    rintro _ ⟨⟩

theorem carries_of_context (hid : hop.context.requestId? = some id) (hacceptable : isAcceptableId id) :
    hop.Carries id where
  context_eq := hid
  served number turns depth schedule heap := by
    have hlegal : IsLegal id := Http.isLegal_of_plain (Http.isPlain_of_acceptable hacceptable)
    obtain ⟨called, outer, heap', hfollows, hcalled, houter⟩ :=
      hop.layer.exists_follows hop.ids hop.inner hop.request number turns depth schedule heap
    have hid : (hop.layer.initializer.entries hop.request hop.ids).1.requestId? = some id := hid
    rw [hid] at hfollows
    intro called' served outer'
    have hcalled : called' = (called, { heap := heap' }) := hcalled
    have houter : outer' = (outer, { heap := heap' }) := houter
    rw [hcalled, houter, ← ContextLayer.bindRecord_some]
    cases hfollows with
    | inside body session => simp [Process.exit?, Process.events, Session.behind]
    | panicked text session => simp [Process.exit?, Process.events, Session.behind]
    | passed outcome outcome' records during session hpasses =>
      obtain ⟨rfl, hmarked⟩ := records_eq_of_passesOn hpasses hlegal
      rw [ContextLayer.releaseRecord_some]
      refine ⟨⟨during.reverse, session.events.reverse, ?_, ?_⟩, hmarked⟩
      · simp [Process.events, Session.behind]
      · simp [Process.events, Session.behind]

/-! ### From one service to the next -/

/-- What is sent on is taken, and nothing is generated. -/
theorem SendsOn.choose_eq (h : hop.SendsOn next) (hid : hop.context.requestId? = some id)
    (hacceptable : isAcceptableId id) : next.policy.choose next.request next.ids = (id, next.ids) := by
  obtain ⟨id', left, right, hid', hpads, hheader⟩ := h
  cases hid.symm.trans hid'
  have hincoming : next.policy.incoming? next.request = some id :=
    IdPolicy.incoming?_of_padded rfl hacceptable hpads hheader
  rw [IdPolicy.choose, hincoming]

theorem choose_eq_of_isChain {hops : List (Hop header)} (hchain : (hop :: hops).IsChain SendsOn)
    (hid : hop.context.requestId? = some id) (hacceptable : isAcceptableId id) :
    ∀ later ∈ hops, later.policy.choose later.request later.ids = (id, later.ids) := by
  induction hops generalizing hop with
  | nil => exact fun _ h => absurd h List.not_mem_nil
  | cons next hops ih =>
    obtain ⟨hsends, hchain⟩ := List.isChain_cons_cons.mp hchain
    have hnext := hsends.choose_eq hid hacceptable
    have hid' : next.context.requestId? = some id := by rw [requestId?_context, hnext]
    intro later hlater
    obtain rfl | hlater := List.mem_cons.mp hlater
    · exact hnext
    · exact ih hchain hid' later hlater

/-- Every service of a chain carries the identifier of the first, wherever the first has it from, if
generated identifiers have their shape; and no other service calls its generator. -/
theorem id_carried_along (first : Hop header) (hops : List (Hop header))
    (hids : ∀ format n, IsUuid (first.ids.source format n)) (hchain : (first :: hops).IsChain SendsOn) :
    ∃ id, (∀ hop ∈ first :: hops, hop.Carries id) ∧ ∀ hop ∈ hops, hop.idsAfter = hop.ids := by
  have hid := first.requestId?_context
  have hacceptable := first.policy.isAcceptableId_choose first.request hids
  have hlater := choose_eq_of_isChain hchain hid hacceptable
  refine ⟨(first.policy.choose first.request first.ids).1, fun hop hmem => ?_, fun hop hmem => ?_⟩
  · obtain rfl | hmem := List.mem_cons.mp hmem
    · exact carries_of_context hid hacceptable
    · have hid' : hop.context.requestId? = some (first.policy.choose first.request first.ids).1 := by
        rw [requestId?_context, hlater hop hmem]
      exact carries_of_context hid' hacceptable
  · rw [idsAfter_eq, hlater hop hmem]

/-- A service that generates an identifier and one that gets it between a space and a tab. -/
theorem id_carried_along_pair :
    let first : Hop Settings.defaultIdHeader :=
      { ids := .ofSource .mock, inner := fun _ => .missing, request := ⟨"GET", ⟨"/", none⟩, [], []⟩ }
    let value : Http.HeaderValue := ⟨Text.Utf8.encode (" " ++ mockV4 ++ "\t")⟩
    let next : Hop Settings.defaultIdHeader :=
      { format := .v7, ids := .ofSource .mock, inner := fun _ => .missing
        request := ⟨"GET", ⟨"/", none⟩, [(Settings.defaultIdHeader, value)], []⟩ }
    first.SendsOn next ∧ first.Carries mockV4 ∧ next.Carries mockV4 ∧ next.idsAfter = next.ids := by
  intro first value next
  have hid : first.context.requestId? = some mockV4 := first.requestId?_context
  have hsends : first.SendsOn next := ⟨mockV4, " ", "\t", hid, by simp, rfl⟩
  have hchain : [first, next].IsChain SendsOn := .cons_cons hsends (.singleton next)
  obtain ⟨id, hcarries, hcalls⟩ := id_carried_along first [next] isUuid_mock hchain
  have hfirst := hcarries first (by simp)
  cases hid.symm.trans hfirst.context_eq
  exact ⟨hsends, hfirst, hcarries next (by simp), hcalls next (by simp)⟩

end Hop

end RequestScope
