import RequestScope.Proofs.Form.Serialization

/-!
# Forms as gates

A handler behind a form gets what the body of the request spells, if that keeps the rules of the form,
and is not called otherwise. The response then tells which of the two stages failed, and the two
responses cannot be mistaken for each other. What a form's contents are serialized to passes the gate
and comes out as the same contents, as long as it is no longer than a body may be.
-/

namespace RequestScope

namespace Form

open Compression (Unpackers)

variable {α : Type}

/-- The response to a body that cannot be read. -/
def faultResponse (text : String) : Http.Response :=
  .json .badRequest (.ofMembers [("error", .string ("Validation error: " ++ text))])

/-- The response to contents that break rules. -/
def rulesResponse (details : List (String × Json)) : Http.Response :=
  .json .badRequest (.ofMembers [("error", .string "validation_error"),
    ("message", .string Failure.invalidFieldsText), ("details", .object details)])

/-- The contents are taken from the request, and every handler is called with them. -/
def Accepts (form : Form α) (unpackers : Unpackers) (request : Http.Request) (contents : α) : Prop :=
  form.receive request.headers request.body unpackers = (.accepted contents, []) ∧
    ∀ next : α → Work, Work.submitted unpackers form request next = next contents

/-- The request is refused with a response, and no handler is called: what its route does is the same
for all handlers. -/
def Refuses (form : Form α) (unpackers : Unpackers) (request : Http.Request)
    (response : Http.Response) : Prop :=
  ∃ failure records, form.receive request.headers request.body unpackers = (.refused failure, records) ∧
    failure.response = response ∧ ∀ next : α → Work,
      (Work.submitted unpackers form request next).bind Work.settle = .emitAll records (Work.respond response)

/-- A form is a gate if it takes contents exactly when they are read and keep the rules, answers with a
fault exactly when nothing is read, answers with details exactly when rules are broken, does nothing
else unless the reader panics, and takes contents that keep the rules back from their serialization. -/
structure IsGate (form : Form α) (unpackers : Unpackers) : Prop where
  accepts_iff : ∀ request contents,
    form.Accepts unpackers request contents ↔ form.Yields unpackers request contents ∧ form.Keeps contents
  refuses_fault_iff : ∀ request text,
    form.Refuses unpackers request (faultResponse text) ↔ form.Fails unpackers request text
  refuses_rules_iff : ∀ request,
    (∃ details, details ≠ [] ∧ form.Refuses unpackers request (rulesResponse details)) ↔
      ∃ contents, form.Yields unpackers request contents ∧ ¬ form.Keeps contents
  decides : ∀ request : Http.Request, ¬ request.headers.UpsetReader →
    (∃ contents, form.Accepts unpackers request contents) ∨
    (∃ text, form.Refuses unpackers request (faultResponse text)) ∨
    ∃ details, details ≠ [] ∧ form.Refuses unpackers request (rulesResponse details)
  panics : ∀ request : Http.Request, request.headers.UpsetReader → ∀ next : α → Work,
    Work.submitted unpackers form request next = .panic signedLengthPanic
  takes_back : ∀ request contents octets, form.Keeps contents → form.Spells contents octets →
    request.BringsJson unpackers octets → form.Accepts unpackers request contents

theorem faultResponse_injective {text text' : String} (h : faultResponse text = faultResponse text') :
    text = text' := by
  simpa [faultResponse, Http.Response.json, Json.ofMembers, Json.ofDictionary, SortedMap.ofList,
    SortedMap.insert, SortedMap.insertEntry, SortedMap.empty] using h

/-- The details in the body of a response. -/
def details? (response : Http.Response) : Option Json :=
  match response.body with
  | .json value => value.member? "details"
  | _ => none

theorem details?_faultResponse (text : String) : details? (faultResponse text) = none := by
  have hne : "error" ≠ "details" := by decide +kernel
  exact (SortedMap.get?_insert ..).trans (if_neg hne)

theorem details?_rulesResponse (details : List (String × Json)) :
    details? (rulesResponse details) = some (.object details) :=
  (SortedMap.get?_insert ..).trans (if_pos rfl)

/-- Only the response to broken rules has details. -/
theorem faultResponse_ne_rulesResponse (text : String) (details : List (String × Json)) :
    faultResponse text ≠ rulesResponse details := by
  intro h
  have hdetails := congrArg details? h
  rw [details?_faultResponse, details?_rulesResponse] at hdetails
  cases hdetails

variable {form : Form α} {unpackers : Unpackers} {request : Http.Request}

/-- A request is refused with one response. -/
theorem Refuses.response_eq {response response' : Http.Response} (h : form.Refuses unpackers request response)
    (h' : form.Refuses unpackers request response') : response = response' := by
  obtain ⟨failure, records, hreceive, rfl, -⟩ := h
  obtain ⟨failure', records', hreceive', rfl, -⟩ := h'
  obtain ⟨hfailure, -⟩ := Prod.mk.inj (hreceive.symm.trans hreceive')
  rw [Reception.refused.inj hfailure]

/-- A request whose contents are taken is not refused. -/
theorem Accepts.not_refuses {contents : α} {response : Http.Response}
    (h : form.Accepts unpackers request contents) : ¬ form.Refuses unpackers request response := by
  rintro ⟨failure, records, hreceive, -⟩
  cases h.1.symm.trans hreceive

theorem Accepts.contents_eq {contents contents' : α} (h : form.Accepts unpackers request contents)
    (h' : form.Accepts unpackers request contents') : contents = contents' := by
  obtain ⟨heq, -⟩ := Prod.mk.inj (h.1.symm.trans h'.1)
  exact Reception.accepted.inj heq

theorem accepts_of_keeps {contents : α} (h : form.Yields unpackers request contents)
    (hkeeps : form.Keeps contents) : form.Accepts unpackers request contents :=
  ⟨receive_of_keeps h hkeeps, submitted_of_accepted (receive_of_keeps h hkeeps)⟩

theorem refuses_of_fails {text : String} (h : form.Fails unpackers request text) :
    form.Refuses unpackers request (faultResponse text) :=
  ⟨_, _, receive_of_fails h, rfl, submitted_of_refused (receive_of_fails h) rfl⟩

theorem refuses_of_breaks {contents : α} (h : form.Yields unpackers request contents)
    (hbreaks : ¬ form.Keeps contents) :
    ∃ details, details ≠ [] ∧ form.Refuses unpackers request (rulesResponse details) := by
  obtain ⟨details, hne, hdetails⟩ := details_check hbreaks
  have hresponse : (Failure.invalidFields (form.check contents)).response = rulesResponse details := by
    rw [rulesResponse, ← hdetails]
    rfl
  refine ⟨details, hne, _, _, receive_of_breaks h hbreaks, hresponse, fun next => ?_⟩
  rw [← hresponse]
  exact submitted_of_refused (receive_of_breaks h hbreaks) rfl next

theorem Accepts.not_upset {contents : α} (h : form.Accepts unpackers request contents) :
    ¬ request.headers.UpsetReader := fun hupset => by
  cases h.1.symm.trans (receive_of_upset hupset)

theorem Refuses.not_upset {response : Http.Response} (h : form.Refuses unpackers request response) :
    ¬ request.headers.UpsetReader := fun hupset => by
  obtain ⟨failure, records, hreceive, -⟩ := h
  cases hreceive.symm.trans (receive_of_upset hupset)

/-- Three things can become of a request that does not upset the reader. -/
theorem fate_cases (h : ¬ request.headers.UpsetReader) :
    (∃ text, form.Fails unpackers request text ∧ form.Refuses unpackers request (faultResponse text)) ∨
    (∃ contents, (form.Yields unpackers request contents ∧ form.Keeps contents) ∧
      form.Accepts unpackers request contents) ∨
    ∃ contents, (form.Yields unpackers request contents ∧ ¬ form.Keeps contents) ∧
      ∃ details, details ≠ [] ∧ form.Refuses unpackers request (rulesResponse details) := by
  obtain hupset | ⟨text, hfails⟩ | ⟨contents, hyields⟩ := read_cases form unpackers request
  · exact absurd hupset h
  · exact .inl ⟨text, hfails, refuses_of_fails hfails⟩
  · by_cases hkeeps : form.Keeps contents
    · exact .inr (.inl ⟨contents, ⟨hyields, hkeeps⟩, accepts_of_keeps hyields hkeeps⟩)
    · exact .inr (.inr ⟨contents, ⟨hyields, hkeeps⟩, refuses_of_breaks hyields hkeeps⟩)

/-- Each equivalence holds because the other fates of a request exclude the one that it is about. -/
theorem WellFormed.isGate (h : form.WellFormed) : form.IsGate unpackers where
  accepts_iff request contents := by
    refine ⟨fun haccepts => ?_, fun hkept => accepts_of_keeps hkept.1 hkept.2⟩
    obtain ⟨text, -, hrefuses⟩ | ⟨contents', hkept, haccepts'⟩ | ⟨contents', -, details, -, hrefuses⟩ :=
      fate_cases haccepts.not_upset
    · exact absurd hrefuses haccepts.not_refuses
    · exact haccepts.contents_eq haccepts' ▸ hkept
    · exact absurd hrefuses haccepts.not_refuses
  refuses_fault_iff request text := by
    refine ⟨fun hrefuses => ?_, refuses_of_fails⟩
    obtain ⟨text', hfails, hrefuses'⟩ | ⟨contents, -, haccepts⟩ | ⟨contents, -, details, -, hrefuses'⟩ :=
      fate_cases hrefuses.not_upset
    · exact faultResponse_injective (hrefuses.response_eq hrefuses') ▸ hfails
    · exact absurd hrefuses haccepts.not_refuses
    · exact absurd (hrefuses.response_eq hrefuses') (faultResponse_ne_rulesResponse text details)
  refuses_rules_iff request := by
    refine ⟨fun ⟨details, hne, hrefuses⟩ => ?_,
      fun ⟨contents, hyields, hbreaks⟩ => refuses_of_breaks hyields hbreaks⟩
    obtain ⟨text, -, hrefuses'⟩ | ⟨contents, -, haccepts⟩ | ⟨contents, hbroken, -⟩ :=
      fate_cases hrefuses.not_upset
    · exact absurd (hrefuses'.response_eq hrefuses) (faultResponse_ne_rulesResponse text details)
    · exact absurd hrefuses haccepts.not_refuses
    · exact ⟨contents, hbroken⟩
  decides request hupset := by
    obtain ⟨text, -, hrefuses⟩ | ⟨contents, -, haccepts⟩ | ⟨contents, -, hrefuses⟩ :=
      fate_cases hupset
    · exact .inr (.inl ⟨text, hrefuses⟩)
    · exact .inl ⟨contents, haccepts⟩
    · exact .inr (.inr hrefuses)
  panics request hupset next := by
    rw [Work.submitted, receive_of_upset hupset]
    rfl
  takes_back request contents octets hkeeps hspells hbrings :=
    accepts_of_keeps (h.yields_of_spells hspells hbrings) hkeeps

/-- A body is refused for the length that the headers state, whatever it spells. -/
theorem fails_of_statedLength {length : Nat} (hupset : ¬ request.headers.UpsetReader)
    (hannounced : request.headers.announceJson) (hstated : request.headers.statedLength? = some length)
    (hlong : maxBodyLength < length) :
    form.Fails unpackers request (BodyFault.statedLength length).message := by
  refine ⟨hupset, _, ?_, rfl⟩
  rw [decode, hannounced, hstated]
  simp only [hlong, if_true]
  rfl

end Form

/-- Both forms are gates, whatever reads bodies in the formats that the service does not read itself, and
their serialized contents hold what they were made from. -/
theorem forms_are_gates (unpackers : Compression.Unpackers) :
    (ResetPassword.form.IsGate unpackers ∧ ∀ contents,
      ResetPassword.form.Spells contents (Text.Utf8.encode (ResetPassword.form.toJson contents).render)) ∧
    (RoleUpdate.form.IsGate unpackers ∧ ∀ contents,
      RoleUpdate.form.Spells contents (Text.Utf8.encode (RoleUpdate.form.toJson contents).render)) ∧
    ∀ text details, Form.faultResponse text ≠ Form.rulesResponse details :=
  ⟨⟨ResetPassword.wellFormed_form.isGate, ResetPassword.spells_toJson⟩,
    ⟨RoleUpdate.wellFormed_form.isGate, RoleUpdate.spells_toJson⟩, Form.faultResponse_ne_rulesResponse⟩

/-- The contents shown in documentation pass the gate and come out as they were. -/
theorem forms_are_gates_sample :
    let octets := Text.Utf8.encode (ResetPassword.form.toJson ResetPassword.sample).render
    let request : Http.Request :=
      ⟨"POST", ⟨"/t/password/reset", none⟩, [(Http.contentType, Http.applicationJson)], octets⟩
    ResetPassword.form.Accepts .stored request ResetPassword.sample := by
  intro octets request
  obtain ⟨⟨hgate, hspells⟩, -⟩ := forms_are_gates .stored
  have hkeeps : ResetPassword.form.Keeps ResetPassword.sample := by
    rw [Form.keeps_iff_holds]
    decide +kernel
  exact hgate.takes_back request ResetPassword.sample octets hkeeps (hspells _)
    (Http.Request.bringsJson_of_length_le (by decide +kernel))

namespace RoleUpdate

open Text.Utf8 (octets)

theorem length_octets_replicate (n : Nat) :
    (octets ((List.replicate n 'a').flatMap Json.escapeChar)).length = n := by
  induction n with
  | zero => rfl
  | succ n ih =>
    have ha : octets (Json.escapeChar 'a') = [0x61] := by decide +kernel
    rw [List.replicate_succ, List.flatMap_cons, Text.Utf8.octets_append, ha, List.length_append, ih,
      List.length_singleton, Nat.add_comm]

theorem length_render_replicate (n : Nat) :
    (Text.Utf8.encode (form.toJson ⟨String.ofList (List.replicate n 'a')⟩).render).length = n + 11 := by
  have hname : (octets (Json.renderString "name")).length = 6 := by decide +kernel
  have hvalue : (octets (Json.renderString (String.ofList (List.replicate n 'a')))).length = n + 2 := by
    rw [Json.octets_renderString, String.toList_ofList, List.length_cons, List.length_append,
      length_octets_replicate, List.length_singleton]
  have hbrace : (octets (Json.renderMembers [])).length = 1 := rfl
  have hobject : form.toJson ⟨String.ofList (List.replicate n 'a')⟩ =
      .object [("name", .string (String.ofList (List.replicate n 'a')))] := rfl
  rw [hobject, Json.render, Text.Utf8.encode_ofList, Json.octets_renderChars_object, Json.objectTail,
    Json.octets_renderMember]
  simp only [List.length_cons, List.length_append, hname, hvalue, hbrace]
  omega

/-- A role whose name alone fills the greatest body keeps the rules, and its serialization is refused. -/
theorem long_name_refused :
    let contents : RoleUpdate := ⟨String.ofList (List.replicate maxBodyLength 'a')⟩
    let request := Http.Request.withBody
      ⟨"PATCH", ⟨"/t/roles/1", none⟩, [(Http.contentType, Http.applicationJson)], []⟩
      (Text.Utf8.encode (form.toJson contents).render)
    form.Keeps contents ∧ ¬ form.Accepts .stored request contents ∧
      form.Refuses .stored request (Form.faultResponse
        "JSON payload (2097163 bytes) is larger than allowed (limit: 2097152 bytes).") := by
  intro contents request
  have hlength : (Text.Utf8.encode (form.toJson contents).render).length = 2097163 :=
    length_render_replicate maxBodyLength
  have hheaders : request.headers = [(Http.contentType, Http.applicationJson),
      (Http.contentLength, .ofAscii "2097163")] := by
    have hnumber : toString 2097163 = "2097163" := by decide +kernel
    -- The body is named by its length alone from here on; nothing may compute it.
    change Http.Headers.replace _ _
      (.ofAscii (toString (Text.Utf8.encode (form.toJson contents).render).length)) = _
    rw [hlength, hnumber]
    decide +kernel
  have hupset : ¬ request.headers.UpsetReader := by
    rw [hheaders, Http.Headers.UpsetReader]
    decide +kernel
  have hannounced : request.headers.announceJson := by
    rw [hheaders]
    decide +kernel
  have hstated : request.headers.statedLength? = some 2097163 := by
    rw [hheaders]
    decide +kernel
  have hrefuses := Form.refuses_of_fails (Form.fails_of_statedLength hupset hannounced hstated (by decide) :
    form.Fails .stored request _)
  refine ⟨?_, fun haccepts => haccepts.not_refuses hrefuses, ?_⟩
  · intro field hfield
    obtain rfl := List.mem_singleton.mp hfield
    change 1 ≤ (String.ofList (List.replicate maxBodyLength 'a')).length
    rw [String.length_ofList, List.length_replicate]
    decide
  · have hmessage : (BodyFault.statedLength 2097163).message =
        "JSON payload (2097163 bytes) is larger than allowed (limit: 2097152 bytes)." := by decide +kernel
    exact hmessage ▸ hrefuses

end RoleUpdate

end RequestScope
