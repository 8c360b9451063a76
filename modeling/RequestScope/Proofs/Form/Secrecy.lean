import RequestScope.Proofs.Form.Serialization

/-!
# Rejections do not tell what was submitted

Two submissions that break the same rules are rejected in the same way: the client and the log cannot
tell them apart, although the report that the rejection is made from holds the texts themselves.
-/

namespace RequestScope

namespace Form

variable {α : Type} {form : Form α} {contents contents' : α}

/-- Without their parameters, the broken rules of a form do not depend on the texts that break them. -/
theorem map_bare_check_eq (h : ∀ field ∈ form.fields, field.holds contents = field.holds contents') :
    (form.check contents).map FieldReport.bare = (form.check contents').map FieldReport.bare := by
  have hfields : form.fields.filter (fun field => !field.holds contents) =
      form.fields.filter fun field => !field.holds contents' :=
    List.filter_congr fun field hfield => congrArg (!·) (h field hfield)
  have hfound : (form.found contents).map (fun entry => (entry.1, entry.2.bare)) =
      (form.found contents').map fun entry => (entry.1, entry.2.bare) := by
    rw [found, found, hfields, List.map_map, List.map_map]
    rfl
  rw [check_eq_collect, check_eq_collect, ← Violations.collect_map_bare, hfound, Violations.collect_map_bare]

theorem describe_check_eq (h : ∀ field ∈ form.fields, field.holds contents = field.holds contents') :
    (form.check contents).describe = (form.check contents').describe := by
  have hbare (contents : α) : Violations.describe ((form.check contents).map FieldReport.bare) =
      (form.check contents).describe := by
    rw [check_eq_collect]
    exact Violations.describe_map_bare (form.message_found contents)
  rw [← hbare contents, map_bare_check_eq h, hbare contents']

theorem details_check_eq (h : ∀ field ∈ form.fields, field.holds contents = field.holds contents') :
    (form.check contents).details = (form.check contents').details := by
  rw [← Violations.details_map_bare, map_bare_check_eq h, Violations.details_map_bare]

end Form

namespace ResetPassword

/-- Two password resets that can be read and break the same rules, at least one of them, get one response,
leave one log record and have one wording, and the programs of their routes are the same, whatever the
handlers are. The reports behind them hold the texts that break rules. -/
theorem rejections_alike {unpackers : Compression.Unpackers} {request request' : Http.Request}
    {contents contents' : ResetPassword}
    (hread : form.Yields unpackers request contents) (hread' : form.Yields unpackers request' contents')
    (hsame : ∀ field ∈ form.fields, field.holds contents = field.holds contents')
    (hbreaks : ¬ form.Keeps contents) :
    let failure := Failure.invalidFields (form.check contents)
    let failure' := Failure.invalidFields (form.check contents')
    (∃ record, form.receive request.headers request.body unpackers = (.refused failure, [record]) ∧
      form.receive request'.headers request'.body unpackers = (.refused failure', [record])) ∧
    failure.response.status = .badRequest ∧ failure.response = failure'.response ∧
    failure.message = failure'.message ∧ failure.records = [] ∧ failure'.records = [] ∧
    (∀ next next', (Work.submitted unpackers form request next).bind Work.settle =
      (Work.submitted unpackers form request' next').bind Work.settle) ∧
    ∀ field ∈ form.fields, field.holds contents = false →
      (form.check contents).HoldsText field.name (field.value contents) ∧
      (form.check contents').HoldsText field.name (field.value contents') := by
  intro failure failure'
  have hbreaks' : ¬ form.Keeps contents' := fun hkeeps => by
    refine hbreaks ((form.keeps_iff_holds contents).mpr fun field hfield => ?_)
    rw [hsame field hfield]
    exact (form.keeps_iff_holds contents').mp hkeeps field hfield
  have hdescribe := Form.describe_check_eq hsame
  have hrecord : Form.rejection (form.check contents') = Form.rejection (form.check contents) := by
    rw [Form.rejection, Form.rejection, hdescribe]
  have hresponse : failure.response = failure'.response :=
    congrArg (fun details => Http.Response.json .badRequest (.ofMembers [("error", .string "validation_error"),
      ("message", .string Failure.invalidFieldsText), ("details", details)])) (Form.details_check_eq hsame)
  have hreceive := Form.receive_of_breaks hread hbreaks
  have hreceive' := Form.receive_of_breaks hread' hbreaks'
  rw [hrecord] at hreceive'
  refine ⟨⟨_, hreceive, hreceive'⟩, rfl, hresponse, ?_, rfl, rfl, fun next next' => ?_,
    fun field hfield hbroken => ?_⟩
  · exact congrArg ("Validation failed: " ++ ·) hdescribe
  · calc (Work.submitted unpackers form request next).bind Work.settle
        = .emitAll [Form.rejection (form.check contents)] (Work.respond failure.response) :=
          Form.submitted_of_refused hreceive rfl next
      _ = .emitAll [Form.rejection (form.check contents)] (Work.respond failure'.response) := by rw [hresponse]
      _ = (Work.submitted unpackers form request' next').bind Work.settle :=
          (Form.submitted_of_refused hreceive' rfl next').symm
  · exact ⟨Form.holdsText_check hfield hbroken, Form.holdsText_check hfield (hsame field hfield ▸ hbroken)⟩

/-- Two short passwords of different lengths, each with a token of its own. -/
theorem rejections_alike_short :
    let contents : ResetPassword := ⟨"token-1", "pass1"⟩
    let contents' : ResetPassword := ⟨"another token", "geheim!"⟩
    let request (contents : ResetPassword) : Http.Request :=
      ⟨"POST", ⟨"/t/password/reset", none⟩, [(Http.contentType, Http.applicationJson)],
        Text.Utf8.encode (form.toJson contents).render⟩
    form.Yields .stored (request contents) contents ∧ form.Yields .stored (request contents') contents' ∧
    (∀ field ∈ form.fields, field.holds contents = field.holds contents') ∧ ¬ form.Keeps contents ∧
    ∀ next next', (Work.submitted .stored form (request contents) next).bind Work.settle =
      (Work.submitted .stored form (request contents') next').bind Work.settle := by
  intro contents contents' request
  have hread : form.Yields .stored (request contents) contents :=
    wellFormed_form.yields_of_spells (spells_toJson contents)
      (Http.Request.bringsJson_of_length_le (by decide +kernel))
  have hread' : form.Yields .stored (request contents') contents' :=
    wellFormed_form.yields_of_spells (spells_toJson contents')
      (Http.Request.bringsJson_of_length_le (by decide +kernel))
  have hsame : ∀ field ∈ form.fields, field.holds contents = field.holds contents' := by decide +kernel
  have hbreaks : ¬ form.Keeps contents := by
    rw [Form.keeps_iff_holds]
    decide +kernel
  obtain ⟨-, -, -, -, -, -, hprograms, -⟩ := rejections_alike hread hread' hsame hbreaks
  exact ⟨hread, hread', hsame, hbreaks, hprograms⟩

end ResetPassword

end RequestScope
