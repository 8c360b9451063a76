import RequestScope.Proofs.Form.Details
import RequestScope.Proofs.Form.Gate

/-!
# Lengths of submitted texts

The rules of the forms count characters: neither octets nor units of some other encoding, and a mark
that combines with the character before it counts like any other. Each rule is decided by the text of
its own field and is reported once, whatever the other rules say. The report comes out of the response
as it is.
-/

namespace RequestScope

theorem filter_key_of_nodup {ι κ : Type} [DecidableEq κ] {fields : List ι} {key : ι → κ}
    (hnodup : (fields.map key).Nodup) {field : ι} (hfield : field ∈ fields) :
    fields.filter (fun other => key other = key field) = [field] := by
  induction fields with
  | nil => cases hfield
  | cons head rest ih =>
    obtain ⟨hhead, hrest⟩ := List.nodup_cons.mp hnodup
    obtain rfl | hfield := List.mem_cons.mp hfield
    · have hnone : rest.filter (fun other => key other = key field) = [] := by
        simp only [List.filter_eq_nil_iff, decide_eq_true_eq]
        intro other hother heq
        exact hhead (heq ▸ List.mem_map_of_mem hother)
      simp [hnone]
    · have hne : key head ≠ key field := fun heq => hhead (heq ▸ List.mem_map_of_mem hfield)
      simp [hne, ih hrest hfield]

namespace Violations

/-- A report, and what a client is told of it, have one entry for a field: its text is shorter than
`minimum`. -/
structure FindsShort (report : Violations) (field : String) (minimum : Nat) (message text : String) :
    Prop where
  reported : report.get? field = some (.plain
    [⟨"length", some message, .ofList [("min", .ofInt minimum), ("value", .string text)]⟩])
  told : report.told.get? field = some (.array [.string message])

/-- Neither a report nor what a client is told of it mentions a field. -/
structure Passes (report : Violations) (field : String) : Prop where
  unreported : report.get? field = none
  untold : report.told.get? field = none

theorem findsShort_of_get? {report : Violations} {field message text : String} {minimum : Nat}
    (h : report.get? field = some (.plain
      [⟨"length", some message, .ofList [("min", .ofInt minimum), ("value", .string text)]⟩])) :
    report.FindsShort field minimum message text where
  reported := h
  told := by
    rw [get?_told, h]
    rfl

theorem passes_of_get? {report : Violations} {field : String} (h : report.get? field = none) :
    report.Passes field where
  unreported := h
  untold := by
    rw [get?_told, h]
    rfl

end Violations

namespace Form

variable {α : Type} {form : Form α} {contents : α}

/-! ### The report field by field -/

theorem Field.holds_iff {field : Field α} :
    field.holds contents = true ↔ field.minimum ≤ (field.value contents).toList.length := by
  rw [holds, decide_eq_true_iff, String.length_toList]

theorem ofField_found (hnodup : (form.fields.map (·.name)).Nodup) {field : Field α}
    (hfield : field ∈ form.fields) (contents : α) :
    Violations.ofField (form.found contents) field.name =
      if field.holds contents then [] else [field.violation contents] := by
  -- No two fields have one name in reports, so the only rule that can be found for it is the field's own.
  have hone := filter_key_of_nodup hnodup hfield
  simp only [Violations.ofField, found, List.filter_map, List.map_map, Function.comp_def]
  rw [List.filter_comm, hone, List.filter_singleton]
  cases field.holds contents <;> rfl

theorem findsShort_check (hnodup : (form.fields.map (·.name)).Nodup) {field : Field α}
    (hfield : field ∈ form.fields) (hshort : (field.value contents).toList.length < field.minimum) :
    (form.check contents).FindsShort field.name field.minimum field.complaint (field.value contents) := by
  have hbroken : ¬ field.holds contents = true := by
    rw [Field.holds_iff]
    omega
  apply Violations.findsShort_of_get?
  rw [check_eq_collect, Violations.get?_collect, ofField_found hnodup hfield, if_neg hbroken]
  rfl

theorem passes_check (hnodup : (form.fields.map (·.name)).Nodup) {field : Field α}
    (hfield : field ∈ form.fields) (hlong : field.minimum ≤ (field.value contents).toList.length) :
    (form.check contents).Passes field.name := by
  apply Violations.passes_of_get?
  rw [check_eq_collect, Violations.get?_collect, ofField_found hnodup hfield,
    if_pos (Field.holds_iff.mpr hlong)]
  rfl

theorem passes_check_of_notMem {name : String} (h : name ∉ form.fields.map (·.name)) (contents : α) :
    (form.check contents).Passes name := by
  apply Violations.passes_of_get?
  have hnone : Violations.ofField (form.found contents) name = [] := by
    apply List.eq_nil_iff_forall_not_mem.mpr
    intro violation hviolation
    obtain ⟨field, hfield, heq⟩ := List.mem_map.mp (Violations.mem_ofField.mp hviolation)
    obtain ⟨rfl, -⟩ := Prod.mk.inj heq
    exact h (List.mem_map_of_mem (List.mem_filter.mp hfield).1)
  rw [check_eq_collect, Violations.get?_collect, hnone]
  rfl

/-- Contents whose texts are nowhere shorter break no rule that was kept. -/
theorem isEmpty_check_mono {contents' : α}
    (hle : ∀ field ∈ form.fields, (field.value contents).length ≤ (field.value contents').length)
    (h : (form.check contents).isEmpty) : (form.check contents').isEmpty := by
  rw [isEmpty_check_iff] at h ⊢
  exact fun field hfield => Nat.le_trans (h field hfield) (hle field hfield)

/-! ### The response -/

theorem response_check (form : Form α) (contents : α) :
    (Failure.invalidFields (form.check contents)).response =
      rulesResponse (form.check contents).told.toList :=
  Failure.response_invalidFields _

/-- A request with contents that break rules is answered with what a client is told of the report. -/
theorem refuses_told {unpackers : Compression.Unpackers} {request : Http.Request}
    (h : form.Yields unpackers request contents)
    (hbreaks : ¬ form.Keeps contents) :
    form.Refuses unpackers request (rulesResponse (form.check contents).told.toList) := by
  have hreceive := receive_of_breaks h hbreaks
  refine ⟨_, _, hreceive, response_check form contents, fun next => ?_⟩
  rw [← response_check]
  exact submitted_of_refused hreceive rfl next

/-- Contents are refused, if they are in a request, with a response whose details are what a client is
told of the report. -/
structure AnswersWithReport (form : Form α) (contents : α) : Prop where
  response : (Failure.invalidFields (form.check contents)).response =
    rulesResponse (form.check contents).told.toList
  refuses : ∀ unpackers request, form.Yields unpackers request contents → ¬ (form.check contents).isEmpty = true →
    form.Refuses unpackers request (rulesResponse (form.check contents).told.toList)

theorem answersWithReport (form : Form α) (contents : α) : form.AnswersWithReport contents where
  response := response_check form contents
  refuses _ _ hyields hbroken :=
    refuses_told hyields fun hkeeps => hbroken ((form.isEmpty_check_iff contents).mpr hkeeps)

end Form

/-! ### The two forms -/

theorem length_lt_one_iff {text : String} : text.toList.length < 1 ↔ text = "" := by
  rw [Nat.lt_one_iff, List.length_eq_zero_iff, String.toList_eq_nil_iff]

theorem one_le_length_iff {text : String} : 1 ≤ text.toList.length ↔ text ≠ "" := by
  rw [← Nat.not_lt, length_lt_one_iff]

namespace ResetPassword

theorem nodup_names : (form.fields.map (·.name)).Nodup := by decide +kernel

theorem keeps_iff {contents : ResetPassword} :
    form.Keeps contents ↔ contents.token ≠ "" ∧ 8 ≤ contents.newPassword.toList.length := by
  rw [← one_le_length_iff, String.length_toList, String.length_toList]
  simp [Form.Keeps, form, minPasswordLength]

end ResetPassword

namespace RoleUpdate

theorem nodup_names : (form.fields.map (·.name)).Nodup := by decide +kernel

theorem keeps_iff {contents : RoleUpdate} : form.Keeps contents ↔ contents.name ≠ "" := by
  rw [← one_le_length_iff, String.length_toList]
  simp [Form.Keeps, form]

end RoleUpdate

/-- A password reset is found wrong in its token exactly if that is empty, and in its password exactly if
that has fewer than eight characters; a renaming in its name exactly if that is empty. Each of these is
one entry of the report, with the least length and the text, and one text for the client. More text
breaks no rule that was kept, and the response has the details of the report. -/
theorem lengths_checked :
    (∀ token newPassword : String,
      let report := ResetPassword.form.check ⟨token, newPassword⟩
      (token = "" → report.FindsShort "token" 1 "재설정 토큰이 필요합니다" token) ∧
      (token ≠ "" → report.Passes "token") ∧
      (newPassword.toList.length < 8 →
        report.FindsShort "new_password" 8 "비밀번호는 최소 8자 이상이어야 합니다" newPassword) ∧
      (8 ≤ newPassword.toList.length → report.Passes "new_password") ∧
      (∀ name, name ≠ "token" → name ≠ "new_password" → report.Passes name) ∧
      (report.isEmpty ↔ token ≠ "" ∧ 8 ≤ newPassword.toList.length) ∧
      (∀ behindToken behindPassword : String, report.isEmpty →
        (ResetPassword.form.check ⟨token ++ behindToken, newPassword ++ behindPassword⟩).isEmpty) ∧
      ResetPassword.form.AnswersWithReport ⟨token, newPassword⟩) ∧
    ∀ text : String,
      let report := RoleUpdate.form.check ⟨text⟩
      (text = "" → report.FindsShort "name" 1 "역할 이름이 필요합니다" text) ∧
      (text ≠ "" → report.Passes "name") ∧
      (∀ name, name ≠ "name" → report.Passes name) ∧
      (report.isEmpty ↔ text ≠ "") ∧
      (∀ behind : String, report.isEmpty → (RoleUpdate.form.check ⟨text ++ behind⟩).isEmpty) ∧
      RoleUpdate.form.AnswersWithReport ⟨text⟩ := by
  constructor
  · intro token newPassword report
    have hfirst : ResetPassword.form.fields[0] ∈ ResetPassword.form.fields := List.mem_cons_self
    have hsecond : ResetPassword.form.fields[1] ∈ ResetPassword.form.fields :=
      List.mem_cons_of_mem _ List.mem_cons_self
    have hnodup := ResetPassword.nodup_names
    have hempty : report.isEmpty ↔ token ≠ "" ∧ 8 ≤ newPassword.toList.length :=
      (ResetPassword.form.isEmpty_check_iff _).trans ResetPassword.keeps_iff
    refine ⟨fun htoken => ?_, fun htoken => ?_, fun hshort => ?_, fun hlong => ?_,
      fun name htoken hpassword => ?_, hempty, fun behindToken behindPassword => ?_,
      ResetPassword.form.answersWithReport _⟩
    · exact Form.findsShort_check hnodup hfirst (length_lt_one_iff.mpr htoken)
    · exact Form.passes_check hnodup hfirst (one_le_length_iff.mpr htoken)
    · exact Form.findsShort_check hnodup hsecond hshort
    · exact Form.passes_check hnodup hsecond hlong
    · apply Form.passes_check_of_notMem
      simp [ResetPassword.form, htoken, hpassword]
    · apply Form.isEmpty_check_mono
      simp [ResetPassword.form, String.length_append]
  · intro text report
    have hfirst : RoleUpdate.form.fields[0] ∈ RoleUpdate.form.fields := List.mem_cons_self
    have hnodup := RoleUpdate.nodup_names
    have hempty : report.isEmpty ↔ text ≠ "" :=
      (RoleUpdate.form.isEmpty_check_iff _).trans RoleUpdate.keeps_iff
    refine ⟨fun htext => ?_, fun htext => ?_, fun name hname => ?_, hempty, fun behind => ?_,
      RoleUpdate.form.answersWithReport _⟩
    · exact Form.findsShort_check hnodup hfirst (length_lt_one_iff.mpr htext)
    · exact Form.passes_check hnodup hfirst (one_le_length_iff.mpr htext)
    · apply Form.passes_check_of_notMem
      simp [RoleUpdate.form, hname]
    · apply Form.isEmpty_check_mono
      simp [RoleUpdate.form, String.length_append]

/-- Seven characters of four octets each are too few, and eight marks that combine are enough. -/
example : (ResetPassword.form.check ⟨"t", String.ofList (List.replicate 7 '🔑')⟩).isEmpty = false ∧
    (ResetPassword.form.check ⟨"t", String.ofList (List.replicate 8 '\u0301')⟩).isEmpty = true := by
  decide +kernel

end RequestScope
