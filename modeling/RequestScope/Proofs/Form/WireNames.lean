import RequestScope.Proofs.Form.Lengths
import RequestScope.Proofs.Json.Names

/-!
# Under which names clients are told

A field has one name in submitted texts and one in reports, and details come from reports. The two
names of a role's name and of a token are the same; a password is sent as `newPassword` and is told as
`new_password`, so a client that breaks the rule on passwords is told of a member that it did not send.
-/

namespace RequestScope

open Compression (Unpackers)

/-- The body of a request, unpacked, begins like an object. -/
def Http.Request.OpensObject (unpackers : Unpackers) (request : Http.Request) : Prop :=
  ∃ octets, Form.unpack unpackers request.headers request.body = .ok octets ∧
    (Json.Cursor.start octets).skipSpace.peek? = some 0x7b

/-- The body of a request, unpacked, is an object whose members have the given names. -/
def Http.Request.SubmitsObject (unpackers : Unpackers) (request : Http.Request) (names : List String) :
    Prop :=
  ∃ octets, Form.unpack unpackers request.headers request.body = .ok octets ∧ Json.objectNames octets = .ok names

namespace Form

variable {α : Type}

/-- The fields whose rule is broken. -/
def broken (form : Form α) (contents : α) : List (Field α) :=
  form.fields.filter fun field => !field.holds contents

/-- What clients are told has the names under which they sent the texts that break rules. -/
def TellsWireNames (form : Form α) (contents : α) : Prop :=
  ∀ key, key ∈ (form.check contents).told.keys ↔ ∃ field ∈ form.broken contents, field.member = key

/-- What becomes of a request with an object whose members have the given names, and with contents that
break rules. Each field is a member, and each broken rule is told under the name in reports. -/
structure ToldByReport (form : Form α) (unpackers : Unpackers) (request : Http.Request) (contents : α)
    (names : List String) : Prop where
  submits : request.SubmitsObject unpackers names
  sent : ∀ field ∈ form.fields, field.member ∈ names
  refuses : form.Refuses unpackers request (rulesResponse (form.check contents).told.toList)
  mem_keys_iff : ∀ key, key ∈ (form.check contents).told.keys ↔
    ∃ field ∈ form.broken contents, field.name = key

variable {form : Form α} {contents : α}

theorem mem_broken {field : Field α} :
    field ∈ form.broken contents ↔
      field ∈ form.fields ∧ (field.value contents).toList.length < field.minimum := by
  rw [broken, List.mem_filter, Bool.not_eq_true', ← Bool.not_eq_true, Field.holds_iff, Nat.not_le]

theorem mem_keys_told_iff (form : Form α) (contents : α) (key : String) :
    key ∈ (form.check contents).told.keys ↔ ∃ field ∈ form.broken contents, field.name = key := by
  have hkey : key ∈ (form.check contents).told.keys ↔
      ∃ violation, (key, violation) ∈ form.found contents := by
    rw [check_eq_collect, SortedMap.mem_keys_iff, Violations.get?_told_collect]
    split
    · rename_i hnone
      simp [Violations.textsOf_eq_nil_iff.mp hnone]
    · rename_i hsome
      rw [Violations.textsOf_eq_nil_iff] at hsome
      simpa using hsome
  rw [hkey, found, ← broken]
  constructor
  · rintro ⟨violation, hfound⟩
    obtain ⟨field, hfield, heq⟩ := List.mem_map.mp hfound
    cases heq
    exact ⟨field, hfield, rfl⟩
  · rintro ⟨field, hfield, rfl⟩
    exact ⟨_, List.mem_map_of_mem hfield⟩

theorem parse_of_decode {unpackers : Unpackers} {headers : Http.Headers} {body : List UInt8}
    (h : form.decode unpackers headers body = .ok contents) :
    ∃ octets values, unpack unpackers headers body = .ok octets ∧ form.shape.parse octets = .ok values := by
  -- The announced type and the stated length only decide whether the body is unpacked at all.
  have hread : (unpack unpackers headers body >>= fun octets =>
      (form.shape.parse octets).mapError BodyFault.json >>= fun values => .ok (form.ofValues values)) =
      .ok contents := by
    rw [decode] at h
    cases hannounced : headers.announceJson with
    | false =>
      rw [hannounced] at h
      cases h
    | true =>
      rw [hannounced] at h
      cases hstated : headers.statedLength? with
      | none =>
        rw [hstated] at h
        exact h
      | some length =>
        rw [hstated] at h
        by_cases hlong : maxBodyLength < length
        · simp only [hlong, if_true] at h
          cases h
        · simp only [hlong, if_false] at h
          exact h
  obtain ⟨octets, hunpack, hrest⟩ := bind_eq_ok_iff.mp hread
  obtain ⟨values, hparse, -⟩ := bind_eq_ok_iff.mp hrest
  exact ⟨octets, values, hunpack, mapError_eq_ok_iff.mp hparse⟩

theorem toldByReport {unpackers : Unpackers} {request : Http.Request} (h : form.Yields unpackers request contents)
    (hopens : request.OpensObject unpackers) (hbreaks : ¬ form.Keeps contents) :
    ∃ names, form.ToldByReport unpackers request contents names := by
  obtain ⟨octets, values, hunpack, hparse⟩ := parse_of_decode h.2
  obtain ⟨octets', hunpack', hobject⟩ := hopens
  obtain rfl := Except.ok.inj (hunpack.symm.trans hunpack')
  obtain ⟨names, hnames, hfields⟩ := Json.RecordShape.objectNames_of_parse hparse hobject
  exact ⟨names,
    { submits := ⟨octets, hunpack, hnames⟩
      sent := fun field hfield => hfields _ (List.mem_map_of_mem hfield)
      refuses := refuses_told h hbreaks
      mem_keys_iff := mem_keys_told_iff form contents }⟩

/-- Broken rules are told under the names that were sent if no broken field has two names. -/
theorem tellsWireNames_of_eq (h : ∀ field ∈ form.broken contents, field.name = field.member) :
    form.TellsWireNames contents := by
  intro key
  rw [mem_keys_told_iff]
  constructor
  · rintro ⟨field, hfield, rfl⟩
    exact ⟨field, hfield, (h field hfield).symm⟩
  · rintro ⟨field, hfield, rfl⟩
    exact ⟨field, hfield, h field hfield⟩

end Form

/-! ### The two forms -/

namespace RoleUpdate

theorem tellsWireNames (contents : RoleUpdate) : form.TellsWireNames contents := by
  apply Form.tellsWireNames_of_eq
  intro field hfield
  obtain rfl := List.mem_singleton.mp (Form.mem_broken.mp hfield).1
  rfl

end RoleUpdate

namespace ResetPassword

theorem broken_of_long {contents : ResetPassword} (h : 8 ≤ contents.newPassword.toList.length)
    {field : Form.Field ResetPassword} (hfield : field ∈ form.broken contents) :
    field = form.fields[0] := by
  obtain ⟨hfield, hshort⟩ := Form.mem_broken.mp hfield
  obtain rfl | hfield := List.mem_cons.mp hfield
  · rfl
  · obtain rfl := List.mem_singleton.mp hfield
    exact absurd hshort (Nat.not_lt.mpr h)

theorem mem_keys_of_short {contents : ResetPassword} (h : contents.newPassword.toList.length < 8) :
    "new_password" ∈ (form.check contents).told.keys :=
  (Form.mem_keys_told_iff ..).mpr
    ⟨_, Form.mem_broken.mpr ⟨List.mem_cons_of_mem _ List.mem_cons_self, h⟩, rfl⟩

theorem tellsWireNames_iff {contents : ResetPassword} :
    form.TellsWireNames contents ↔ 8 ≤ contents.newPassword.toList.length := by
  constructor
  · intro htells
    by_contra hshort
    obtain ⟨field, hfield, hmember⟩ := (htells _).mp (mem_keys_of_short (Nat.not_le.mp hshort))
    -- No text is sent as `new_password`, so the key that is told is the member of no field.
    have hmembers : ∀ field ∈ form.fields, field.member ≠ "new_password" := by decide +kernel
    exact hmembers field (Form.mem_broken.mp hfield).1 hmember
  · intro hlong
    apply Form.tellsWireNames_of_eq
    intro field hfield
    rw [broken_of_long hlong hfield]
    rfl

/-- Every key of the details is a member of what was sent, unless a password is too short. -/
theorem keys_sent_iff {contents : ResetPassword} {unpackers : Unpackers} {request : Http.Request}
    {names : List String}
    (h : form.ToldByReport unpackers request contents names) :
    (∀ key ∈ (form.check contents).told.keys, key ∈ names) ↔
      8 ≤ contents.newPassword.toList.length ∨ "new_password" ∈ names := by
  constructor
  · intro hkeys
    by_cases hlong : 8 ≤ contents.newPassword.toList.length
    · exact .inl hlong
    · exact .inr (hkeys _ (mem_keys_of_short (Nat.not_le.mp hlong)))
  · intro hor key hkey
    obtain ⟨field, hfield, rfl⟩ := (h.mem_keys_iff key).mp hkey
    have hsent := h.sent field (Form.mem_broken.mp hfield).1
    obtain hlong | hname := hor
    · rw [broken_of_long hlong hfield] at hsent ⊢
      exact hsent
    · obtain ⟨hfield, -⟩ := Form.mem_broken.mp hfield
      obtain rfl | hfield := List.mem_cons.mp hfield
      · exact hsent
      · obtain rfl := List.mem_singleton.mp hfield
        exact hname

end ResetPassword

/-- A request with an object that breaks the rule of a role's name is answered with details under the names
that were sent. So is one that resets a password, exactly if the password is long enough: a short one is
told as `new_password`, which is a member of the object only if the client sent one by that name besides. -/
theorem details_named_by_reports (unpackers : Unpackers) (request : Http.Request) :
    (∀ contents, RoleUpdate.form.Yields unpackers request contents → request.OpensObject unpackers →
      ¬ RoleUpdate.form.Keeps contents →
      ∃ names, RoleUpdate.form.ToldByReport unpackers request contents names ∧
        RoleUpdate.form.TellsWireNames contents ∧
        ∀ key ∈ (RoleUpdate.form.check contents).told.keys, key ∈ names) ∧
    ∀ contents, ResetPassword.form.Yields unpackers request contents → request.OpensObject unpackers →
      ¬ ResetPassword.form.Keeps contents →
      ∃ names, ResetPassword.form.ToldByReport unpackers request contents names ∧
        (ResetPassword.form.TellsWireNames contents ↔ 8 ≤ contents.newPassword.toList.length) ∧
        ((∀ key ∈ (ResetPassword.form.check contents).told.keys, key ∈ names) ↔
          8 ≤ contents.newPassword.toList.length ∨ "new_password" ∈ names) := by
  constructor
  · intro contents hyields hopens hbreaks
    obtain ⟨names, htold⟩ := Form.toldByReport hyields hopens hbreaks
    refine ⟨names, htold, RoleUpdate.tellsWireNames contents, fun key hkey => ?_⟩
    obtain ⟨field, hfield, rfl⟩ := (RoleUpdate.tellsWireNames contents key).mp hkey
    exact htold.sent field (Form.mem_broken.mp hfield).1
  · intro contents hyields hopens hbreaks
    obtain ⟨names, htold⟩ := Form.toldByReport hyields hopens hbreaks
    exact ⟨names, htold, ResetPassword.tellsWireNames_iff, ResetPassword.keys_sent_iff htold⟩

/-- A short password that is sent as `newPassword` is told as `new_password`, which was not sent. -/
theorem ResetPassword.short_password_renamed :
    let contents : ResetPassword := ⟨"t", "abc"⟩
    let request : Http.Request :=
      ⟨"POST", ⟨"/t/password/reset", none⟩, [(Http.contentType, Http.applicationJson)],
        Text.Utf8.encode "\x7b\"token\":\"t\",\"newPassword\":\"abc\"\x7d"⟩
    form.Yields .stored request contents ∧ request.SubmitsObject .stored ["newPassword", "token"] ∧
      ¬ form.Keeps contents ∧ (form.broken contents).map (·.member) = ["newPassword"] ∧
      form.Refuses .stored request (Form.rulesResponse
        [("new_password", .array [.string "비밀번호는 최소 8자 이상이어야 합니다"])]) ∧
      ¬ form.TellsWireNames contents := by
  intro contents request
  have hspells : form.Spells contents request.body :=
    ⟨form.fields, .refl _, by decide +kernel⟩
  have hyields : form.Yields .stored request contents :=
    wellFormed_form.yields_of_spells hspells (Http.Request.bringsJson_of_length_le (by decide +kernel))
  have hbreaks : ¬ form.Keeps contents := by
    rw [Form.keeps_iff_holds]
    decide +kernel
  have hnames : Json.objectNames request.body = .ok ["newPassword", "token"] :=
    eq_ok_of_toOption (by decide +kernel)
  have htold : (form.check contents).told.toList =
      [("new_password", .array [.string "비밀번호는 최소 8자 이상이어야 합니다"])] := by
    have htoken : form.fields[0].holds contents = true := by decide +kernel
    have hpassword : form.fields[1].holds contents = false := by decide +kernel
    have hfound : form.found contents = [("new_password", form.fields[1].violation contents)] := by
      change ([form.fields[0], form.fields[1]].filter fun field => !field.holds contents).map _ = _
      rw [List.filter_cons_of_neg (by simp [htoken]), List.filter_cons_of_pos (by simp [hpassword])]
      rfl
    rw [Form.check_eq_collect, hfound]
    rfl
  refine ⟨hyields, ⟨request.body, rfl, hnames⟩, hbreaks, by decide +kernel, ?_, fun htells => ?_⟩
  · rw [← htold]
    exact Form.refuses_told hyields hbreaks
  · have hlong := tellsWireNames_iff.mp htells
    revert hlong
    decide +kernel

end RequestScope
