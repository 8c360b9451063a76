import RequestScope.Form.ResetPassword
import RequestScope.Form.RoleUpdate
import RequestScope.Proofs.Form.Reception
import RequestScope.Proofs.Json.Records

/-!
# Serialized forms

The JSON text of a form's contents, with the members in any order, is decoded to these contents when a
request brings it within the limits.
-/

namespace RequestScope

open Compression (Unpackers)

/-- A request brings octets as JSON, perhaps compressed, within the limits on lengths. -/
structure Http.Request.BringsJson (unpackers : Unpackers) (request : Http.Request) (octets : List UInt8) :
    Prop where
  announced : request.headers.announceJson
  unsigned : ¬ request.headers.stateSignedLength
  stated_le : ∀ length, request.headers.statedLength? = some length → length ≤ maxBodyLength
  length_le : octets.length ≤ maxBodyLength
  decoded : (Http.ContentEncoding.ofHeaders request.headers).decode unpackers request.body =
    .ok ⟨octets, none⟩

theorem Http.Request.bringsJson_of_length_le {unpackers : Unpackers} {method : String}
    {target : Http.Target} {body : List UInt8} (h : body.length ≤ maxBodyLength) :
    BringsJson unpackers ⟨method, target, [(Http.contentType, Http.applicationJson)], body⟩ body where
  announced := by
    change Http.Headers.announceJson [(Http.contentType, Http.applicationJson)] = true
    decide +kernel
  unsigned := by
    change ¬ Http.Headers.stateSignedLength [(Http.contentType, Http.applicationJson)] = true
    decide +kernel
  stated_le length hstated := by cases hstated
  length_le := h
  decoded := rfl

namespace Form

variable {α : Type}

/-- The fields of a form have names of their own in submitted texts, and its contents are made of the
values of the fields. -/
structure WellFormed (form : Form α) : Prop where
  nodup : (form.fields.map (·.member)).Nodup
  build_eq : ∀ contents text, (∀ field ∈ form.fields, text field.member = field.value contents) →
    form.build text = contents

/-- The octets of a JSON object that holds the contents of a form, with the members in some order. -/
def Spells (form : Form α) (contents : α) (octets : List UInt8) : Prop :=
  ∃ order : List (Field α), order.Perm form.fields ∧
    octets = Text.Utf8.encode
      (Json.render (.object (order.map fun field => (field.member, .string (field.value contents)))))

/-- The value of the field with the given name in submitted texts. -/
def valueOf (form : Form α) (contents : α) (member : String) : String :=
  ((form.fields.map fun field => (field.member, field.value contents)).lookup member).getD ""

theorem lookup_map_of_nodup {ι β : Type} {fields : List ι} {key : ι → String} {value : ι → β}
    (hnodup : (fields.map key).Nodup) {field : ι} (hfield : field ∈ fields) :
    (fields.map fun field => (key field, value field)).lookup (key field) = some (value field) := by
  induction fields with
  | nil => cases hfield
  | cons head rest ih =>
    obtain ⟨hhead, hrest⟩ := List.nodup_cons.mp hnodup
    rw [List.map_cons, List.lookup_cons]
    obtain rfl | hfield := List.mem_cons.mp hfield
    · simp
    · have hne : key field ≠ key head := fun heq => hhead (heq ▸ List.mem_map_of_mem hfield)
      rw [beq_false_of_ne hne]
      exact ih hrest hfield

namespace WellFormed

variable {form : Form α} (h : form.WellFormed)

include h

theorem valueOf_member (contents : α) {field : Field α} (hfield : field ∈ form.fields) :
    form.valueOf contents field.member = field.value contents := by
  rw [valueOf, lookup_map_of_nodup h.nodup hfield, Option.getD_some]

theorem ofValues_values (contents : α) :
    form.ofValues (form.fields.map (·.value contents)) = contents := by
  refine h.build_eq contents _ fun field hfield => ?_
  rw [shape, List.zip_map', ← h.valueOf_member contents hfield]
  rfl

theorem parse_of_spells {contents : α} {octets : List UInt8} (hspells : form.Spells contents octets) :
    form.shape.parse octets = .ok (form.fields.map (·.value contents)) := by
  obtain ⟨order, hperm, rfl⟩ := hspells
  have hmembers : order.map (fun field => (field.member, Json.string (field.value contents))) =
      Json.textMembers (form.valueOf contents) (order.map (·.member)) := by
    rw [Json.textMembers, List.map_map]
    refine List.map_congr_left fun field hfield => ?_
    rw [Function.comp_apply, h.valueOf_member contents (hperm.mem_iff.mp hfield)]
  have hvalues : form.shape.fields.map (form.valueOf contents) = form.fields.map (·.value contents) := by
    rw [shape, List.map_map]
    exact List.map_congr_left fun field hfield => h.valueOf_member contents hfield
  rw [hmembers, ← hvalues]
  exact Json.RecordShape.parse_render _ (hperm.map _) h.nodup

/-- The serialized contents of a form are decoded to these contents. -/
theorem decode_of_spells {contents : α} {octets : List UInt8} {unpackers : Unpackers} {request : Http.Request}
    (hspells : form.Spells contents octets) (hbrings : request.BringsJson unpackers octets) :
    form.decode unpackers request.headers request.body = .ok contents := by
  have hunpack : unpack unpackers request.headers request.body = .ok octets := by
    rw [unpack, hbrings.decoded]
    exact if_neg (Nat.not_lt.mpr hbrings.length_le)
  have hparse := h.parse_of_spells hspells
  rw [decode, hbrings.announced, hunpack]
  cases hstated : request.headers.statedLength? with
  | none =>
    simp [bind, Except.bind, pure, Except.pure, hparse, Except.mapError, h.ofValues_values]
  | some length =>
    have hlength := Nat.not_lt.mpr (hbrings.stated_le length hstated)
    simp [bind, Except.bind, pure, Except.pure, hparse, Except.mapError, h.ofValues_values, hlength]

theorem yields_of_spells {contents : α} {octets : List UInt8} {unpackers : Unpackers} {request : Http.Request}
    (hspells : form.Spells contents octets) (hbrings : request.BringsJson unpackers octets) :
    form.Yields unpackers request contents :=
  ⟨fun hupset => hbrings.unsigned (Bool.and_eq_true_iff.mp hupset).2, h.decode_of_spells hspells hbrings⟩

end WellFormed

end Form

/-! ### The two forms -/

namespace ResetPassword

theorem wellFormed_form : form.WellFormed where
  nodup := by decide +kernel
  build_eq := by
    intro contents text htext
    have htoken : text "token" = contents.token := htext _ List.mem_cons_self
    have hpassword : text "newPassword" = contents.newPassword :=
      htext _ (List.mem_cons_of_mem _ List.mem_cons_self)
    calc form.build text = ⟨text "token", text "newPassword"⟩ := rfl
      _ = contents := by rw [htoken, hpassword]

theorem toJson_eq (contents : ResetPassword) :
    form.toJson contents =
      .object [("newPassword", .string contents.newPassword), ("token", .string contents.token)] := by
  have hlt : "newPassword" < "token" := by decide +kernel
  simp [Form.toJson, form, Json.ofMembers, Json.ofDictionary, SortedMap.ofList, SortedMap.insert,
    SortedMap.insertEntry, SortedMap.empty, hlt]

/-- The serialization of a password reset holds its contents. -/
theorem spells_toJson (contents : ResetPassword) :
    form.Spells contents (Text.Utf8.encode (form.toJson contents).render) := by
  refine ⟨form.fields.reverse, form.fields.reverse_perm, ?_⟩
  rw [toJson_eq]
  rfl

end ResetPassword

namespace RoleUpdate

theorem wellFormed_form : form.WellFormed where
  nodup := by decide +kernel
  build_eq := by
    intro contents text htext
    have hname : text "name" = contents.name := htext _ List.mem_cons_self
    calc form.build text = ⟨text "name"⟩ := rfl
      _ = contents := by rw [hname]

/-- The serialization of a renaming holds its contents. -/
theorem spells_toJson (contents : RoleUpdate) :
    form.Spells contents (Text.Utf8.encode (form.toJson contents).render) :=
  ⟨form.fields, .refl _, rfl⟩

end RoleUpdate

end RequestScope
