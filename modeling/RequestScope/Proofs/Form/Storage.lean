import RequestScope.Proofs.Form.Serialization
import RequestScope.Proofs.Typed.RoundTrip

/-!
# Forms as stored values

A form is a type of stored values: a record of the texts of its fields, under the names that these have
in submitted texts. Its values are the contents of the form, and both are written alike.
-/

namespace RequestScope.Form

variable {α : Type}

/-- The texts of fields as the fields of a record. -/
def textFields : List (Field α) → Fields
  | [] => .nil
  | field :: rest => .required field.member .text (textFields rest)

/-- The texts of fields, one after the other. -/
def textsOf (contents : α) : (fields : List (Field α)) → (textFields fields).Carrier
  | [] => ()
  | field :: rest => (field.value contents, textsOf contents rest)

/-- Texts that stand one after the other as a list. -/
def listOf : (fields : List (Field α)) → (textFields fields).Carrier → List String
  | [], _ => []
  | _ :: rest, (text, texts) => text :: listOf rest texts

/-- The type of a form's contents. -/
def schema (form : Form α) : Schema := .record form.name false (textFields form.fields)

/-- The contents of a form as a value of their type. -/
def stored (form : Form α) (contents : α) : form.schema.Carrier := textsOf contents form.fields

/-- The contents of a form that a value of their type stands for. -/
def ofStored (form : Form α) (v : form.schema.Carrier) : α := form.ofValues (listOf form.fields v)

theorem names_textFields (fields : List (Field α)) : (textFields fields).names = fields.map (·.member) := by
  induction fields with
  | nil => rfl
  | cons field fields ih => exact congrArg (field.member :: ·) ih

theorem lossless_textFields (fields : List (Field α)) : (textFields fields).Lossless := by
  induction fields with
  | nil => exact trivial
  | cons field fields ih => exact ⟨trivial, ih⟩

theorem listOf_textsOf (contents : α) (fields : List (Field α)) :
    listOf fields (textsOf contents fields) = fields.map (·.value contents) := by
  induction fields with
  | nil => rfl
  | cons field fields ih => exact congrArg (field.value contents :: ·) ih

theorem entriesToJson_textsOf (contents : α) (fields : List (Field α)) :
    Datum.entriesToJson ((textFields fields).toEntries (textsOf contents fields)) =
      .ok (fields.map fun field => (field.member, .string (field.value contents))) := by
  induction fields with
  | nil => rfl
  | cons field fields ih =>
    change Datum.entriesToJson ((.text field.member, .text (field.value contents)) ::
      (textFields fields).toEntries (textsOf contents fields)) = _
    simp [Datum.entriesToJson, Datum.Key.render, Datum.toJson, ih, bind, Except.bind, pure, Except.pure]

/-- The contents of a form and the value that they are stored as have one JSON value. -/
theorem toJson_stored (form : Form α) (contents : α) :
    form.schema.toJson (form.stored contents) = .ok (form.toJson contents) := by
  change (Datum.entriesToJson ((textFields form.fields).toEntries (textsOf contents form.fields))).map
    Json.ofMembers = _
  rw [entriesToJson_textsOf]
  rfl

variable {form : Form α} (h : form.WellFormed)

include h

theorem WellFormed.lossless : form.schema.Lossless := by
  refine ⟨lossless_textFields form.fields, ?_⟩
  rw [names_textFields]
  exact h.nodup

theorem WellFormed.ofStored_stored (contents : α) : form.ofStored (form.stored contents) = contents := by
  rw [ofStored, stored, listOf_textsOf]
  exact h.ofValues_values contents

end RequestScope.Form
