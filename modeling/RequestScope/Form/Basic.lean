import RequestScope.Json.Record
import RequestScope.Violation

/-!
# Forms

A form is what a client submits as JSON: a record of texts, with a least length for each of them. A
field has two names, one in submitted texts and one in reports. `Form.check` reports every text that
is too short.
-/

namespace RequestScope

/-- A field of a form of type `α`. Its length counts characters. -/
structure Form.Field (α : Type) where
  name : String
  member : String
  value : α → String
  minimum : Nat
  complaint : String

/-- A form with contents of type `α`, which are built from the text under the name of each field in
submitted texts. -/
structure Form (α : Type) where
  name : String
  fields : List (Form.Field α)
  build : (String → String) → α

namespace Form

variable {α : Type}

/-- The rule on a text that is too short. -/
def Field.violation (field : Field α) (contents : α) : Violation :=
  ⟨"length", some field.complaint,
    .ofList [("min", .ofInt field.minimum), ("value", .string (field.value contents))]⟩

def Field.holds (field : Field α) (contents : α) : Bool :=
  field.minimum ≤ (field.value contents).length

def check (form : Form α) (contents : α) : Violations :=
  form.fields.foldl (fun report field =>
    if field.holds contents then report
    else report.add field.name (field.violation contents)) .empty

def shape (form : Form α) : Json.RecordShape := ⟨form.name, form.fields.map (·.member)⟩

/-- The contents with the given values of the fields in order. -/
def ofValues (form : Form α) (values : List String) : α :=
  form.build fun member => ((form.shape.fields.zip values).lookup member).getD ""

def toJson (form : Form α) (contents : α) : Json :=
  .ofMembers (form.fields.map fun field => (field.member, .string (field.value contents)))

end Form

end RequestScope
