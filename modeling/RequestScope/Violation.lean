import RequestScope.Json.Value
import RequestScope.Text.Quoted

/-!
# Broken rules

A check of a submitted value reports the rules that it breaks, field by field; a field that holds a
structure, or structures in a row, has a report of its own for each of them. The text of a report has
one part for each field, and the fields of a nested report are named by their path.
-/

namespace RequestScope

structure Violation where
  code : String
  message : Option String
  params : Dictionary Json
deriving Inhabited

/-- What a check found in a field: broken rules, the report on the structure that it holds, or the
reports on the structures that it holds in a row, by their places in the row. -/
inductive FieldReport
  | plain (violations : List Violation)
  | nested (fields : List (String × FieldReport))
  | listed (items : List (Nat × List (String × FieldReport)))

instance : Inhabited FieldReport := ⟨.plain []⟩

abbrev Violations := Dictionary FieldReport

namespace Violations

/-- Adds a broken rule of a field behind those already known. A field either has rules of its own or holds
structures with reports. To add a rule where there is a report of the other kind is a mistake of the check
itself, which panics at it and has no result; the report stays as it is here. -/
def add (report : Violations) (field : String) (violation : Violation) : Violations :=
  match report.get? field with
  | some (.plain known) => report.insert field (.plain (known ++ [violation]))
  | some _ => report
  | none => report.insert field (.plain [violation])

/-- Sets the report on the structure that a field holds, in place of whatever was known of the field. A check
that means to add a second report to a field panics as well. -/
def nest (report : Violations) (field : String) (inner : Violations) : Violations :=
  report.insert field (.nested inner.toList)

end Violations

/-! ### Texts -/

def Json.Number.describe : Json.Number → String
  | .int n => toString n
  | .double x => x.render

mutual

/-- A parameter of a rule as reports show it. -/
def Json.describe : Json → String
  | .null => "Null"
  | .bool true => "Bool(true)"
  | .bool false => "Bool(false)"
  | .number n => "Number(" ++ n.describe ++ ")"
  | .string s => "String(" ++ Text.quote s ++ ")"
  | .array items => "Array [" ++ Json.describeItems items ++ "]"
  | .object members => "Object \x7b" ++ Json.describeMembers members ++ "\x7d"

def Json.describeItems : List Json → String
  | [] => ""
  | [item] => item.describe
  | item :: items => item.describe ++ ", " ++ Json.describeItems items

def Json.describeMembers : List (String × Json) → String
  | [] => ""
  | [(name, value)] => Text.quote name ++ ": " ++ value.describe
  | (name, value) :: members =>
    Text.quote name ++ ": " ++ value.describe ++ ", " ++ Json.describeMembers members

end

/-- The message of a broken rule, or its code and parameters. -/
def Violation.describe (v : Violation) : String :=
  match v.message with
  | some message => message
  | none =>
    "Validation error: " ++ v.code ++ " [\x7b" ++ Json.describeMembers v.params.toList ++ "\x7d]"

mutual

def FieldReport.describe (path : String) : FieldReport → String
  | .plain violations => path ++ ": " ++ ", ".intercalate (violations.map Violation.describe)
  | .nested fields => FieldReport.describeNested (path ++ ".") fields
  | .listed items => FieldReport.describeListed path items

def FieldReport.describeNested (path : String) : List (String × FieldReport) → String
  | [] => ""
  | (field, report) :: fields =>
    FieldReport.describe (path ++ field) report ++ FieldReport.describeNested path fields

def FieldReport.describeListed (path : String) : List (Nat × List (String × FieldReport)) → String
  | [] => ""
  | (place, fields) :: items =>
    FieldReport.describeNested (path ++ "[" ++ toString place ++ "].") fields ++
      FieldReport.describeListed path items

end

/-- The text of a report: one line for each field. -/
def Violations.describe (report : Violations) : String :=
  "\n".intercalate (report.toList.map fun entry => entry.2.describe entry.1)

/-- What a client is told about a broken rule. -/
def Violation.brief (v : Violation) : String := v.message.getD v.code

/-- What a client is told, by field. Fields that hold structures are left out. -/
def Violations.details (report : Violations) : Json :=
  .object (report.toList.filterMap fun entry =>
    match entry.2 with
    | .plain violations => some (entry.1, .array (violations.map fun v => .string v.brief))
    | _ => none)

mutual

def FieldReport.toJson : FieldReport → Json
  | .plain violations => .array (violations.map fun v =>
      .ofMembers [("code", .string v.code), ("message", v.message.elim .null .string),
        ("params", .ofDictionary v.params)])
  | .nested fields => .object (FieldReport.nestedToJson fields)
  | .listed items => .ofMembers (FieldReport.listedToJson items)

def FieldReport.nestedToJson : List (String × FieldReport) → List (String × Json)
  | [] => []
  | (field, report) :: fields => (field, report.toJson) :: FieldReport.nestedToJson fields

def FieldReport.listedToJson : List (Nat × List (String × FieldReport)) → List (String × Json)
  | [] => []
  | (place, fields) :: items =>
    (toString place, .object (FieldReport.nestedToJson fields)) :: FieldReport.listedToJson items

end

def Violations.toJson (report : Violations) : Json :=
  .object (FieldReport.nestedToJson report.toList)

end RequestScope
