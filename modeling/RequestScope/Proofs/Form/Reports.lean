import Mathlib.Data.List.Basic
import RequestScope.Form.Basic

/-!
# Reports on forms

A check collects the broken rules of a form under the names of their fields. What the log and the
client are told of them are their messages; a parameter shows only where a rule has no message, and
the rules of forms have one each.
-/

namespace RequestScope

namespace SortedMap

variable {κ : Type w} [LT κ] [DecidableEq κ] {α : Type u} {β : Type v}

theorem get?_map (f : α → β) (m : SortedMap κ α) (k : κ) : (m.map f).get? k = (m.get? k).map f := by
  obtain ⟨entries, hsorted⟩ := m
  change lookup k (entries.map fun e => (e.1, f e.2)) = (lookup k entries).map f
  clear hsorted
  induction entries with
  | nil => rfl
  | cons head rest ih =>
    rw [List.map_cons, lookup, lookup, ih]
    split <;> rfl

theorem isEmpty_iff [StrictTotal κ] {m : SortedMap κ α} : m.isEmpty ↔ ∀ k, m.get? k = none := by
  rw [isEmpty, List.isEmpty_iff]
  constructor
  · intro h k
    rw [get?, h]
    rfl
  · intro h
    refine List.eq_nil_iff_forall_not_mem.mpr fun entry hentry => ?_
    have := mem_toList_iff.mp hentry
    rw [h entry.1] at this
    cases this

end SortedMap

/-! ### Collecting broken rules -/

/-- The report on a field that breaks the given rules. -/
def FieldReport.ofBroken : List Violation → Option FieldReport
  | [] => none
  | violation :: violations => some (.plain (violation :: violations))

theorem FieldReport.ofBroken_of_mem {violation : Violation} {violations : List Violation}
    (h : violation ∈ violations) : ofBroken violations = some (.plain violations) := by
  cases violations with
  | nil => cases h
  | cons _ _ => rfl

namespace Violations

open FieldReport (ofBroken)

/-- The report that lists broken rules under the names of their fields. -/
def collect (found : List (String × Violation)) : Violations :=
  found.foldl (fun report entry => report.add entry.1 entry.2) .empty

/-- The broken rules of one field. -/
def ofField (found : List (String × Violation)) (field : String) : List Violation :=
  (found.filter fun entry => entry.1 = field).map (·.2)

theorem get?_add {report : Violations} {field : String} {known : List Violation} (violation : Violation)
    (h : report.get? field = ofBroken known) (name : String) :
    (report.add field violation).get? name =
      if field = name then ofBroken (known ++ [violation]) else report.get? name := by
  rw [add, h, FieldReport.ofBroken_of_mem List.mem_concat_self]
  cases known with
  | nil => exact SortedMap.get?_insert ..
  | cons _ _ => exact SortedMap.get?_insert ..

/-- Broken rules are listed behind those that are known already. -/
theorem get?_foldl_add (found : List (String × Violation)) {report : Violations}
    (known : String → List Violation) (h : ∀ name, report.get? name = ofBroken (known name))
    (name : String) :
    (found.foldl (fun report entry => report.add entry.1 entry.2) report).get? name =
      ofBroken (known name ++ ofField found name) := by
  induction found generalizing report known with
  | nil => rw [ofField, List.filter_nil, List.map_nil, List.append_nil, List.foldl_nil, h]
  | cons entry found ih =>
    have hadd (other : String) : (report.add entry.1 entry.2).get? other =
        ofBroken (if entry.1 = other then known other ++ [entry.2] else known other) := by
      rw [get?_add entry.2 (h entry.1) other]
      split
      · rename_i heq
        rw [heq]
      · exact h other
    rw [List.foldl_cons, ih _ hadd, ofField, ofField, List.filter_cons]
    by_cases heq : entry.1 = name
    · simp [heq]
    · simp [heq]

theorem get?_collect (found : List (String × Violation)) (name : String) :
    (collect found).get? name = ofBroken (ofField found name) :=
  get?_foldl_add found (fun _ => []) (fun _ => rfl) name

theorem mem_ofField {found : List (String × Violation)} {field : String} {violation : Violation} :
    violation ∈ ofField found field ↔ (field, violation) ∈ found := by
  simp [ofField]

/-- Every entry of a collected report lists rules that were found for its field, and at least one. -/
theorem mem_collect {found : List (String × Violation)} {entry : String × FieldReport}
    (h : entry ∈ (collect found).toList) :
    ∃ violations, violations ≠ [] ∧ entry.2 = .plain violations ∧
      ∀ violation ∈ violations, (entry.1, violation) ∈ found := by
  have hget := (get?_collect found entry.1).symm.trans (SortedMap.mem_toList_iff.mp h)
  cases hfield : ofField found entry.1 with
  | nil =>
    rw [hfield] at hget
    cases hget
  | cons violation violations =>
    rw [hfield] at hget
    refine ⟨violation :: violations, List.cons_ne_nil _ _, (Option.some.inj hget).symm, fun v hv => ?_⟩
    rw [← hfield] at hv
    exact mem_ofField.mp hv

theorem isEmpty_collect {found : List (String × Violation)} : (collect found).isEmpty ↔ found = [] := by
  rw [SortedMap.isEmpty_iff]
  constructor
  · intro h
    refine List.eq_nil_iff_forall_not_mem.mpr fun entry hentry => ?_
    have hmem : entry.2 ∈ ofField found entry.1 := mem_ofField.mpr hentry
    have hget := (get?_collect found entry.1).symm.trans (h entry.1)
    cases hfield : ofField found entry.1 with
    | nil =>
      rw [hfield] at hmem
      cases hmem
    | cons _ _ =>
      rw [hfield] at hget
      cases hget
  · rintro rfl name
    rfl

theorem details_collect {found : List (String × Violation)} (h : found ≠ []) :
    ∃ details, details ≠ [] ∧ (collect found).details = .object details := by
  refine ⟨_, fun hnil => ?_, rfl⟩
  have hempty : (collect found).isEmpty := by
    rw [SortedMap.isEmpty, List.isEmpty_iff]
    refine List.eq_nil_iff_forall_not_mem.mpr fun entry hentry => ?_
    obtain ⟨violations, -, hplain, -⟩ := mem_collect hentry
    have hnone := List.filterMap_eq_nil_iff.mp hnil entry hentry
    rw [hplain] at hnone
    cases hnone
  exact h (isEmpty_collect.mp hempty)

end Violations

/-! ### Parameters do not show -/

/-- A broken rule without its parameters. -/
def Violation.bare (violation : Violation) : Violation := { violation with params := .empty }

theorem Violation.describe_bare {violation : Violation} (h : violation.message.isSome) :
    violation.bare.describe = violation.describe := by
  obtain ⟨message, hmessage⟩ := Option.isSome_iff_exists.mp h
  have hbare : violation.bare.message = some message := hmessage
  rw [describe, describe, hbare, hmessage]

/-- A field's report without the parameters of its own rules. -/
def FieldReport.bare : FieldReport → FieldReport
  | .plain violations => .plain (violations.map Violation.bare)
  | .nested fields => .nested fields
  | .listed items => .listed items

theorem FieldReport.ofBroken_map_bare (violations : List Violation) :
    ofBroken (violations.map Violation.bare) = (ofBroken violations).map FieldReport.bare := by
  cases violations with
  | nil => rfl
  | cons _ _ => rfl

namespace Violations

theorem details_map_bare (report : Violations) :
    Violations.details (report.map FieldReport.bare) = report.details := by
  rw [details, details, SortedMap.map, List.filterMap_map]
  refine congrArg Json.object (List.filterMap_congr fun entry _ => ?_)
  rw [Function.comp_apply]
  cases entry.2 with
  | plain violations => simp [FieldReport.bare, Violation.bare, Violation.brief, Function.comp_def]
  | nested fields => rfl
  | listed items => rfl

theorem collect_map_bare (found : List (String × Violation)) :
    collect (found.map fun entry => (entry.1, entry.2.bare)) = (collect found).map FieldReport.bare := by
  refine SortedMap.ext_get? fun name => ?_
  have hfield : ofField (found.map fun entry => (entry.1, entry.2.bare)) name =
      (ofField found name).map Violation.bare := by
    simp [ofField, List.filter_map, Function.comp_def]
  rw [get?_collect, SortedMap.get?_map, get?_collect, hfield, FieldReport.ofBroken_map_bare]

/-- If every rule that was found has a message, the text of the report shows no parameter. -/
theorem describe_map_bare {found : List (String × Violation)}
    (h : ∀ entry ∈ found, entry.2.message.isSome) :
    Violations.describe ((collect found).map FieldReport.bare) = (collect found).describe := by
  rw [describe, describe, SortedMap.map, List.map_map]
  refine congrArg "\n".intercalate (List.map_congr_left fun entry hentry => ?_)
  obtain ⟨violations, -, hplain, hfound⟩ := mem_collect hentry
  have hbare : (violations.map Violation.bare).map Violation.describe = violations.map Violation.describe := by
    rw [List.map_map]
    exact List.map_congr_left fun violation hviolation =>
      Violation.describe_bare (h _ (hfound violation hviolation))
  rw [Function.comp_apply, hplain, FieldReport.bare, FieldReport.describe, FieldReport.describe, hbare]

end Violations

/-- A report holds a text as the offending value of a field. -/
def Violations.HoldsText (report : Violations) (field text : String) : Prop :=
  ∃ violations violation, report.get? field = some (.plain violations) ∧ violation ∈ violations ∧
    violation.params.get? "value" = some (.string text)

/-! ### The check of a form -/

namespace Form

variable {α : Type} (form : Form α) (contents : α)

/-- The broken rules of a form with the names of their fields. -/
def found : List (String × Violation) :=
  (form.fields.filter fun field => !field.holds contents).map fun field =>
    (field.name, field.violation contents)

/-- Every text is as long as it has to be. -/
def Keeps : Prop := ∀ field ∈ form.fields, field.minimum ≤ (field.value contents).length

theorem check_eq_collect : form.check contents = .collect (form.found contents) := by
  rw [check, Violations.collect, found, List.foldl_map, List.foldl_filter]
  refine congrArg (fun step => List.foldl step _ form.fields) ?_
  funext report field
  cases field.holds contents <;> rfl

theorem message_found : ∀ entry ∈ form.found contents, entry.2.message.isSome := by
  intro entry hentry
  obtain ⟨field, -, rfl⟩ := List.mem_map.mp hentry
  rfl

theorem found_eq_nil_iff : form.found contents = [] ↔ form.Keeps contents := by
  simp [found, Keeps, Field.holds]

theorem keeps_iff_holds : form.Keeps contents ↔ ∀ field ∈ form.fields, field.holds contents := by
  simp [Keeps, Field.holds]

theorem isEmpty_check_iff : (form.check contents).isEmpty ↔ form.Keeps contents := by
  rw [check_eq_collect, Violations.isEmpty_collect, found_eq_nil_iff]

variable {form contents}

theorem details_check (h : ¬ form.Keeps contents) :
    ∃ details, details ≠ [] ∧ (form.check contents).details = .object details := by
  rw [check_eq_collect]
  exact Violations.details_collect fun hnil => h ((found_eq_nil_iff form contents).mp hnil)

/-- A report holds the text that breaks a rule among the parameters of that rule. -/
theorem holdsText_check {field : Field α} (hfield : field ∈ form.fields)
    (h : field.holds contents = false) :
    (form.check contents).HoldsText field.name (field.value contents) := by
  have hfound : (field.name, field.violation contents) ∈ form.found contents := by
    refine List.mem_map.mpr ⟨field, List.mem_filter.mpr ⟨hfield, ?_⟩, rfl⟩
    rw [h]
    rfl
  have hmem : field.violation contents ∈ Violations.ofField (form.found contents) field.name :=
    Violations.mem_ofField.mpr hfound
  refine ⟨_, field.violation contents, ?_, hmem, ?_⟩
  · rw [check_eq_collect, Violations.get?_collect]
    exact FieldReport.ofBroken_of_mem hmem
  · simp [Field.violation, SortedMap.ofList, SortedMap.get?_insert]

end Form

end RequestScope
