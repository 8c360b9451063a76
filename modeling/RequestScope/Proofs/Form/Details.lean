import RequestScope.Failure
import RequestScope.Proofs.Dictionary
import RequestScope.Proofs.Form.Reports

/-!
# What clients are told of a report

The details in the response to a report are its fields with the rules found broken there, in the order
in which they were found. `Violations.located` lists everything that a report holds, at any depth, with
the path that leads to it. What has a path of one name is told; a report on a structure inside makes no
difference to the details, whatever it holds.
-/

namespace RequestScope

namespace SortedMap

variable {κ : Type w} [LT κ] {α : Type u} {β : Type v}

/-- The map of the images of those values that have one. -/
def filterMap (f : α → Option β) (m : SortedMap κ α) : SortedMap κ β where
  toList := m.toList.filterMap fun e => (f e.2).map (e.1, ·)
  sorted := by
    refine List.pairwise_filterMap.mpr (m.sorted.imp fun hlt e he e' he' => ?_)
    obtain ⟨_, -, rfl⟩ := Option.map_eq_some_iff.mp he
    obtain ⟨_, -, rfl⟩ := Option.map_eq_some_iff.mp he'
    exact hlt

theorem get?_filterMap [DecidableEq κ] [StrictTotal κ] (f : α → Option β) (m : SortedMap κ α) (k : κ) :
    (m.filterMap f).get? k = (m.get? k).bind f := by
  refine Option.ext fun b => ?_
  rw [← mem_toList_iff, filterMap, List.mem_filterMap, Option.bind_eq_some_iff]
  constructor
  · rintro ⟨⟨k', a⟩, hmem, himage⟩
    obtain ⟨b', hb, heq⟩ := Option.map_eq_some_iff.mp himage
    cases heq
    exact ⟨a, mem_toList_iff.mp hmem, hb⟩
  · rintro ⟨a, hget, hb⟩
    exact ⟨(k, a), mem_toList_iff.mpr hget, by simp [hb]⟩

end SortedMap

/-! ### All that a report holds -/

mutual

/-- The broken rules in the report on a field, each with the path that leads on from the field. -/
def FieldReport.located : FieldReport → List (List String × Violation)
  | .plain violations => violations.map fun violation => ([], violation)
  | .nested fields => FieldReport.locatedIn fields
  | .listed items => FieldReport.locatedAt items

/-- The broken rules of a structure. -/
def FieldReport.locatedIn : List (String × FieldReport) → List (List String × Violation)
  | [] => []
  | (field, report) :: fields =>
    report.located.map (fun found => (field :: found.1, found.2)) ++ FieldReport.locatedIn fields

/-- The broken rules of structures in a row. -/
def FieldReport.locatedAt : List (Nat × List (String × FieldReport)) → List (List String × Violation)
  | [] => []
  | (place, fields) :: items =>
    (FieldReport.locatedIn fields).map (fun found => (("[" ++ toString place ++ "]") :: found.1, found.2)) ++
      FieldReport.locatedAt items

end

namespace FieldReport

theorem mem_locatedIn {fields : List (String × FieldReport)} {path : List String} {violation : Violation} :
    (path, violation) ∈ locatedIn fields ↔ ∃ field report rest, (field, report) ∈ fields ∧
      path = field :: rest ∧ (rest, violation) ∈ report.located := by
  induction fields with
  | nil => simp [locatedIn]
  | cons head fields ih =>
    obtain ⟨field, report⟩ := head
    rw [locatedIn, List.mem_append, ih, List.mem_map]
    constructor
    · rintro (⟨⟨rest, _⟩, hmem, heq⟩ | ⟨field', report', rest, hfield, hpath, hmem⟩)
      · cases heq
        exact ⟨field, report, rest, List.mem_cons_self, rfl, hmem⟩
      · exact ⟨field', report', rest, List.mem_cons_of_mem _ hfield, hpath, hmem⟩
    · rintro ⟨field', report', rest, hfield, rfl, hmem⟩
      rcases List.mem_cons.mp hfield with heq | hfield
      · cases heq
        exact .inl ⟨(rest, violation), hmem, rfl⟩
      · exact .inr ⟨field', report', rest, hfield, rfl, hmem⟩

theorem path_ne_nil_of_mem_locatedAt {items : List (Nat × List (String × FieldReport))}
    {path : List String} {violation : Violation} (h : (path, violation) ∈ locatedAt items) : path ≠ [] := by
  induction items with
  | nil => simp [locatedAt] at h
  | cons head items ih =>
    rw [locatedAt, List.mem_append, List.mem_map] at h
    rcases h with ⟨_, -, heq⟩ | h
    · cases heq
      simp
    · exact ih h

/-- What is found in a field itself is a broken rule of the field. -/
theorem mem_located_nil {report : FieldReport} {violation : Violation} :
    ([], violation) ∈ report.located ↔ ∃ violations, report = .plain violations ∧ violation ∈ violations := by
  cases report with
  | plain violations => simp [located]
  | nested fields => simp [located, mem_locatedIn]
  | listed items =>
    constructor
    · intro h
      rw [located] at h
      exact absurd rfl (path_ne_nil_of_mem_locatedAt h)
    · rintro ⟨_, heq, -⟩
      cases heq

/-- What a client is told of a field. -/
def told? : FieldReport → Option Json
  | .plain violations => some (.array (violations.map fun v => .string v.brief))
  | _ => none

theorem told?_eq_some_iff {report : FieldReport} {value : Json} :
    report.told? = some value ↔ ∃ violations, report = .plain violations ∧
      value = .array (violations.map fun v => .string v.brief) := by
  cases report with
  | plain violations => simp [told?, eq_comm]
  | nested fields => simp [told?]
  | listed items => simp [told?]

end FieldReport

namespace Violations

/-- The broken rules of a report, each with its path from the outermost field on. -/
def located (report : Violations) : List (List String × Violation) := FieldReport.locatedIn report.toList

/-- What a client is told, by field. -/
def told (report : Violations) : Dictionary Json := SortedMap.filterMap FieldReport.told? report

/-- A text stands under a field in what a client is told. -/
def Tells (report : Violations) (field text : String) : Prop :=
  ∃ texts, report.told.get? field = some (.array texts) ∧ .string text ∈ texts

theorem details_eq (report : Violations) : report.details = .ofDictionary report.told := by
  rw [details, Json.ofDictionary, told, SortedMap.filterMap]
  refine congrArg Json.object (List.filterMap_congr fun entry _ => ?_)
  cases entry.2 with
  | plain violations => rfl
  | nested fields => rfl
  | listed items => rfl

theorem get?_told (report : Violations) (field : String) :
    report.told.get? field = (report.get? field).bind FieldReport.told? :=
  SortedMap.get?_filterMap ..

theorem mem_located {report : Violations} {path : List String} {violation : Violation} :
    (path, violation) ∈ report.located ↔ ∃ field found rest, report.get? field = some found ∧
      path = field :: rest ∧ (rest, violation) ∈ found.located := by
  simp only [located, FieldReport.mem_locatedIn, SortedMap.mem_toList_iff]

theorem tells_iff {report : Violations} {field text : String} :
    report.Tells field text ↔ ∃ violations, report.get? field = some (.plain violations) ∧
      ∃ violation ∈ violations, violation.brief = text := by
  simp only [Tells, get?_told, Option.bind_eq_some_iff, FieldReport.told?_eq_some_iff]
  constructor
  · rintro ⟨texts, ⟨_, hget, violations, rfl, htexts⟩, hmem⟩
    cases htexts
    obtain ⟨violation, hviolation, htext⟩ := List.mem_map.mp hmem
    exact ⟨violations, hget, violation, hviolation, Json.string.inj htext⟩
  · rintro ⟨violations, hget, violation, hviolation, rfl⟩
    exact ⟨_, ⟨_, hget, violations, rfl, rfl⟩, List.mem_map_of_mem hviolation⟩

theorem tells_of_located {report : Violations} {field : String} {violation : Violation}
    (h : ([field], violation) ∈ report.located) : report.Tells field violation.brief := by
  obtain ⟨field', found, rest, hget, hpath, hfound⟩ := mem_located.mp h
  cases hpath
  obtain ⟨violations, rfl, hviolation⟩ := FieldReport.mem_located_nil.mp hfound
  exact tells_iff.mpr ⟨violations, hget, violation, hviolation, rfl⟩

theorem Tells.told_ne_empty {report : Violations} {field text : String} (h : report.Tells field text) :
    report.told ≠ .empty := by
  intro hempty
  obtain ⟨texts, hget, -⟩ := h
  rw [hempty, SortedMap.get?_empty] at hget
  cases hget

theorem told_eq_empty_iff {report : Violations} :
    report.told = .empty ↔ ∀ field violations, report.get? field ≠ some (.plain violations) := by
  simp only [SortedMap.eq_empty_iff, get?_told]
  constructor
  · intro h field violations hget
    have hnone := h field
    rw [hget] at hnone
    cases hnone
  · intro h field
    cases hget : report.get? field with
    | none => rfl
    | some found =>
      cases found with
      | plain violations => exact absurd hget (h field violations)
      | nested fields => rfl
      | listed items => rfl

/-- What is found inside a field is found in the report, and the client is told as if the field had not
been looked at. -/
theorem told_insert_inside (report : Violations) (field : String) {inside : FieldReport}
    (h : inside.told? = none) :
    told (report.insert field inside) = told (report.erase field) := by
  refine SortedMap.ext_get? fun other => ?_
  rw [get?_told, get?_told, SortedMap.get?_insert, SortedMap.get?_erase]
  split
  · exact h
  · rfl

theorem located_insert (report : Violations) (field : String) {inside : FieldReport} {path : List String}
    {violation : Violation} (h : (path, violation) ∈ inside.located) :
    (field :: path, violation) ∈ located (report.insert field inside) := by
  refine mem_located.mpr ⟨field, inside, path, ?_, rfl, h⟩
  rw [SortedMap.get?_insert, if_pos rfl]

end Violations

/-- The response to a report. -/
theorem Failure.response_invalidFields (report : Violations) :
    (Failure.invalidFields report).response = .json .badRequest
      (.ofMembers [("error", .string "validation_error"), ("message", .string invalidFieldsText),
        ("details", .ofDictionary report.told)]) := by
  rw [response, body, Violations.details_eq]
  rfl

namespace Violations

/-! ### What is told and what is not -/

theorem complete_iff {report : Violations} :
    (∀ path violation, (path, violation) ∈ report.located → ∃ field, report.Tells field violation.brief) ↔
      ∀ path violation, (path, violation) ∈ report.located → 2 ≤ path.length →
        ∃ field namesake, ([field], namesake) ∈ report.located ∧ namesake.brief = violation.brief := by
  constructor
  · intro h path violation hlocated _
    obtain ⟨field, htells⟩ := h path violation hlocated
    obtain ⟨violations, hget, namesake, hmem, hbrief⟩ := tells_iff.mp htells
    have hfound := FieldReport.mem_located_nil.mpr ⟨violations, rfl, hmem⟩
    exact ⟨field, namesake, mem_located.mpr ⟨field, _, [], hget, rfl, hfound⟩, hbrief⟩
  · intro h path violation hlocated
    obtain ⟨field, found, rest, -, rfl, -⟩ := mem_located.mp hlocated
    cases rest with
    | nil => exact ⟨field, tells_of_located hlocated⟩
    | cons _ _ =>
      obtain ⟨field', namesake, hnamesake, hbrief⟩ := h _ violation hlocated (by simp)
      exact ⟨field', hbrief ▸ tells_of_located hnamesake⟩

/-- The response to a report tells the broken rules of its own fields, and those only: a report on what
a field holds inside, at any depth, leaves the response as it is without the field. So nothing is lost
exactly if every rule that is broken inside has a namesake outside, and an empty answer means an empty
report as long as nothing is broken inside. -/
theorem own_rules_told (report : Violations) :
    (Failure.invalidFields report).response = .json .badRequest
      (.ofMembers [("error", .string "validation_error"), ("message", .string Failure.invalidFieldsText),
        ("details", .ofDictionary report.told)]) ∧
    (∀ field text, report.Tells field text ↔ ∃ violations, report.get? field = some (.plain violations) ∧
      ∃ violation ∈ violations, violation.brief = text) ∧
    (∀ field violation, ([field], violation) ∈ report.located → report.Tells field violation.brief) ∧
    (report.told = .empty ↔ ∀ field violations, report.get? field ≠ some (.plain violations)) ∧
    (∀ field inside, inside.told? = none →
      told (report.insert field inside) = told (report.erase field) ∧
      ∀ path violation, (path, violation) ∈ inside.located →
        (field :: path, violation) ∈ located (report.insert field inside)) ∧
    ((∀ path violation, (path, violation) ∈ report.located → ∃ field, report.Tells field violation.brief) ↔
      ∀ path violation, (path, violation) ∈ report.located → 2 ≤ path.length →
        ∃ field namesake, ([field], namesake) ∈ report.located ∧ namesake.brief = violation.brief) ∧
    ((∀ path violation, (path, violation) ∈ report.located → path.length = 1) → report.told = .empty →
      report.located = []) := by
  refine ⟨Failure.response_invalidFields report, fun _ _ => tells_iff, fun _ _ => tells_of_located,
    told_eq_empty_iff, fun field inside hinside => ?_, complete_iff, fun hflat hempty => ?_⟩
  · exact ⟨told_insert_inside report field hinside, fun _ _ => located_insert report field⟩
  · refine List.eq_nil_iff_forall_not_mem.mpr fun ⟨path, violation⟩ hlocated => ?_
    obtain ⟨field, rfl⟩ := List.length_eq_one_iff.mp (hflat path violation hlocated)
    exact (tells_of_located hlocated).told_ne_empty hempty

/-- One rule is broken, in a structure under a field, and the client is told of none. -/
theorem nested_rule_untold :
    let rule : Violation := ⟨"length", none, .empty⟩
    let report := nest .empty "address" (add .empty "city" rule)
    report.located = [(["address", "city"], rule)] ∧ (∀ field text, ¬ report.Tells field text) ∧
      (Failure.invalidFields report).response = .json .badRequest
        (.ofMembers [("error", .string "validation_error"), ("message", .string Failure.invalidFieldsText),
          ("details", .object [])]) := by
  intro rule report
  have htold : report.told = .empty := rfl
  refine ⟨rfl, fun field text htells => htells.told_ne_empty htold, ?_⟩
  rw [Failure.response_invalidFields, htold]
  rfl

/-! ### Rules added one after the other -/

/-- What is told of the rules that were added for a field. -/
def textsOf (found : List (String × Violation)) (field : String) : List String :=
  (ofField found field).map Violation.brief

theorem textsOf_eq_nil_iff {found : List (String × Violation)} {field : String} :
    textsOf found field = [] ↔ ∀ violation, (field, violation) ∉ found := by
  rw [textsOf, List.map_eq_nil_iff, List.eq_nil_iff_forall_not_mem]
  simp only [mem_ofField]

theorem get?_told_collect (found : List (String × Violation)) (field : String) :
    (collect found).told.get? field =
      if textsOf found field = [] then none else some (.array ((textsOf found field).map .string)) := by
  rw [get?_told, get?_collect, textsOf]
  cases ofField found field with
  | nil => rfl
  | cons violation violations => simp [FieldReport.ofBroken, FieldReport.told?]

end Violations

end RequestScope
