import RequestScope.Proofs.Context.Aliasing
import RequestScope.Proofs.Form.Storage

/-!
# Values that are kept

What is stored behind a handle stays there until its key is written through some handle to the same
cell. So a value of a type without loss is read through all of them, and an integer is read at every
kind that has it and refused at every other.
-/

namespace RequestScope

/-- An operation writes a key behind a handle: it removes the key, or stores there what has a JSON value,
and goes through a name of this very handle. -/
def Operation.Writes (s : Store) (h : Handle) (key : String) : Operation → Prop
  | .insert name key' value => s.names.get? name = some h ∧ key' = key ∧ ∃ json, value.toJson = .ok json
  | .insertContext name key' source =>
    s.names.get? name = some h ∧ key' = key ∧ s.names.contains source = true
  | .remove name key' => s.names.get? name = some h ∧ key' = key
  | _ => False

/-- The answer to a reading: the value, or a failure that names the key. -/
def Reply.ofReading (key : String) {schema : Schema} : Except Misread schema.Carrier → Reply
  | .ok v => .typed schema (some v)
  | .error misread => .failed (.inContext (Entries.reading key) misread.message)

namespace Store

/-- None of the operations writes the key behind the handle when its turn comes. -/
def Spares (s : Store) (h : Handle) (key : String) : List Operation → Prop
  | [] => True
  | operation :: rest => ¬ operation.Writes s h key ∧ (s.after operation).Spares h key rest

/-- The value of a key behind a handle. -/
def found? (s : Store) (h : Handle) (key : String) : Option Json := (s.heap.read h).get? key

/-- From now on a reading of the key at a type has one answer, through whatever name the handle has and
until the key is written. -/
def Reads (s : Store) (h : Handle) (key : String) (schema : Schema) (reply : Reply) : Prop :=
  ∀ later, s.Spares h key later → ∀ other, (s.run later).1.names.get? other = some h →
    (s.run later).1.answer (.getAs other key schema) = reply

/-- A value of a type can be stored under a key through a name of a handle, and is read from then on. -/
def Keeps (s : Store) (h : Handle) (name key : String) (schema : Schema) (v : schema.Carrier) : Prop :=
  (∃ previous, s.answer (.insert name key (schema.toDatum v)) = .value previous) ∧
    (s.after (.insert name key (schema.toDatum v))).Reads h key schema (.typed schema (some v))

/-- The contents of a form can be stored under a key, where they have the JSON value of the form, and what
is read from then on stands for the same contents. -/
def KeepsForm (s : Store) (h : Handle) (name key : String) {α : Type} (form : Form α) : Prop :=
  ∀ contents, form.schema.toJson (form.stored contents) = .ok (form.toJson contents) ∧
    s.Keeps h name key form.schema (form.stored contents) ∧
    form.ofStored (form.stored contents) = contents

/-! ### What one operation leaves alone -/

section

variable {s : Store} {h : Handle} {key : String}

theorem found?_write {h' : Handle} {entries : Entries} :
    (s.write h' entries).found? h key = if h' = h then entries.get? key else s.found? h key := by
  rw [found?, write, Heap.read_write]
  split <;> rfl

theorem found?_write_of_same {h' : Handle} {entries : Entries}
    (hsame : h' = h → entries.get? key = (s.heap.read h').get? key) :
    (s.write h' entries).found? h key = s.found? h key := by
  rw [found?_write]
  split
  · rename_i heq
    rw [hsame heq, heq, found?]
  · rfl

theorem found?_create (hmade : h.serial < s.made) (name : String) (entries : Entries) :
    (s.create name entries).found? h key = s.found? h key := by
  -- The new cell has the number of cells made so far, which no handle has that is about already.
  have hne : (⟨0, s.made⟩ : Handle) ≠ h := by
    rintro rfl
    exact Nat.lt_irrefl _ hmade
  rw [found?, create, Heap.read_write, if_neg hne, found?]

theorem insert_of_error {value : Datum} {fault : Datum.Fault} (hvalue : value.toJson = .error fault)
    (h : Handle) (key : String) :
    s.insert h key value = (s, .failed (.inContext (Entries.writing key) fault.message)) := by
  rw [insert, Entries.prepare, hvalue]
  rfl

theorem insert_of_ok {value : Datum} {json : Json} (hvalue : value.toJson = .ok json) (h : Handle)
    (key : String) :
    s.insert h key value = (s.write h ((s.heap.read h).insert key json), .value (s.found? h key)) := by
  rw [insert, Entries.prepare, hvalue]
  rfl

theorem found?_insert {h' : Handle} {key' : String} {value : Datum}
    (hspared : ¬ (h' = h ∧ key' = key ∧ ∃ json, value.toJson = .ok json)) :
    (s.insert h' key' value).1.found? h key = s.found? h key := by
  cases hvalue : value.toJson with
  | error fault => rw [insert_of_error hvalue]
  | ok json =>
    rw [insert_of_ok hvalue]
    refine found?_write_of_same fun heq => ?_
    have hkey : key' ≠ key := fun hkey => hspared ⟨heq, hkey, json, hvalue⟩
    rw [SortedMap.get?_insert, if_neg hkey]

theorem found?_erase {h' : Handle} {key' : String} (hspared : ¬ (h' = h ∧ key' = key)) :
    (s.write h' ((s.heap.read h').erase key')).found? h key = s.found? h key := by
  refine found?_write_of_same fun heq => ?_
  have hkey : key' ≠ key := fun hkey => hspared ⟨heq, hkey⟩
  rw [SortedMap.get?_erase, if_neg hkey]

/-- Work on a named handle leaves alone what it leaves alone at every handle that the name may have. -/
theorem found?_withHandle {name : String} {work : Handle → Store × Reply}
    (hwork : ∀ h', s.names.get? name = some h' → (work h').1.found? h key = s.found? h key) :
    (s.withHandle name work).1.found? h key = s.found? h key := by
  rw [withHandle]
  split
  · rfl
  · rename_i h' hget
    exact hwork h' hget

theorem found?_after (hmade : h.serial < s.made) {operation : Operation}
    (hspared : ¬ operation.Writes s h key) : (s.after operation).found? h key = s.found? h key := by
  cases operation with
  | create name entries => exact found?_create hmade name entries
  | fork source target => exact found?_withHandle fun h' _ => found?_create hmade target _
  | insert name key' value =>
    refine found?_withHandle fun h' hget => found?_insert ?_
    rintro ⟨rfl, hkey, hvalue⟩
    exact hspared ⟨hget, hkey, hvalue⟩
  | insertContext name key' source =>
    refine found?_withHandle fun h' hget => found?_withHandle fun _ hsource => found?_insert ?_
    rintro ⟨rfl, hkey, -⟩
    exact hspared ⟨hget, hkey, Option.isSome_of_eq_some hsource⟩
  | remove name key' =>
    refine found?_withHandle fun h' hget => found?_erase ?_
    rintro ⟨rfl, hkey⟩
    exact hspared ⟨hget, hkey⟩
  | shares name other => exact found?_withHandle fun _ _ => found?_withHandle fun _ _ => rfl
  | _ => exact found?_withHandle fun _ _ => rfl

theorem made_withHandle {name : String} {work : Handle → Store × Reply}
    (hwork : ∀ h', s.made ≤ (work h').1.made) : s.made ≤ (s.withHandle name work).1.made := by
  rw [withHandle]
  split
  · exact Nat.le_refl _
  · exact hwork _

theorem made_le_after (s : Store) (operation : Operation) : s.made ≤ (s.after operation).made := by
  cases operation with
  | create name entries => exact Nat.le_succ _
  | fork source target => exact made_withHandle fun _ => Nat.le_succ _
  | insert name key value => exact made_withHandle fun h' => Nat.le_of_eq (s.insert_names h' key value).2.symm
  | insertContext name key source =>
    exact made_withHandle fun h' => made_withHandle fun _ => Nat.le_of_eq (s.insert_names h' key _).2.symm
  | shares name other => exact made_withHandle fun _ => made_withHandle fun _ => Nat.le_refl _
  | _ => exact made_withHandle fun _ => Nat.le_refl _

/-- What is stored under a key stays until the key is written. -/
theorem found?_run (hmade : h.serial < s.made) {later : List Operation} (hlater : s.Spares h key later) :
    (s.run later).1.found? h key = s.found? h key := by
  induction later generalizing s with
  | nil => rfl
  | cons operation rest ih =>
    obtain ⟨hspared, hrest⟩ := hlater
    have hmade' := Nat.lt_of_lt_of_le hmade (made_le_after s operation)
    exact (ih hmade' hrest).trans (found?_after hmade hspared)

/-! ### What is read -/

theorem answer_getAs {other : String} (hother : s.names.get? other = some h) {json : Json}
    (hfound : s.found? h key = some json) (schema : Schema) :
    s.answer (.getAs other key schema) = .ofReading key (schema.decode json) := by
  rw [found?] at hfound
  rw [answer, apply, ask, withHandle_some hother, Entries.read, hfound]
  dsimp only
  cases schema.decode json <;> rfl

/-- What is found under a key decides what is read there. -/
theorem reads_of_found? (hmade : h.serial < s.made) {json : Json} (hfound : s.found? h key = some json)
    (schema : Schema) : s.Reads h key schema (.ofReading key (schema.decode json)) := by
  intro later hlater other hother
  exact answer_getAs hother ((found?_run hmade hlater).trans hfound) schema

/-! ### What is stored -/

variable {name : String} (hname : s.names.get? name = some h)

include hname

theorem after_insert {value : Datum} {json : Json} (hvalue : value.toJson = .ok json) (key : String) :
    s.after (.insert name key value) = s.write h ((s.heap.read h).insert key json) := by
  rw [after, apply, withHandle_some hname, insert_of_ok hvalue]

theorem answer_insert {value : Datum} {json : Json} (hvalue : value.toJson = .ok json) (key : String) :
    s.answer (.insert name key value) = .value (s.found? h key) := by
  rw [answer, apply, withHandle_some hname, insert_of_ok hvalue]

theorem found?_after_insert {value : Datum} {json : Json} (hvalue : value.toJson = .ok json) (key : String) :
    (s.after (.insert name key value)).found? h key = some json := by
  rw [after_insert hname hvalue, found?_write, if_pos rfl, SortedMap.get?_insert, if_pos rfl]

theorem reads_after_insert (hmade : h.serial < s.made) {value : Datum} {json : Json}
    (hvalue : value.toJson = .ok json) (key : String) (schema : Schema) :
    (s.after (.insert name key value)).Reads h key schema (.ofReading key (schema.decode json)) := by
  have hmade' := Nat.lt_of_lt_of_le hmade (made_le_after s (.insert name key value))
  exact reads_of_found? hmade' (found?_after_insert hname hvalue key) schema

/-- A value of a type without loss is stored, and read from then on. -/
theorem keeps_of_lossless (hmade : h.serial < s.made) {schema : Schema} (hschema : schema.Lossless)
    (v : schema.Carrier) (key : String) : s.Keeps h name key schema v := by
  obtain ⟨json, hkeeps⟩ := schema.exists_keeps hschema v
  refine ⟨⟨_, answer_insert hname hkeeps.written key⟩, ?_⟩
  have hreads := reads_after_insert hname hmade hkeeps.written key schema
  rw [hkeeps.read] at hreads
  exact hreads

theorem keepsForm_of_wellFormed (hmade : h.serial < s.made) {α : Type} {form : Form α} (hform : form.WellFormed)
    (key : String) : s.KeepsForm h name key form := fun contents =>
  ⟨form.toJson_stored contents, keeps_of_lossless hname hmade hform.lossless _ key,
    hform.ofStored_stored contents⟩

end

theorem serial_lt_of_reachable {operations : List Operation} {name : String} {h : Handle}
    (hname : (run {} operations).1.names.get? name = some h) : h.serial < (run {} operations).1.made := by
  obtain ⟨cell, hl⟩ := run_describes describes_empty operations
  rw [hl.names, Option.map_eq_some_iff] at hname
  obtain ⟨i, hcurrent, rfl⟩ := hname
  exact hl.serial_lt i (hl.current_lt name i hcurrent)

/-- Whatever has been done to the contexts, a value of a type without loss can be stored under every key,
and until that key is written it is read through every handle to the same cell: all types of integers of
up to 64 bits are among these types, and so are the forms. An integer is read as the same number at every
kind that has it, and refused with the name of the key at every other. -/
theorem values_survive (operations : List Operation) {name : String} {h : Handle}
    (hname : (run {} operations).1.names.get? name = some h) (key : String) :
    let s := (run {} operations).1
    (∀ schema : Schema, schema.Lossless → ∀ v, s.Keeps h name key schema v) ∧
    (∀ bits ≤ 64, (IntegerKind.signed bits).Exact ∧ (IntegerKind.unsigned bits).Exact) ∧
    (∀ kind : IntegerKind, kind.Exact → ∀ (i : Integer kind) (wanted : IntegerKind),
      let held := s.after (.insert name key ((Schema.integer kind).toDatum i))
      (∀ hrange : wanted.least ≤ i.val ∧ i.val ≤ wanted.greatest,
        held.Reads h key (.integer wanted) (.typed (.integer wanted) (some ⟨i.val, hrange⟩))) ∧
      (¬ (wanted.least ≤ i.val ∧ i.val ≤ wanted.greatest) →
        held.Reads h key (.integer wanted) (.failed (.internal (Entries.reading key ++ ": " ++
          (Json.Mismatch.wrongValue (.integer i.val) wanted.name).message))))) ∧
    s.KeepsForm h name key ResetPassword.form ∧ s.KeepsForm h name key RoleUpdate.form := by
  intro s
  have hmade := serial_lt_of_reachable hname
  refine ⟨fun schema hschema v => keeps_of_lossless hname hmade hschema v key, fun bits hbits => ?_,
    fun kind hkind i wanted => ?_, keepsForm_of_wellFormed hname hmade ResetPassword.wellFormed_form key,
    keepsForm_of_wellFormed hname hmade RoleUpdate.wellFormed_form key⟩
  · exact ⟨IntegerKind.exact_signed hbits, IntegerKind.exact_unsigned hbits⟩
  · have hreads := reads_after_insert hname hmade (i.toJson_eq hkind) key (.integer wanted)
    constructor
    · intro hrange
      have hread : (Schema.integer wanted).decode (.ofInt i.val) = .ok ⟨i.val, hrange⟩ :=
        Typed.decodeInteger_of_inRange hrange
      rw [hread] at hreads
      exact hreads
    · intro hrange
      have hread : (Schema.integer wanted).decode (.ofInt i.val) = .error _ :=
        Typed.decodeInteger_of_not_inRange hrange
      rw [hread] at hreads
      exact hreads

/-- A map with keys of 64 bits is stored through a handle that is dropped, and read through a clone of its
clone, and a number below zero is no number without a sign. -/
theorem values_survive_renamed :
    let s := (run {} [.create "a" .empty, .clone "a" "b"]).1
    let schema : Schema := .numbered (.signed 64) (.option .text)
    let least : Integer (.signed 64) := ⟨-0x8000000000000000, by decide⟩
    let v : schema.Carrier := .ofList [(least, some "least"), (⟨7, by decide⟩, none)]
    let later : List Operation :=
      [.drop "a", .insert "b" "other" (.int 1), .clone "b" "c", .insert "c" "limits" (.failing "refused")]
    ((s.after (.insert "a" "limits" (schema.toDatum v))).run later).1.answer (.getAs "c" "limits" schema) =
      .typed schema (some v) ∧
    (s.after (.insert "a" "limits" (.int least.val))).answer (.getAs "b" "limits" (.integer (.unsigned 64))) =
      .failed (.internal
        "컨텍스트 값 'limits' 변환 실패: invalid value: integer `-9223372036854775808`, expected u64") := by
  intro s schema least v later
  have hname : s.names.get? "a" = some ⟨0, 0⟩ := by decide +kernel
  obtain ⟨hvalues, hexact, hintegers, -⟩ :=
    values_survive [.create "a" .empty, .clone "a" "b"] hname "limits"
  have hschema : schema.Lossless := ⟨(hexact 64 (by decide)).1, trivial, trivial⟩
  have hspares : (s.after (.insert "a" "limits" (schema.toDatum v))).Spares ⟨0, 0⟩ "limits" later := by
    refine ⟨id, fun hwrites => ?_, id, fun hwrites => ?_, trivial⟩
    · exact absurd hwrites.2.1 (by decide)
    · obtain ⟨-, -, json, hjson⟩ := hwrites
      cases hjson
  constructor
  · exact (hvalues schema hschema v).2 later hspares "c" (by decide +kernel)
  · have hrefused := (hintegers (.signed 64) (hexact 64 (by decide)).1 least (.unsigned 64)).2 (by decide)
    exact hrefused [] trivial "b" (by decide +kernel)

end Store

end RequestScope
