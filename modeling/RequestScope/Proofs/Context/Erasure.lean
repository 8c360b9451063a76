import RequestScope.Proofs.Context.Keeping
import RequestScope.Proofs.Typed.Faults

/-!
# Operations that leave no trace

An insertion of what has no JSON value and a reading at a type leave a store as it is, whether the reading
succeeds or not. So they can be erased from whatever is done to a store, and nothing else is answered
differently.
-/

namespace RequestScope

/-- Whether an operation leaves no trace: it reads at a type, or inserts what has no JSON value. -/
def Operation.isIdle : Operation → Bool
  | .getAs .. => true
  | .insert _ _ value =>
    match value.toJson with
    | .ok _ => false
    | .error _ => true
  | _ => false

theorem Operation.isIdle_iff {operation : Operation} :
    operation.isIdle = true ↔ (∃ name key schema, operation = .getAs name key schema) ∨
      ∃ name key value fault, operation = .insert name key value ∧ value.FailsWith fault := by
  cases operation with
  | getAs name key schema => simp [isIdle]
  | insert name key value =>
    rw [isIdle]
    cases hvalue : value.toJson with
    | error fault => simpa using ⟨fault, Datum.toJson_eq_error_iff.mp hvalue⟩
    | ok json =>
      have hnot (fault : Datum.Fault) : ¬ value.FailsWith fault := by
        intro hfails
        rw [hfails.toJson] at hvalue
        cases hvalue
      simp [hnot]
  | _ => simp [isIdle]

namespace Store

/-- Operations that are not idle, each with what a run answers to it. -/
def answered (s : Store) (operations : List Operation) : List (Operation × Reply) :=
  (operations.zip (s.run operations).2).filter fun e => !e.1.isIdle

section

variable {s : Store}

theorem after_of_idle {operation : Operation} (h : operation.isIdle = true) : s.after operation = s := by
  obtain ⟨name, key, schema, rfl⟩ | ⟨name, key, value, fault, rfl, hvalue⟩ := Operation.isIdle_iff.mp h
  · rw [after, apply, ask, withHandle]
    split <;> rfl
  · rw [after, apply, withHandle]
    split
    · rfl
    · rw [insert_of_error hvalue.toJson]

theorem run_cons (operation : Operation) (rest : List Operation) :
    s.run (operation :: rest) =
      (((s.after operation).run rest).1, s.answer operation :: ((s.after operation).run rest).2) := rfl

theorem run_idle {operations : List Operation} (h : ∀ operation ∈ operations, operation.isIdle = true) :
    (s.run operations).1 = s := by
  induction operations with
  | nil => rfl
  | cons operation rest ih =>
    rw [run_cons, after_of_idle (h operation List.mem_cons_self)]
    exact ih fun operation' hmem => h operation' (List.mem_cons_of_mem _ hmem)

end

/-- Without its idle operations a run ends in the same store and has the same answers to the others. -/
theorem run_erase (s : Store) (operations : List Operation) :
    let busy := operations.filter fun operation => !operation.isIdle
    (s.run operations).1 = (s.run busy).1 ∧ s.answered operations = busy.zip (s.run busy).2 := by
  induction operations generalizing s with
  | nil => exact ⟨rfl, rfl⟩
  | cons operation rest ih =>
    obtain ⟨hstore, hanswered⟩ := ih (s.after operation)
    rw [answered] at hanswered
    cases hidle : operation.isIdle with
    | true =>
      rw [after_of_idle hidle] at hstore hanswered
      simp only [answered, run_cons, after_of_idle hidle, List.zip_cons_cons, List.filter_cons, hidle,
        Bool.not_true, Bool.false_eq_true, if_false]
      exact ⟨hstore, hanswered⟩
    | false =>
      simp only [answered, run_cons, List.zip_cons_cons, List.filter_cons, hidle, Bool.not_false, if_true]
      exact ⟨hstore, congrArg ((operation, s.answer operation) :: ·) hanswered⟩

/-- An insertion of what has no JSON value, at whatever depth the fault is, and a reading at a type leave
everything as it is. They can be erased from whatever is done, and the other operations have the same
answers. A failed insertion tells the key and the fault, and a failed reading the key and the difference;
what was stored at a type without loss is still read at this type. -/
theorem idle_operations_erased (s : Store) :
    (∀ operation : Operation, operation.isIdle = true ↔
      (∃ name key schema, operation = .getAs name key schema) ∨
        ∃ name key value fault, operation = .insert name key value ∧ value.FailsWith fault) ∧
    (∀ idle, (∀ operation ∈ idle, operation.isIdle = true) → (s.run idle).1 = s) ∧
    (∀ operations, let busy := operations.filter fun operation => !operation.isIdle
      (s.run operations).1 = (s.run busy).1 ∧ s.answered operations = busy.zip (s.run busy).2) ∧
    ∀ name, s.names.contains name = true → ∀ key,
      (∀ value fault, value.FailsWith fault →
        s.answer (.insert name key value) =
          .failed (.internal (Entries.writing key ++ ": " ++ fault.message))) ∧
      (∀ json, s.answer (.get name key) = .value (some json) → ∀ schema : Schema,
        ∀ misread, schema.decode json = .error misread →
          s.answer (.getAs name key schema) =
            .failed (.internal (Entries.reading key ++ ": " ++ misread.message))) ∧
      ∀ schema : Schema, schema.Lossless → ∀ v idle,
        (∀ operation ∈ idle, operation.isIdle = true) →
          ((s.after (.insert name key (schema.toDatum v))).run idle).1.answer (.getAs name key schema) =
            .typed schema (some v) := by
  refine ⟨fun _ => Operation.isIdle_iff, fun _ => run_idle, run_erase s, fun name hname key =>
    ⟨fun value fault hvalue => ?_, fun json hjson schema misread hmisread => ?_,
      fun schema hschema v idle hidle => ?_⟩⟩
  all_goals obtain ⟨h, hget⟩ := Option.isSome_iff_exists.mp hname
  · rw [answer, apply, withHandle_some hget, insert_of_error hvalue.toJson]
    rfl
  · rw [answer_get hget, Reply.value.injEq] at hjson
    rw [answer_getAs hget hjson, hmisread]
    rfl
  · obtain ⟨json, hkeeps⟩ := schema.exists_keeps hschema v
    have hget' : (s.after (.insert name key (schema.toDatum v))).names.get? name = some h := by
      rw [after_insert hget hkeeps.written]
      exact hget
    rw [run_idle hidle, answer_getAs hget' (found?_after_insert hget hkeeps.written key), hkeeps.read]
    rfl

/-- The second item of a value inside a value refuses to be written when the rest has been written, and the
text that was there is read through a clone. -/
theorem idle_operations_erased_inside :
    let s := (run {} [.create "a" .empty, .clone "a" "b", .insert "a" "key" (.text "kept")]).1
    let deep : Datum := .map [(.text "first", .int 1), (.text "second", .sequence [.null, .failing "refused"])]
    deep.FailsWith (.failed "refused") ∧
    s.answer (.insert "a" "key" deep) = .failed (.internal "컨텍스트 값 'key' 직렬화 실패: refused") ∧
    s.answer (.getAs "b" "key" .bool) = .failed (.internal
      "컨텍스트 값 'key' 변환 실패: invalid type: string \"kept\", expected a boolean") ∧
    s.answered [.insert "a" "key" deep, .getAs "b" "key" .bool, .get "b" "key"] =
      [(.get "b" "key", .value (some (.string "kept")))] := by
  intro s deep
  have hdeep : deep.FailsWith (.failed "refused") := Datum.toJson_eq_error_iff.mp rfl
  have ha : s.names.contains "a" = true := by decide +kernel
  have hb : s.names.contains "b" = true := by decide +kernel
  obtain ⟨-, -, herased, hfailures⟩ := idle_operations_erased s
  refine ⟨hdeep, (hfailures "a" ha "key").1 deep _ hdeep, ?_, ?_⟩
  · exact (hfailures "b" hb "key").2.1 (.string "kept") rfl .bool _ rfl
  · exact (herased _).2

end Store

end RequestScope
