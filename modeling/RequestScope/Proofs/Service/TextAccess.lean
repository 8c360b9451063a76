import RequestScope.Proofs.Context.Copies
import RequestScope.Proofs.Service.Extractors
import RequestScope.Proofs.Service.Snapshot

/-!
# Ways to a text

A text is read from a context in three ways: as a value that turns out to be a text, as a text, and at the type
of texts. They tell the texts alike. What is no text they tell apart, each in its own way: the first gives it
out, the second takes it for absent, and the third fails and names the key. The identifier of a request is read
in the second way, also by a snapshot, which shows it beside the entries that it was read from.
-/

namespace RequestScope

theorem Json.string?_eq_some_iff {value : Json} {text : String} :
    value.string? = some text ↔ value = .string text := by
  cases value <;> simp [string?]

theorem Entries.text?_eq_some_iff {entries : Entries} {key text : String} :
    entries.text? key = some text ↔ entries.get? key = some (.string text) := by
  rw [text?, Option.bind_eq_bind, Option.bind_eq_some_iff]
  simp only [Json.string?_eq_some_iff, exists_eq_right]

theorem Schema.decode_text_of_ne {value : Json} (h : ∀ text, value ≠ .string text) :
    Schema.text.decode value = .error (.value (.wrongType value.found "a string")) := by
  cases value with
  | string text => exact absurd rfl (h text)
  | _ => rfl

namespace Store

section

variable {s : Store} {name : String} {h : Handle} (hname : s.names.get? name = some h) (key : String)

include hname

theorem answer_getText :
    s.answer (.getText name key) = .text ((s.found? h key).bind Json.string?) := by
  rw [answer, apply, ask, withHandle_some hname]
  rfl

theorem answer_contains : s.answer (.contains name key) = .flag (s.found? h key).isSome := by
  rw [answer, apply, ask, withHandle_some hname]
  rfl

theorem answer_requestId : s.answer (.requestId name) = s.answer (.getText name Entries.requestIdKey) := by
  rw [answer_getText hname, answer, apply, ask, withHandle_some hname]
  rfl

theorem answer_getAs_absent (hfound : s.found? h key = none) (schema : Schema) :
    s.answer (.getAs name key schema) = .typed schema none := by
  rw [found?] at hfound
  rw [answer, apply, ask, withHandle_some hname, Entries.read, hfound]

end

/-- The ways to a text agree about a key: a value is a text for all of them or for none, and one that is no text
is not taken for absent where it is read at the type of texts. -/
structure TextsAgree (s : Store) (name key : String) : Prop where
  text_iff : ∀ text : String, s.answer (.getText name key) = .text (some text) ↔
    s.answer (.get name key) = .value (some (.string text))
  typed_iff : ∀ text : String, s.answer (.getAs name key .text) = .typed .text (some text) ↔
    s.answer (.get name key) = .value (some (.string text))
  absent_iff : s.answer (.getAs name key .text) = .typed .text none ↔
    s.answer (.contains name key) = .flag false
  stored_iff : s.answer (.get name key) = .value none ↔ s.answer (.contains name key) = .flag false
  other : ∀ value, s.answer (.get name key) = .value (some value) → (∀ text, value ≠ .string text) →
    s.answer (.getText name key) = .text none ∧
    s.answer (.getAs name key .text) = .failed (.internal ("컨텍스트 값 '" ++ key ++ "' 변환 실패" ++ ": " ++
      ("invalid type: " ++ value.found.describe ++ ", expected " ++ "a string")))

theorem textsAgree {s : Store} {name : String} {h : Handle} (hname : s.names.get? name = some h) (key : String) :
    s.TextsAgree name key := by
  have hget : s.answer (.get name key) = .value (s.found? h key) := answer_get hname key
  have htext := answer_getText hname key
  have hcontains := answer_contains hname key
  cases hfound : s.found? h key with
  | none =>
    have htyped := answer_getAs_absent hname key hfound .text
    rw [hfound] at hget htext hcontains
    constructor <;> simp [hget, htext, hcontains, htyped]
  | some value =>
    have htyped := answer_getAs hname hfound .text
    rw [hfound] at hget htext hcontains
    by_cases hstring : ∃ text, value = .string text
    · obtain ⟨text, rfl⟩ := hstring
      have hread : s.answer (.getAs name key .text) = .typed .text (some text) := htyped
      have hsame (text' : String) : Reply.typed .text (some text) = .typed .text (some text') ↔ text = text' :=
        ⟨fun heq => by cases heq; rfl, fun heq => heq ▸ rfl⟩
      constructor <;> simp [hget, htext, hcontains, hread, hsame, Json.string?]
    · have hne : ∀ text, value ≠ .string text := fun text heq => hstring ⟨text, heq⟩
      rw [Schema.decode_text_of_ne hne] at htyped
      have hfailed : s.answer (.getAs name key .text) =
          .failed (.internal ("컨텍스트 값 '" ++ key ++ "' 변환 실패" ++ ": " ++
            ("invalid type: " ++ value.found.describe ++ ", expected " ++ "a string"))) := htyped
      have hnone : value.string? = none :=
        Option.eq_none_iff_forall_ne_some.mpr fun text heq => hne text (Json.string?_eq_some_iff.mp heq)
      constructor <;> simp [hget, htext, hcontains, hfailed, hnone, hne]

end Store

/-! ### Snapshots -/

namespace Work

/-- A snapshot that reads twice: first the identifier, then all entries. -/
def snapshotInTurn (next : Option Json → Work) : Work :=
  .withCurrent (.inspect .lent fun first => .inspect .lent fun entries =>
      .ret (.value ((first.bind fun e => entries.map fun e' =>
        (ContextSnapshot.mk e.requestId? e').toJson).getD .null))) fun
    | some (.value v) => next (some v)
    | _ => next none

theorem modify_id_modify_id (s : Machine LogRecord Outcome) (h : Handle) :
    (s.modify h id).modify h id = s.modify h id := by
  have hheap : ((s.world.heap.write h (s.world.heap.read h)).write h
      ((s.world.heap.write h (s.world.heap.read h)).read h)) = s.world.heap.write h (s.world.heap.read h) := by
    refine SortedMap.ext_get? fun h' => ?_
    rw [Heap.read_write, if_pos rfl, Heap.write, Heap.write, SortedMap.get?_insert, SortedMap.get?_insert]
    split <;> rfl
  exact congrArg (fun heap => { s with world := { s.world with heap } }) hheap

/-- Nothing comes between the two readings, since nothing suspends there. -/
theorem poll_snapshotInTurn (again : Future LogRecord Outcome → Machine LogRecord Outcome →
      Poll LogRecord Outcome .async × Machine LogRecord Outcome)
    (next : Option Json → Work) (s : Machine LogRecord Outcome) :
    (snapshotInTurn next).poll again s = (snapshot next).poll again s := by
  rw [snapshotInTurn, snapshot, Program.poll, Program.poll]
  cases s.find? .current with
  | none => rfl
  | some h =>
    have hread : ((s.lend h).modify h id).world.heap.read h = s.world.heap.read h := by
      rw [Machine.read_modify, if_pos rfl]
      rfl
    have hlent : (s.lend h).find? .lent = some h := rfl
    have hlent' : ((s.lend h).modify h id).find? .lent = some h := rfl
    simp only [Program.inspect, Program.poll, hlent, hlent', hread, modify_id_modify_id]
    rfl

end Work

namespace Store

/-- Whatever has been done to the contexts, the three ways to a text agree about every key of a context, and its
identifier is the text under one of the keys. A snapshot that is taken in an extent of what the context holds
shows this identifier, if there is one, and the entries among which it stands, no matter whether they are read
at once or one after the other. -/
theorem text_accessors_agree (operations : List Operation) {name : String} {cell : Handle}
    (hname : (run {} operations).1.names.get? name = some cell) :
    let s := (run {} operations).1
    (∀ key, s.TextsAgree name key) ∧
    s.answer (.requestId name) = s.answer (.getText name "request_id") ∧
    ∃ snapshot : ContextSnapshot,
      s.answer (.getText name "request_id") = .text snapshot.requestId ∧
      s.answer (.entries name) = .entries snapshot.values ∧
      (∀ text, snapshot.requestId = some text ↔ snapshot.values.get? "request_id" = some (.string text)) ∧
      ∀ (depth : Nat) (next : Option Json → Work) (chain : CallChain) (own : Handle)
        (x : Scene LogRecord Outcome), chain.current = some own → x.heap.read own = s.heap.read cell →
        ∀ taken ∈ [Work.snapshot next, Work.snapshotInTurn next],
          (Future.ready taken).pollAt depth (x.machine chain) =
            (Future.ready (next (some snapshot.toJson))).pollAt depth ((x.machine chain).modify own id) := by
  intro s
  refine ⟨textsAgree hname, answer_requestId hname, .ofEntries (s.heap.read cell), answer_getText hname _,
    answer_entries hname, fun _ => Entries.text?_eq_some_iff, fun depth next chain own x hcurrent hread => ?_⟩
  have hsnapshot := Work.pollAt_snapshot depth next chain x
  simp only [hcurrent, hread] at hsnapshot
  obtain ⟨again, hpoll⟩ := Future.exists_pollAt (ε := LogRecord) (ρ := Outcome) depth
  have hturn : (Future.ready (Work.snapshotInTurn next)).pollAt depth (x.machine chain) =
      (Future.ready (Work.snapshot next)).pollAt depth (x.machine chain) := by
    rw [hpoll]
    exact Work.poll_snapshotInTurn again next _
  intro taken htaken
  obtain rfl | htaken := List.mem_cons.mp htaken
  · exact hsnapshot
  · cases List.mem_singleton.mp htaken
    exact hturn.trans hsnapshot

/-- A null is stored where the identifier should stand: it is no text, and it is not absent either. -/
theorem text_accessors_agree_null :
    let s := (run {} [.create "a" .empty, .insert "a" "request_id" .null]).1
    s.names.get? "a" = some ⟨0, 0⟩ ∧ s.answer (.requestId "a") = .text none ∧
      s.answer (.getAs "a" "request_id" .text) = .failed (.internal
        "컨텍스트 값 'request_id' 변환 실패: invalid type: null, expected a string") ∧
      s.answer (.getAs "a" "tenant" .text) = .typed .text none := by
  intro s
  have hname : s.names.get? "a" = some ⟨0, 0⟩ := by decide +kernel
  obtain ⟨hkeys, hid, -⟩ := text_accessors_agree _ hname
  obtain ⟨htext, htyped⟩ := (hkeys "request_id").other .null rfl fun _ heq => nomatch heq
  exact ⟨hname, hid.trans htext, htyped, (hkeys "tenant").absent_iff.mpr rfl⟩

end Store

end RequestScope
