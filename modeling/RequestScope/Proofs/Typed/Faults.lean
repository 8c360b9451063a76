import RequestScope.Typed.Datum

/-!
# Data without a JSON value

A datum has no JSON value just when one of its parts, at whatever depth, has none for a reason of its own:
an integer that is too large, a key that is no text, or a value that refuses to be written. Among several
such parts the first one tells the fault, and the parts before it have been written by then.
-/

namespace RequestScope.Datum

/-- A datum has a JSON value. -/
def IsWritten (d : Datum) : Prop := ∃ json, d.toJson = .ok json

/-- A datum has no JSON value, and the first part without one has the given fault. -/
inductive FailsWith : Datum → Fault → Prop
  | int {n : Int} (h : ¬ (Json.minInt ≤ n ∧ n ≤ Json.maxInt)) : FailsWith (.int n) .numberOutOfRange
  | refused (reason : String) : FailsWith (.failing reason) (.failed reason)
  | item {front behind : List Datum} {d : Datum} {fault : Fault} (hfront : ∀ d ∈ front, d.IsWritten)
      (h : d.FailsWith fault) : FailsWith (.sequence (front ++ d :: behind)) fault
  | key {front behind : List (Key × Datum)} (d : Datum)
      (hfront : ∀ e ∈ front, e.1 ≠ .unsupported ∧ e.2.IsWritten) :
      FailsWith (.map (front ++ (.unsupported, d) :: behind)) .keyNotText
  | value {front behind : List (Key × Datum)} {key : Key} {d : Datum} {fault : Fault}
      (hfront : ∀ e ∈ front, e.1 ≠ .unsupported ∧ e.2.IsWritten) (hkey : key ≠ .unsupported)
      (h : d.FailsWith fault) : FailsWith (.map (front ++ (key, d) :: behind)) fault

theorem Key.exists_render {key : Key} (h : key ≠ .unsupported) : ∃ name, key.render = .ok name := by
  cases key with
  | unsupported => exact absurd rfl h
  | text s => exact ⟨s, rfl⟩
  | int n => exact ⟨toString n, rfl⟩
  | bool b => cases b <;> exact ⟨_, rfl⟩

section

variable {d : Datum} {fault : Fault}

theorem itemsToJson_of_error (h : d.toJson = .error fault) {front : List Datum}
    (hfront : ∀ d ∈ front, d.IsWritten) (behind : List Datum) :
    itemsToJson (front ++ d :: behind) = .error fault := by
  induction front with
  | nil => simp [itemsToJson, h, bind, Except.bind]
  | cons first front ih =>
    obtain ⟨json, hfirst⟩ := hfront first List.mem_cons_self
    have hrest := ih fun d hd => hfront d (List.mem_cons_of_mem _ hd)
    simp [itemsToJson, hfirst, hrest, bind, Except.bind]

theorem entriesToJson_append_of_error {entries : List (Key × Datum)} (h : entriesToJson entries = .error fault)
    {front : List (Key × Datum)} (hfront : ∀ e ∈ front, e.1 ≠ .unsupported ∧ e.2.IsWritten) :
    entriesToJson (front ++ entries) = .error fault := by
  induction front with
  | nil => exact h
  | cons first front ih =>
    obtain ⟨hkey, json, hfirst⟩ := hfront first List.mem_cons_self
    obtain ⟨name, hname⟩ := Key.exists_render hkey
    have hrest := ih fun e he => hfront e (List.mem_cons_of_mem _ he)
    simp [entriesToJson, hname, hfirst, hrest, bind, Except.bind]

end

theorem FailsWith.toJson {d : Datum} {fault : Fault} (h : d.FailsWith fault) : d.toJson = .error fault := by
  induction h with
  | int h => exact if_neg h
  | refused reason => rfl
  | item hfront _ ih =>
    rw [Datum.toJson, itemsToJson_of_error ih hfront]
    rfl
  | @key front behind d hfront =>
    have hentries : entriesToJson ((.unsupported, d) :: behind) = .error .keyNotText := rfl
    rw [Datum.toJson, entriesToJson_append_of_error hentries hfront]
    rfl
  | @value front behind key d fault hfront hkey _ ih =>
    obtain ⟨name, hname⟩ := Key.exists_render hkey
    have hentries : entriesToJson ((key, d) :: behind) = .error fault := by
      simp [entriesToJson, hname, ih, bind, Except.bind]
    rw [Datum.toJson, entriesToJson_append_of_error hentries hfront]
    rfl

/-! ### The first part that fails -/

theorem eq_error_of_map {α β : Type} {f : α → β} {result : Except Fault α} {fault : Fault}
    (h : result.map f = .error fault) : result = .error fault := by
  cases result with
  | error fault' =>
    cases h
    rfl
  | ok value => cases h

theorem itemsToJson_cons_eq_error {d : Datum} {items : List Datum} {fault : Fault}
    (h : itemsToJson (d :: items) = .error fault) :
    d.toJson = .error fault ∨ d.IsWritten ∧ itemsToJson items = .error fault := by
  cases hd : d.toJson with
  | error fault' =>
    simp [itemsToJson, hd, bind, Except.bind] at h
    exact .inl (congrArg _ h)
  | ok json =>
    refine .inr ⟨⟨json, hd⟩, ?_⟩
    cases hitems : itemsToJson items with
    | error fault' => simpa [itemsToJson, hd, hitems, bind, Except.bind] using h
    | ok values => simp [itemsToJson, hd, hitems, bind, Except.bind, pure, Except.pure] at h

theorem entriesToJson_cons_eq_error {key : Key} {d : Datum} {entries : List (Key × Datum)} {fault : Fault}
    (h : entriesToJson ((key, d) :: entries) = .error fault) :
    key = .unsupported ∧ fault = .keyNotText ∨ key ≠ .unsupported ∧
      (d.toJson = .error fault ∨ d.IsWritten ∧ entriesToJson entries = .error fault) := by
  by_cases hkey : key = .unsupported
  · subst hkey
    cases h
    exact .inl ⟨rfl, rfl⟩
  · obtain ⟨name, hname⟩ := Key.exists_render hkey
    refine .inr ⟨hkey, ?_⟩
    cases hd : d.toJson with
    | error fault' =>
      simp [entriesToJson, hname, hd, bind, Except.bind] at h
      exact .inl (congrArg _ h)
    | ok json =>
      refine .inr ⟨⟨json, hd⟩, ?_⟩
      cases hentries : entriesToJson entries with
      | error fault' => simpa [entriesToJson, hname, hd, hentries, bind, Except.bind] using h
      | ok members => simp [entriesToJson, hname, hd, hentries, bind, Except.bind, pure, Except.pure] at h

/-! What has been written of a sequence or a map is carried along in front of the rest, as that is what
tells which part is the first to fail. -/

mutual

theorem failsWith_of_toJson {fault : Fault} : (d : Datum) → d.toJson = .error fault → d.FailsWith fault
  | .int n, h => by
    rw [toJson, intToJson] at h
    split at h
    · cases h
    · rename_i hrange
      cases h
      exact .int hrange
  | .failing reason, h => by
    cases h
    exact .refused reason
  | .sequence items, h => failsWith_of_itemsToJson items [] (by simp) (eq_error_of_map h)
  | .map entries, h => failsWith_of_entriesToJson entries [] (by simp) (eq_error_of_map h)
  | .null, h | .bool _, h | .double _, h | .text _, h | .json _, h => nomatch h

theorem failsWith_of_itemsToJson {fault : Fault} : (items front : List Datum) →
    (∀ d ∈ front, d.IsWritten) → itemsToJson items = .error fault →
    (sequence (front ++ items)).FailsWith fault
  | [], _, _, h => nomatch h
  | d :: items, front, hfront, h => by
    obtain hd | ⟨hd, hitems⟩ := itemsToJson_cons_eq_error h
    · exact .item hfront (failsWith_of_toJson d hd)
    · have hfront' : ∀ d' ∈ front ++ [d], d'.IsWritten := by
        intro d' hmem
        obtain hmem | hmem := List.mem_append.mp hmem
        · exact hfront d' hmem
        · exact List.mem_singleton.mp hmem ▸ hd
      have hrest := failsWith_of_itemsToJson items (front ++ [d]) hfront' hitems
      rwa [List.append_assoc] at hrest

theorem failsWith_of_entriesToJson {fault : Fault} : (entries front : List (Key × Datum)) →
    (∀ e ∈ front, e.1 ≠ .unsupported ∧ e.2.IsWritten) → entriesToJson entries = .error fault →
    (map (front ++ entries)).FailsWith fault
  | [], _, _, h => nomatch h
  | (key, d) :: entries, front, hfront, h => by
    obtain ⟨rfl, rfl⟩ | ⟨hkey, hd | ⟨hd, hentries⟩⟩ := entriesToJson_cons_eq_error h
    · exact .key d hfront
    · exact .value hfront hkey (failsWith_of_toJson d hd)
    · have hfront' : ∀ e ∈ front ++ [(key, d)], e.1 ≠ .unsupported ∧ e.2.IsWritten := by
        intro e hmem
        obtain hmem | hmem := List.mem_append.mp hmem
        · exact hfront e hmem
        · exact List.mem_singleton.mp hmem ▸ ⟨hkey, hd⟩
      have hrest := failsWith_of_entriesToJson entries (front ++ [(key, d)]) hfront' hentries
      rwa [List.append_assoc] at hrest

end

/-- The fault of a datum is that of its first part without a JSON value. -/
theorem toJson_eq_error_iff {d : Datum} {fault : Fault} : d.toJson = .error fault ↔ d.FailsWith fault :=
  ⟨failsWith_of_toJson d, FailsWith.toJson⟩

end RequestScope.Datum
