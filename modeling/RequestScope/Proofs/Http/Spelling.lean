import RequestScope.Http.Request

/-!
# Spellings of header names

A header name is spelled in letters of any case, and all its spellings are read as one name in lower
case, which spells itself. A `Line` is a header as it was sent: what a request holds under a name is what
was sent under the spellings of it, in the order in which it was sent.
-/

namespace RequestScope.Http

/-- The name that a text spells. -/
def HeaderName.ofSpelling (s : String) : HeaderName := ⟨String.ofList (s.toList.map Char.toLower)⟩

/-- Whether a text spells a name. -/
def HeaderName.IsSpelling (s : String) : Prop :=
  s.toList ≠ [] ∧ s.toList.length ≤ maxNameLength ∧ ∀ c ∈ s.toList, isNameChar c

theorem HeaderName.parse?_eq_some_iff {s : String} {name : HeaderName} :
    parse? s = some name ↔ IsSpelling s ∧ name = ofSpelling s := by
  have hcond : (!s.toList.isEmpty && s.toList.length ≤ maxNameLength && s.toList.all isNameChar) = true ↔
      IsSpelling s := by
    simp [IsSpelling, and_assoc]
  rw [parse?, ofSpelling]
  by_cases h : IsSpelling s
  · rw [if_pos (hcond.mpr h), Option.some.injEq]
    exact ⟨fun heq => ⟨h, heq.symm⟩, fun heq => heq.2.symm⟩
  · rw [if_neg (mt hcond.mp h)]
    exact ⟨fun heq => (nomatch heq), fun heq => absurd heq.1 h⟩

theorem HeaderName.eq_ofSpelling_of_parse? {s : String} {name : HeaderName} (h : parse? s = some name) :
    name = ofSpelling s :=
  (parse?_eq_some_iff.mp h).2

/-! ### Lower case -/

/-- What holds of the characters of ASCII one by one. -/
theorem forall_ascii {p : Char → Prop} (h : ∀ n < 0x80, p (Char.ofNat n)) {c : Char} (hc : c.toNat < 0x80) :
    p c := by
  have hthis := h c.toNat hc
  rwa [Char.ofNat_toNat] at hthis

theorem toNat_lt_of_isNameChar {c : Char} (h : isNameChar c) : c.toNat < 0x80 := by
  have hval : c.val.toNat = c.toNat := rfl
  rw [isNameChar, Bool.or_eq_true] at h
  obtain h | h := h
  · delta Char.isAlphanum Char.isAlpha Char.isUpper Char.isLower Char.isDigit at h
    simp only [Bool.or_eq_true, Bool.and_eq_true, decide_eq_true_eq, UInt32.le_iff_toNat_le, ge_iff_le,
      UInt32.reduceToNat, Char.reduceVal] at h
    omega
  · have hmarks : nameMarks.all fun c => c.toNat < 0x80 := by decide
    exact of_decide_eq_true (List.all_eq_true.mp hmarks c (List.contains_iff_mem.mp h))

/-- The letters of a name stay in it when their case changes, and lower case has no lower case of its
own. -/
theorem toLower_of_isNameChar {c : Char} (h : isNameChar c) :
    isNameChar c.toLower ∧ c.toLower.toLower = c.toLower :=
  forall_ascii (p := fun c => isNameChar c → isNameChar c.toLower ∧ c.toLower.toLower = c.toLower)
    (by decide) (toNat_lt_of_isNameChar h) h

/-- A name spells itself. -/
theorem HeaderName.parse?_text {s : String} {name : HeaderName} (h : parse? s = some name) :
    parse? name.text = some name := by
  obtain ⟨⟨hne, hlength, hchars⟩, rfl⟩ := parse?_eq_some_iff.mp h
  have htext : (ofSpelling s).text.toList = s.toList.map Char.toLower := String.toList_ofList
  refine parse?_eq_some_iff.mpr ⟨⟨?_, ?_, fun c hc => ?_⟩, ?_⟩
  · rw [htext]
    exact fun hnil => hne (List.map_eq_nil_iff.mp hnil)
  · rw [htext, List.length_map]
    exact hlength
  · rw [htext, List.mem_map] at hc
    obtain ⟨c, hc, rfl⟩ := hc
    exact (toLower_of_isNameChar (hchars c hc)).1
  · have hagain : (s.toList.map Char.toLower).map Char.toLower = s.toList.map Char.toLower := by
      rw [List.map_map]
      exact List.map_congr_left fun c hc => (toLower_of_isNameChar (hchars c hc)).2
    exact congrArg (fun cs => HeaderName.mk (String.ofList cs)) (hagain.symm.trans (by rw [htext]))

/-! ### Headers as they were sent -/

/-- A header as it was sent. -/
structure Line where
  spelling : String
  value : HeaderValue
  isName : (HeaderName.parse? spelling).isSome

/-- The name of a header that was sent. -/
def Line.name (line : Line) : HeaderName := (HeaderName.parse? line.spelling).get line.isName

theorem Line.name_eq (line : Line) : line.name = .ofSpelling line.spelling :=
  HeaderName.eq_ofSpelling_of_parse? (Option.some_get line.isName).symm

/-- The headers that were sent, in their order. -/
def Headers.ofLines (lines : List Line) : Headers := lines.map fun line => (line.name, line.value)

/-- The value that was sent first under any spelling of a name. -/
def Line.first? (lines : List Line) (name : HeaderName) : Option HeaderValue :=
  (lines.find? fun line => HeaderName.ofSpelling line.spelling == name).map (·.value)

theorem Headers.first?_ofLines (lines : List Line) (name : HeaderName) :
    (Headers.ofLines lines).first? name = Line.first? lines name := by
  induction lines with
  | nil => rfl
  | cons line lines ih =>
    rw [Line.first?, List.find?_cons, ← line.name_eq]
    cases hname : line.name == name with
    | true => simp [first?, all, ofLines, hname]
    | false =>
      have hskip : (ofLines (line :: lines)).first? name = (ofLines lines).first? name := by
        simp [first?, all, ofLines, hname]
      rw [hskip, ih]
      rfl

end RequestScope.Http
