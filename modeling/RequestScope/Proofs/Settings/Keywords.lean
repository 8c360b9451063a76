import RequestScope.Proofs.Text.Folding
import RequestScope.Settings.Keyword

/-!
# Keywords are told from everything else

A reader of keywords takes white space off both ends of a text and lowers the rest by the whole of Unicode.
What it recognises are its words all the same, up to the case of their ASCII letters: no word has the one
letter that something beyond ASCII is lowered to.
-/

namespace RequestScope.Settings

variable {α : Type} {words : List (String × α)}

theorem keyword?_eq_some_iff (hwords : (words.map Prod.fst).Nodup) {raw : String} {value : α} :
    keyword? words raw = some value ↔ (Text.lower (Text.trim raw), value) ∈ words := by
  rw [keyword?]
  generalize Text.lower (Text.trim raw) = word
  induction words with
  | nil => simp
  | cons entry words ih =>
    obtain ⟨key, meaning⟩ := entry
    obtain ⟨hkey, hrest⟩ := List.nodup_cons.mp hwords
    rw [List.lookup_cons, List.mem_cons, Prod.mk.injEq]
    by_cases heq : word = key
    · subst heq
      have hnotin : (word, value) ∉ words := fun hmem =>
        hkey (List.mem_map.mpr ⟨(word, value), hmem, rfl⟩)
      simp only [beq_self_eq_true, Option.some.injEq, hnotin, or_false, true_and]
      exact eq_comm
    · have hbeq : (word == key) = false := beq_eq_false_iff_ne.mpr heq
      simp only [hbeq, heq, false_and, false_or]
      exact ih hrest

/-- A text that is one of the words with the given meaning, but for white space around it and the case of its
ASCII letters. -/
def Spells (words : List (String × α)) (raw : String) (value : α) : Prop :=
  ∃ word, (word, value) ∈ words ∧ Text.EqUpToCase (Text.trim raw) word

/-- Lists of words that can be told apart, in spite of lower case: each word is there once, in ASCII and
without a `k`. -/
structure PlainWords (words : List (String × α)) : Prop where
  plain : ∀ entry ∈ words, Text.IsPlainWord entry.1
  nodup : (words.map Prod.fst).Nodup

/-- Whichever of the small sigmas stands for a capital one, a text that is lowered is a word just when it
spells it. -/
theorem mem_words_iff_spells (hwords : PlainWords words) {raw low : String}
    (hlow : Text.LowersTo (Text.trim raw).toList low.toList) {value : α} :
    (low, value) ∈ words ↔ Spells words raw value := by
  constructor
  · intro hmem
    exact ⟨low, hmem, (hlow.eq_word_iff (hwords.plain _ hmem)).mp rfl⟩
  · rintro ⟨word, hmem, hcase⟩
    rwa [(hlow.eq_word_iff (hwords.plain _ hmem)).mpr hcase]

theorem keyword?_eq_some_iff_spells (hwords : PlainWords words) {raw : String} {value : α} :
    keyword? words raw = some value ↔ Spells words raw value :=
  (keyword?_eq_some_iff hwords.nodup).trans (mem_words_iff_spells hwords (Text.lowersTo_lower _))

theorem spells_surrounded {left right text text' : String}
    (hblank : ∀ c ∈ left.toList ++ right.toList, Text.isBlank c) (hcase : Text.EqUpToCase text text')
    (value : α) : Spells words (left ++ text' ++ right) value ↔ Spells words text value := by
  have htrim : Text.EqUpToCase (Text.trim text) (Text.trim (left ++ text' ++ right)) := by
    rw [Text.trim_surrounded hblank]
    exact hcase.trim
  constructor
  · rintro ⟨word, hmem, hword⟩
    exact ⟨word, hmem, htrim.trans hword⟩
  · rintro ⟨word, hmem, hword⟩
    exact ⟨word, hmem, htrim.symm.trans hword⟩

/-- A reader that recognises the words of a list, by their meaning, and nothing else. It takes no notice of
white space at the ends and of the case of ASCII letters. -/
structure Recognises (read : String → Option α) (words : List (String × α)) : Prop where
  word : ∀ raw value, read raw = some value ↔ Spells words raw value
  other : ∀ raw, read raw = none ↔ ∀ value, ¬ Spells words raw value
  alike : ∀ left text text' right, (∀ c ∈ left.toList ++ right.toList, Text.isBlank c) →
    Text.EqUpToCase text text' → read (left ++ text' ++ right) = read text

theorem recognises_keyword? (hwords : PlainWords words) : Recognises (keyword? words) words where
  word _ _ := keyword?_eq_some_iff_spells hwords
  other raw := by
    rw [Option.eq_none_iff_forall_ne_some]
    exact forall_congr' fun value => not_congr (keyword?_eq_some_iff_spells hwords)
  alike left text text' right hblank hcase := by
    refine Option.ext fun value => ?_
    rw [keyword?_eq_some_iff_spells hwords, keyword?_eq_some_iff_spells hwords]
    exact spells_surrounded hblank hcase value

/-- A word with a `k` has a spelling beyond ASCII, with the kelvin sign in it. -/
example : keyword? [("kind", ())] "\u212aIND" = some () := by decide +kernel

/-- A reader that recognises the words of a list, by their meaning, and takes everything else for what no word
means. -/
structure RecognisesOr (read : String → α) (words : List (String × α)) (byDefault : α) : Prop where
  word : ∀ raw value, value ≠ byDefault → (read raw = value ↔ Spells words raw value)
  other : ∀ raw, read raw = byDefault ↔ ∀ value, ¬ Spells words raw value
  alike : ∀ left text text' right, (∀ c ∈ left.toList ++ right.toList, Text.isBlank c) →
    Text.EqUpToCase text text' → read (left ++ text' ++ right) = read text

theorem Recognises.getD {read : String → Option α} (h : Recognises read words) {byDefault : α}
    (hmeans : ∀ entry ∈ words, entry.2 ≠ byDefault) :
    RecognisesOr (fun raw => (read raw).getD byDefault) words byDefault where
  word raw value hvalue := by
    rw [← h.word]
    cases read raw with
    | none => simp [hvalue.symm]
    | some value' => simp
  other raw := by
    rw [← h.other]
    cases hread : read raw with
    | none => simp
    | some value =>
      obtain ⟨word, hmem, -⟩ := (h.word raw value).mp hread
      simp [hmeans _ hmem]
  alike left text text' right hblank hcase :=
    congrArg (·.getD byDefault) (h.alike left text text' right hblank hcase)

theorem InitializerKind.plainWords : PlainWords InitializerKind.words := ⟨by decide, by decide⟩

theorem IdFormat.plainWords : PlainWords IdFormat.words := ⟨by decide, by decide⟩

theorem plainWords_switch : PlainWords switchWords := ⟨by decide, by decide⟩

theorem Stage.plainWords : PlainWords Stage.words := ⟨by decide, by decide⟩

/-- Each of the four readers of keywords recognises its own words, whatever white space stands around them and
in whatever case their ASCII letters are, and takes nothing else for one of them, whatever it is lowered to. -/
theorem keywords_recognised :
    Recognises InitializerKind.parse?
      [("empty", .empty), ("none", .empty), ("request", .request), ("request_id", .request)] ∧
    Recognises IdFormat.parse? [("v4", .v4), ("uuid4", .v4), ("v7", .v7), ("uuid7", .v7)] ∧
    Recognises parseSwitch?
      [("true", true), ("1", true), ("yes", true), ("on", true),
       ("false", false), ("0", false), ("no", false), ("off", false)] ∧
    RecognisesOr Stage.parse
      [("development", .development), ("dev", .development), ("test", .test), ("testing", .test),
       ("staging", .staging), ("stage", .staging)] .production := by
  exact ⟨recognises_keyword? InitializerKind.plainWords, recognises_keyword? IdFormat.plainWords,
    recognises_keyword? plainWords_switch, (recognises_keyword? Stage.plainWords).getD (by decide)⟩

end RequestScope.Settings
