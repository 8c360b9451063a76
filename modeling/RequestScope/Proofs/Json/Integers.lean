import RequestScope.Proofs.Text.Utf8
import RequestScope.Typed.Decode

/-!
# Integers as keys

The decimal of an integer that is kept exactly is read back as this integer, if it is wanted at a kind
that has it. The digits stand alone and stay within 64 bits, so that no digit is dropped and no double
comes in between.
-/

namespace RequestScope

namespace Json

/-! ### Digits -/

private theorem digit_range {c : Char} (h : c.isDigit = true) : 0x30 ≤ c.toNat ∧ c.toNat ≤ 0x39 :=
  Char.isDigit_iff_toNat.mp h

private theorem toNat_digit {c : Char} (h : c.isDigit = true) : c.toUInt8.toNat = c.toNat := by
  have hrange := digit_range h
  exact Text.Utf8.toNat_toUInt8 (by omega)

theorem isDigit_iff {b : UInt8} : isDigit b = true ↔ 0x30 ≤ b.toNat ∧ b.toNat ≤ 0x39 := by
  simp [isDigit, UInt8.le_iff_toNat_le]

theorem isDigit_toUInt8 {c : Char} (h : c.isDigit = true) : isDigit c.toUInt8 = true := by
  rw [isDigit_iff, toNat_digit h]
  exact digit_range h

theorem digitValue_toUInt8 {c : Char} (h : c.isDigit = true) :
    digitValue c.toUInt8 = c.toNat - '0'.toNat := by
  rw [digitValue, toNat_digit h]
  rfl

/-- More digits make no smaller number. -/
theorem le_ofDigitChars (digits : List Char) (value : Nat) : value ≤ Nat.ofDigitChars 10 digits value := by
  induction digits generalizing value with
  | nil => exact Nat.le_refl value
  | cons c digits ih =>
    rw [Nat.ofDigitChars_cons]
    have hrest := ih (10 * value + (c.toNat - '0'.toNat))
    omega

/-- Digits within a limit are taken together. -/
theorem DigitRun.readFrom_digits {limit : Nat} {digits : List Char}
    (hdigits : ∀ c ∈ digits, c.isDigit = true) (p : Position) {value : Nat} (count : Nat) (hlimit : Nat.ofDigitChars 10 digits value ≤ limit) :
    ∃ count' p', readFrom limit (digits.map Char.toUInt8) p value count =
      ⟨Nat.ofDigitChars 10 digits value, count', ⟨[], p'⟩⟩ := by
  induction digits generalizing p value count with
  | nil => exact ⟨count, p, rfl⟩
  | cons c digits ih =>
    have hdigit := hdigits c List.mem_cons_self
    have hnext : value * 10 + digitValue c.toUInt8 = 10 * value + (c.toNat - '0'.toNat) := by
      rw [digitValue_toUInt8 hdigit, Nat.mul_comm]
    rw [Nat.ofDigitChars_cons] at hlimit ⊢
    have hle := Nat.le_trans (le_ofDigitChars digits _) hlimit
    simp only [List.map_cons, readFrom, hnext, isDigit_toUInt8 hdigit, hle, decide_true, Bool.and_self,
      if_true]
    exact ih (fun c hc => hdigits c (List.mem_cons_of_mem _ hc)) _ _ hlimit

/-- The decimal of a positive number begins with no zero. -/
theorem toDigits_head {n : Nat} (h : 0 < n) :
    ∃ c digits, Nat.toDigits 10 n = c :: digits ∧ c ≠ '0' := by
  induction n using Nat.strongRecOn with
  | ind n ih =>
    by_cases hlt : n < 10
    · refine ⟨n.digitChar, [], Nat.toDigits_of_lt_base hlt, fun heq => ?_⟩
      have hnat := Nat.toNat_digitChar_of_lt_ten hlt
      rw [heq] at hnat
      change 48 = 48 + n at hnat
      omega
    · obtain ⟨c, digits, heq, hne⟩ := ih (n / 10) (by omega) (by omega)
      refine ⟨c, digits ++ [(n % 10).digitChar], ?_, hne⟩
      rw [Nat.toDigits_eq_if (by omega), if_neg hlt, heq, List.cons_append]

/-! ### Numbers -/

namespace Cursor

/-- The decimal of a number of 64 bits is read to its end as a whole number. -/
theorem readNumber_toDigits (negative : Bool) {n : Nat} (hn : n ≤ maxDigits) (p : Position) :
    ∃ p', readNumber negative ⟨(Nat.toDigits 10 n).map Char.toUInt8, p⟩ =
      .ok (wholeNumber negative n, ⟨[], p'⟩) := by
  obtain rfl | hpos := Nat.eq_zero_or_pos n
  · exact ⟨_, rfl⟩
  · obtain ⟨c, digits, heq, hne⟩ := toDigits_head hpos
    have hdigits : ∀ c ∈ Nat.toDigits 10 n, c.isDigit = true := fun c hc =>
      Nat.isDigit_of_mem_toDigits (by omega) (by omega) hc
    have hvalue : Nat.ofDigitChars 10 (Nat.toDigits 10 n) 0 = n :=
      Nat.ofDigitChars_toDigits (by omega) (by omega)
    have hdigit : c.isDigit = true := hdigits c (heq ▸ List.mem_cons_self)
    have hzero : c.toUInt8 ≠ 0x30 := by
      intro hzero
      have hnat := congrArg UInt8.toNat hzero
      rw [toNat_digit hdigit] at hnat
      exact hne (Char.toNat_inj.mp hnat)
    obtain ⟨count, p', hrun⟩ := DigitRun.readFrom_digits hdigits p 0 (hvalue.symm ▸ hn)
    refine ⟨p', ?_⟩
    rw [hvalue] at hrun
    have hpeek : peek? ⟨(Nat.toDigits 10 n).map Char.toUInt8, p⟩ = some c.toUInt8 := by
      rw [heq]
      rfl
    simp only [readNumber, hpeek, isDigit_toUInt8 hdigit, DigitRun.read, hrun]
    simp [hzero, skipDigits, skipWhile, skipWhileFrom, readAfterWhole, sees, peek?]

end Cursor

/-- An integer that is kept exactly is the whole number of its decimal. -/
theorem exists_spelling {n : Int} (hmin : minInt ≤ n) (hmax : n ≤ maxInt) :
    ∃ (negative : Bool) (digits : Nat), digits ≤ Cursor.maxDigits ∧
      Cursor.wholeNumber negative digits = .int n ∧
      (toString n).toList = if negative then '-' :: Nat.toDigits 10 digits else Nat.toDigits 10 digits := by
  rw [minInt] at hmin
  rw [maxInt] at hmax
  rw [Int.toString_eq_repr, Int.repr_eq_if]
  by_cases hpos : 0 ≤ n
  · refine ⟨false, n.toNat, ?_, ?_, ?_⟩
    · rw [Cursor.maxDigits]
      omega
    · simp [Cursor.wholeNumber, Int.toNat_of_nonneg hpos]
    · rw [if_pos hpos, Nat.repr_eq_ofList_toDigits, String.toList_ofList]
      rfl
  · refine ⟨true, (-n).toNat, ?_, ?_, ?_⟩
    · rw [Cursor.maxDigits]
      omega
    · have hsmall : ¬ ((-n).toNat = 0 ∨ 0x8000000000000000 < (-n).toNat) := by omega
      have hback : -((-n).toNat : Int) = n := by omega
      rw [Cursor.wholeNumber, if_neg hsmall, hback]
      rfl
    · rw [if_neg hpos, Nat.repr_eq_ofList_toDigits, String.toList_append, String.toList_ofList,
        String.toList_ofList, if_pos rfl]
      rfl

/-- The number that a key spells is read behind its sign, which tells it apart from a digit. -/
theorem exists_readNumber_toString {n : Int} (hmin : minInt ≤ n) (hmax : n ≤ maxInt) :
    let c := Cursor.start (Text.Utf8.encode (toString n))
    ∃ (negative : Bool) (p : Position),
      c.sees (· == 0x2d) = negative ∧ (negative || c.sees isDigit) = true ∧
      (if negative then c.next.readNumber true else c.readNumber false) = .ok (.int n, ⟨[], p⟩) := by
  obtain ⟨negative, digits, hdigits, hwhole, hspelling⟩ := exists_spelling hmin hmax
  have hdigit : ∀ c ∈ Nat.toDigits 10 digits, c.isDigit = true := fun c hc =>
    Nat.isDigit_of_mem_toDigits (by omega) (by omega) hc
  have hascii : ∀ c ∈ (toString n).toList, c.toNat < 0x80 := by
    intro c hc
    rw [hspelling] at hc
    have hcase : c = '-' ∨ c ∈ Nat.toDigits 10 digits := by
      cases negative
      · exact .inr hc
      · exact List.mem_cons.mp hc
    obtain rfl | hmem := hcase
    · decide
    · have hrange := digit_range (hdigit c hmem)
      omega
  intro c
  have hstart : c = ⟨(toString n).toList.map Char.toUInt8, ⟨1, 0⟩⟩ := by
    rw [← Text.Utf8.encode_eq_map hascii]
    rfl
  cases negative with
  | true =>
    rw [if_pos rfl] at hspelling
    obtain ⟨p, hread⟩ := Cursor.readNumber_toDigits true hdigits ⟨1, 1⟩
    rw [hwhole] at hread
    refine ⟨true, p, ?_, rfl, ?_⟩
    · rw [hstart, hspelling]
      rfl
    · rw [if_pos rfl, hstart, hspelling]
      exact hread
  | false =>
    rw [if_neg Bool.false_ne_true] at hspelling
    obtain ⟨p, hread⟩ := Cursor.readNumber_toDigits false hdigits ⟨1, 0⟩
    rw [hwhole] at hread
    -- A digit comes first, and so no sign.
    obtain ⟨first, rest, hfirst⟩ := List.exists_cons_of_ne_nil (Nat.toDigits_ne_nil (n := digits) (b := 10))
    have hisDigit := isDigit_toUInt8 (hdigit first (hfirst ▸ List.mem_cons_self))
    have hsees (test : UInt8 → Bool) : c.sees test = test first.toUInt8 := by
      rw [hstart, hspelling, hfirst]
      rfl
    refine ⟨false, p, ?_, ?_, ?_⟩
    · have hrange := isDigit_iff.mp hisDigit
      rw [hsees, beq_eq_false_iff_ne]
      intro hminus
      rw [hminus] at hrange
      exact absurd hrange.1 (by decide)
    · rw [hsees]
      exact hisDigit
    · rw [if_neg Bool.false_ne_true, hstart, hspelling]
      exact hread

end Json

namespace Typed

/-- A key that spells an integer is read as this integer. -/
theorem decodeKey_toString {kind : IntegerKind} (i : Integer kind) (hmin : Json.minInt ≤ i.val)
    (hmax : i.val ≤ Json.maxInt) : decodeKey kind (toString i.val) = .ok i := by
  obtain ⟨negative, p, hminus, hdigit, hread⟩ := Json.exists_readNumber_toString hmin hmax
  have hinRange : Integer.ofInt? i.val = some i := dif_pos i.inRange
  generalize toString i.val = key at *
  have hnumber : (!negative && !Json.Cursor.sees (.start (Text.Utf8.encode key)) Json.isDigit) = false := by
    rw [← Bool.not_or, hdigit, Bool.not_true]
  simp [decodeKey, hminus, hnumber, hread, hinRange, Except.mapError, bind, Except.bind, pure, Except.pure]

end Typed

end RequestScope
