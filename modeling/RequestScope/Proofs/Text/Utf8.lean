import Mathlib.Data.List.Basic
import RequestScope.Text.Utf8

/-!
# Texts from octets

The octets of a text spell that text and no other. The reader takes the octets of one character as a
whole, by the range that the character lies in, and goes on behind them.
-/

namespace RequestScope.Text.Utf8

/-- The octets of characters in a row. -/
def octets (cs : List Char) : List UInt8 := cs.flatMap String.utf8EncodeChar

@[simp] theorem octets_nil : octets [] = [] := rfl

@[simp] theorem octets_cons (c : Char) (cs : List Char) :
    octets (c :: cs) = String.utf8EncodeChar c ++ octets cs := List.flatMap_cons

@[simp] theorem octets_append (cs ds : List Char) : octets (cs ++ ds) = octets cs ++ octets ds :=
  List.flatMap_append

theorem encode_ofList (cs : List Char) : encode (String.ofList cs) = octets cs := by
  rw [encode, String.toList_ofList, octets]

/-! ### One character -/

/-- The code of a character is a code point and no surrogate. -/
theorem toNat_range (c : Char) : c.toNat < 0xd800 ∨ 0xe000 ≤ c.toNat ∧ c.toNat < 0x110000 := by
  have := c.valid
  simp only [UInt32.isValidChar, Nat.isValidChar] at this
  have hval : c.val.toNat = c.toNat := rfl
  omega

/-- The octets of a character, by the range that its code lies in. -/
theorem encodeChar_cases (c : Char) :
    (c.toNat < 0x80 ∧ String.utf8EncodeChar c = [UInt8.ofNat c.toNat]) ∨
    (0x80 ≤ c.toNat ∧ c.toNat < 0x800 ∧ String.utf8EncodeChar c =
      [UInt8.ofNat (c.toNat / 64 % 32 + 192), UInt8.ofNat (c.toNat % 64 + 128)]) ∨
    (0x800 ≤ c.toNat ∧ c.toNat < 0x10000 ∧ String.utf8EncodeChar c =
      [UInt8.ofNat (c.toNat / 4096 % 16 + 224), UInt8.ofNat (c.toNat / 64 % 64 + 128),
        UInt8.ofNat (c.toNat % 64 + 128)]) ∨
    (0x10000 ≤ c.toNat ∧ String.utf8EncodeChar c =
      [UInt8.ofNat (c.toNat / 262144 % 8 + 240), UInt8.ofNat (c.toNat / 4096 % 64 + 128),
        UInt8.ofNat (c.toNat / 64 % 64 + 128), UInt8.ofNat (c.toNat % 64 + 128)]) := by
  have hval : c.val.toNat = c.toNat := rfl
  rw [String.utf8EncodeChar, hval]
  by_cases hone : c.toNat < 0x80
  · exact .inl ⟨hone, if_pos (by omega)⟩
  · rw [if_neg (by omega)]
    by_cases htwo : c.toNat < 0x800
    · exact .inr (.inl ⟨by omega, htwo, if_pos (by omega)⟩)
    · rw [if_neg (by omega)]
      by_cases hthree : c.toNat < 0x10000
      · exact .inr (.inr (.inl ⟨by omega, hthree, if_pos (by omega)⟩))
      · exact .inr (.inr (.inr ⟨by omega, if_neg (by omega)⟩))

theorem toNat_ofNat (n : Nat) (h : n < 256) : (UInt8.ofNat n).toNat = n := by
  rw [UInt8.toNat_ofNat', Nat.mod_eq_of_lt h]

theorem le_toNat_ofNat {n : Nat} (hlow : 0x80 ≤ n) (hhigh : n < 256) :
    0x80 ≤ (UInt8.ofNat n).toNat := by
  rwa [toNat_ofNat n hhigh]

/-- An octet of a character is its code, if that is ASCII, or lies above ASCII. -/
theorem toNat_of_mem_encodeChar {c : Char} {b : UInt8} (hb : b ∈ String.utf8EncodeChar c) :
    b.toNat = c.toNat ∨ 0x80 ≤ b.toNat := by
  obtain ⟨hone, hc⟩ | ⟨-, -, hc⟩ | ⟨-, -, hc⟩ | ⟨-, hc⟩ := encodeChar_cases c
  · rw [hc, List.mem_singleton] at hb
    rw [hb]
    exact .inl (toNat_ofNat _ (by omega))
  · simp only [hc, List.mem_cons, List.not_mem_nil, or_false] at hb
    obtain rfl | rfl := hb <;> exact .inr (le_toNat_ofNat (by omega) (by omega))
  · simp only [hc, List.mem_cons, List.not_mem_nil, or_false] at hb
    obtain rfl | rfl | rfl := hb <;> exact .inr (le_toNat_ofNat (by omega) (by omega))
  · simp only [hc, List.mem_cons, List.not_mem_nil, or_false] at hb
    obtain rfl | rfl | rfl | rfl := hb <;> exact .inr (le_toNat_ofNat (by omega) (by omega))

/-! ### Reading it back -/

section

variable {a b c d : UInt8} {tail : List UInt8} {count : Nat} {read : List Char}

theorem decodeFrom_one (ha : a < 0x80) :
    decodeFrom (a :: tail) count read = decodeFrom tail (count + 1) (Char.ofNat a.toNat :: read) := by
  rw [decodeFrom.eq_def]
  exact if_pos ha

theorem decodeFrom_two (ha : ¬ a < 0x80) (hb : opensTwo a b) :
    decodeFrom (a :: b :: tail) count read = decodeFrom tail (count + 2) (charOfTwo a b :: read) := by
  rw [decodeFrom.eq_def]
  exact (if_neg ha).trans (if_pos hb)

theorem decodeFrom_three (ha : ¬ a < 0x80) (hb : ¬ opensTwo a b)
    (hc : opensThree a b && isContinuation c) :
    decodeFrom (a :: b :: c :: tail) count read =
      decodeFrom tail (count + 3) (charOfThree a b c :: read) := by
  rw [decodeFrom.eq_def]
  exact (if_neg ha).trans ((if_neg hb).trans (if_pos hc))

theorem decodeFrom_four (ha : ¬ a < 0x80) (hb : ¬ opensTwo a b)
    (hc : ¬ (opensThree a b && isContinuation c))
    (hd : opensFour a b && isContinuation c && isContinuation d) :
    decodeFrom (a :: b :: c :: d :: tail) count read =
      decodeFrom tail (count + 4) (charOfFour a b c d :: read) := by
  rw [decodeFrom.eq_def]
  exact (if_neg ha).trans ((if_neg hb).trans ((if_neg hc).trans (if_pos hd)))

end

theorem isAscii_iff {a : UInt8} : a < 0x80 ↔ a.toNat < 0x80 := UInt8.lt_iff_toNat_lt

theorem isContinuation_iff {b : UInt8} : isContinuation b ↔ 0x80 ≤ b.toNat ∧ b.toNat < 0xc0 := by
  simp [isContinuation, UInt8.le_iff_toNat_le, UInt8.lt_iff_toNat_lt]

theorem opensTwo_iff {a b : UInt8} :
    opensTwo a b ↔ 0xc2 ≤ a.toNat ∧ a.toNat < 0xe0 ∧ isContinuation b := by
  simp [opensTwo, UInt8.le_iff_toNat_le, UInt8.lt_iff_toNat_lt, and_assoc]

theorem opensThree_iff {a b : UInt8} :
    opensThree a b ↔ (0xe0 ≤ a.toNat ∧ a.toNat < 0xf0) ∧ isContinuation b ∧
      ¬ (a.toNat = 0xe0 ∧ b.toNat < 0xa0) ∧ ¬ (a.toNat = 0xed ∧ 0xa0 ≤ b.toNat) := by
  simp [opensThree, UInt8.le_iff_toNat_le, UInt8.lt_iff_toNat_lt, ← UInt8.toNat_inj, and_assoc,
    Decidable.imp_iff_not_or]

theorem opensFour_iff {a b : UInt8} :
    opensFour a b ↔ (0xf0 ≤ a.toNat ∧ a.toNat < 0xf5) ∧ isContinuation b ∧
      ¬ (a.toNat = 0xf0 ∧ b.toNat < 0x90) ∧ ¬ (a.toNat = 0xf4 ∧ 0x90 ≤ b.toNat) := by
  simp [opensFour, UInt8.le_iff_toNat_le, UInt8.lt_iff_toNat_lt, ← UInt8.toNat_inj, and_assoc,
    Decidable.imp_iff_not_or]

/-- The octets of one character are taken together, whatever stands behind them. -/
theorem decodeFrom_encodeChar (c : Char) (tail : List UInt8) (count : Nat) (read : List Char) :
    decodeFrom (String.utf8EncodeChar c ++ tail) count read =
      decodeFrom tail (count + (String.utf8EncodeChar c).length) (c :: read) := by
  have hrange := toNat_range c
  have hread : ∀ {n}, n = c.toNat → Char.ofNat n = c := fun h => h ▸ Char.ofNat_toNat c
  -- The range of the code decides both how the character was written and how its lead octet is read.
  obtain ⟨hone, hchar⟩ | ⟨hlow, hhigh, hchar⟩ | ⟨hlow, hhigh, hchar⟩ | ⟨hlow, hchar⟩ :=
    encodeChar_cases c
  · rw [hchar]
    have ha := toNat_ofNat c.toNat (by omega)
    refine (decodeFrom_one ?_).trans ?_
    · rw [isAscii_iff, ha]
      exact hone
    · rw [hread ha]
      rfl
  · rw [hchar]
    have ha := toNat_ofNat (c.toNat / 64 % 32 + 192) (by omega)
    have hb := toNat_ofNat (c.toNat % 64 + 128) (by omega)
    refine (decodeFrom_two ?_ ?_).trans ?_
    · rw [isAscii_iff, ha]
      omega
    · rw [opensTwo_iff, isContinuation_iff, ha, hb]
      omega
    · rw [charOfTwo, low, ha, hb, hread (by omega)]
      rfl
  · rw [hchar]
    have ha := toNat_ofNat (c.toNat / 4096 % 16 + 224) (by omega)
    have hb := toNat_ofNat (c.toNat / 64 % 64 + 128) (by omega)
    have hc := toNat_ofNat (c.toNat % 64 + 128) (by omega)
    refine (decodeFrom_three ?_ ?_ ?_).trans ?_
    · rw [isAscii_iff, ha]
      omega
    · rw [opensTwo_iff, ha]
      omega
    · -- Neither overlong, by the lower bound on the code, nor a surrogate, as no character is one.
      rw [Bool.and_eq_true, opensThree_iff, isContinuation_iff, isContinuation_iff, ha, hb, hc]
      omega
    · rw [charOfThree, low, low, ha, hb, hc, hread (by omega)]
      rfl
  · rw [hchar]
    have ha := toNat_ofNat (c.toNat / 262144 % 8 + 240) (by omega)
    have hb := toNat_ofNat (c.toNat / 4096 % 64 + 128) (by omega)
    have hc := toNat_ofNat (c.toNat / 64 % 64 + 128) (by omega)
    have hd := toNat_ofNat (c.toNat % 64 + 128) (by omega)
    refine (decodeFrom_four ?_ ?_ ?_ ?_).trans ?_
    · rw [isAscii_iff, ha]
      omega
    · rw [opensTwo_iff, ha]
      omega
    · rw [Bool.and_eq_true, opensThree_iff, ha]
      omega
    · rw [Bool.and_eq_true, Bool.and_eq_true, opensFour_iff, isContinuation_iff, isContinuation_iff,
        isContinuation_iff, ha, hb, hc, hd]
      omega
    · rw [charOfFour, low, low, low, ha, hb, hc, hd, hread (by omega)]
      rfl

/-! ### A whole text -/

theorem decodeFrom_octets (cs : List Char) (tail : List UInt8) (count : Nat) (read : List Char) :
    decodeFrom (octets cs ++ tail) count read =
      decodeFrom tail (count + (octets cs).length) (cs.reverse ++ read) := by
  induction cs generalizing count read with
  | nil => rfl
  | cons c cs ih =>
    rw [octets_cons, List.append_assoc, decodeFrom_encodeChar, ih, List.length_append,
      List.reverse_cons, List.append_assoc, Nat.add_assoc]
    rfl

theorem decode_encode (s : String) : decode (encode s) = .ok s := by
  have hread := decodeFrom_octets s.toList [] 0 []
  rw [List.append_nil, List.append_nil, decodeFrom, List.reverse_reverse] at hread
  rw [decode, encode, ← octets, hread, Except.map, String.ofList_toList]

/-! ### Octets of ASCII -/

theorem toNat_toUInt8 {c : Char} (h : c.toNat < 0x80) : c.toUInt8.toNat = c.toNat := by
  have hval : c.val.toNat = c.toNat := rfl
  rw [← Char.toUInt8_val, UInt32.toNat_toUInt8, hval]
  omega

theorem encode_eq_map {text : String} (h : ∀ c ∈ text.toList, c.toNat < 0x80) :
    encode text = text.toList.map Char.toUInt8 := by
  rw [encode, List.map_eq_flatMap]
  refine List.flatMap_congr fun c hc => String.utf8EncodeChar_eq_singleton ?_
  have hlt : c.val.toNat < 0x80 := h c hc
  rw [Char.utf8Size_eq_one_iff, UInt32.le_iff_toNat_le]
  exact Nat.le_of_lt_succ hlt

end RequestScope.Text.Utf8
