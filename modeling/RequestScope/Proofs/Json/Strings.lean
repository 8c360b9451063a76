import Mathlib.Tactic.SplitIfs
import RequestScope.Json.Literal
import RequestScope.Json.Writer
import RequestScope.Proofs.Text.Utf8

/-!
# Strings read back

A rendered string is read back as the text that it was made from, whatever stands behind it. The
reader takes the octets of each character, escaped or not, back to the octets of that character and
is then where it was, between characters.
-/

namespace RequestScope.Json

open Text.Utf8 (octets)

/-- The place behind octets in a row. -/
def Position.behind (p : Position) (bytes : List UInt8) : Position := bytes.foldl Position.after p

theorem Position.behind_append (p : Position) (left right : List UInt8) :
    p.behind (left ++ right) = (p.behind left).behind right := List.foldl_append

/-! ### One character -/

section

variable (rest : List UInt8) (p : Position) (read : List UInt8)

/-- Octets that neither end a string nor begin an escape stand for themselves. -/
theorem readOctetsFrom_plain {bytes : List UInt8}
    (h : ∀ b ∈ bytes, b ≠ 0x22 ∧ b ≠ 0x5c ∧ ¬ b < 0x20) :
    readOctetsFrom (bytes ++ rest) p .plain read =
      readOctetsFrom rest (p.behind bytes) .plain (bytes.reverse ++ read) := by
  induction bytes generalizing p read with
  | nil => rfl
  | cons b bytes ih =>
    obtain ⟨hquote, hbackslash, hcontrol⟩ := h b List.mem_cons_self
    have hstep : StringState.plain.step b read = .go .plain (b :: read) := by
      simp [StringState.step, hquote, hbackslash, hcontrol]
    rw [List.cons_append, readOctetsFrom, hstep, List.reverse_cons, List.append_assoc]
    exact ih (p.after b) (b :: read) fun b hb => h b (List.mem_cons_of_mem _ hb)

theorem readOctetsFrom_quote :
    readOctetsFrom (0x22 :: rest) p .plain read = .ok (read.reverse, ⟨rest, p.after 0x22⟩) := rfl

theorem readOctetsFrom_short {b octet : UInt8} (hb : b ≠ 0x75) (h : shortEscape? b = some octet) :
    readOctetsFrom (0x5c :: b :: rest) p .plain read =
      readOctetsFrom rest (p.behind [0x5c, b]) .plain (octet :: read) := by
  have hstep : StringState.escape.step b read = .go .plain (octet :: read) := by
    simp [StringState.step, hb, h]
  have hbackslash : StringState.plain.step 0x5c read = .go .escape read := rfl
  rw [readOctetsFrom, hbackslash]
  dsimp only
  rw [readOctetsFrom, hstep]
  rfl

theorem readOctetsFrom_hex {a b c d : UInt8} {code : Nat} (h : hexNumber? [a, b, c, d] = some code)
    (hcode : code < 0xd800) :
    readOctetsFrom (0x5c :: 0x75 :: a :: b :: c :: d :: rest) p .plain read =
      readOctetsFrom rest (p.behind [0x5c, 0x75, a, b, c, d]) .plain (pushChar code read) := by
  have hstep : (StringState.hex none [c, b, a]).step d read = .go .plain (pushChar code read) := by
    have hleading : isLeading code = false := by
      rw [isLeading, decide_eq_false (by omega), Bool.false_and]
    have htrailing : isTrailing code = false := by
      rw [isTrailing, decide_eq_false (by omega), Bool.false_and]
    simp [StringState.step, h, stepCode, hleading, htrailing]
  have hread : readOctetsFrom (0x5c :: 0x75 :: a :: b :: c :: d :: rest) p .plain read =
      readOctetsFrom (d :: rest) (p.behind [0x5c, 0x75, a, b, c]) (.hex none [c, b, a]) read := rfl
  rw [hread, readOctetsFrom, hstep]
  rfl

end

/-- The digits of a control are read as its code. -/
theorem hexPair_spec : ∀ n < 0x20,
    octets (hexPair n) = [(Nat.digitChar (n / 16 % 16)).toUInt8, (Nat.digitChar (n % 16)).toUInt8] ∧
    hexNumber? [0x30, 0x30, (Nat.digitChar (n / 16 % 16)).toUInt8, (Nat.digitChar (n % 16)).toUInt8] =
      some n := by
  decide

theorem encodeChar_plain {c : Char} (hquote : c ≠ '"') (hbackslash : c ≠ '\\') (hcontrol : ¬ c.toNat < 0x20) :
    ∀ b ∈ String.utf8EncodeChar c, b ≠ 0x22 ∧ b ≠ 0x5c ∧ ¬ b < 0x20 := by
  intro b hb
  have hquote : c.toNat ≠ 0x22 := fun h => hquote (Char.toNat_inj.mp h)
  have hbackslash : c.toNat ≠ 0x5c := fun h => hbackslash (Char.toNat_inj.mp h)
  have hnat : b.toNat = c.toNat ∨ 0x80 ≤ b.toNat := Text.Utf8.toNat_of_mem_encodeChar hb
  simp only [ne_eq, ← UInt8.toNat_inj, UInt8.lt_iff_toNat_lt]
  have h0 : (0x22 : UInt8).toNat = 0x22 := rfl
  have h1 : (0x5c : UInt8).toNat = 0x5c := rfl
  have h2 : (0x20 : UInt8).toNat = 0x20 := rfl
  omega

theorem readOctetsFrom_escapeChar (c : Char) (rest : List UInt8) (p : Position) (read : List UInt8) :
    readOctetsFrom (octets (escapeChar c) ++ rest) p .plain read =
      readOctetsFrom rest (p.behind (octets (escapeChar c))) .plain
        ((String.utf8EncodeChar c).reverse ++ read) := by
  have hchar : ∀ n, c.toNat = n → c = Char.ofNat n := fun n h => h ▸ (Char.ofNat_toNat c).symm
  -- A case for each branch of the writer: short escapes, the hexadecimal one, the character itself.
  rw [escapeChar]
  split_ifs with hquote hbackslash hline hreturn htab hbackspace hfeed hcontrol
  · rw [hquote]
    exact readOctetsFrom_short rest p read (by decide) rfl
  · rw [hbackslash]
    exact readOctetsFrom_short rest p read (by decide) rfl
  · rw [hline]
    exact readOctetsFrom_short rest p read (by decide) rfl
  · rw [hreturn]
    exact readOctetsFrom_short rest p read (by decide) rfl
  · rw [htab]
    exact readOctetsFrom_short rest p read (by decide) rfl
  · rw [hchar _ hbackspace]
    exact readOctetsFrom_short rest p read (by decide) rfl
  · rw [hchar _ hfeed]
    exact readOctetsFrom_short rest p read (by decide) rfl
  · obtain ⟨hdigits, hcode⟩ := hexPair_spec c.toNat hcontrol
    have hpush : pushChar c.toNat read = (String.utf8EncodeChar c).reverse ++ read := by
      rw [pushChar, Char.ofNat_toNat]
    rw [Text.Utf8.octets_append, hdigits, ← hpush]
    exact readOctetsFrom_hex rest p read hcode (by omega)
  · rw [Text.Utf8.octets_cons, Text.Utf8.octets_nil, List.append_nil]
    exact readOctetsFrom_plain rest p read (encodeChar_plain hquote hbackslash hcontrol)

/-! ### A whole string -/

theorem readOctetsFrom_flatMap (cs : List Char) (rest : List UInt8) (p : Position) (read : List UInt8) :
    readOctetsFrom (octets (cs.flatMap escapeChar) ++ rest) p .plain read =
      readOctetsFrom rest (p.behind (octets (cs.flatMap escapeChar))) .plain
        ((octets cs).reverse ++ read) := by
  induction cs generalizing p read with
  | nil => rfl
  | cons c cs ih =>
    rw [List.flatMap_cons, Text.Utf8.octets_append, List.append_assoc, readOctetsFrom_escapeChar, ih,
      Position.behind_append, Text.Utf8.octets_cons, List.reverse_append, List.append_assoc]

theorem octets_renderString (s : String) :
    octets (renderString s) = 0x22 :: (octets (s.toList.flatMap escapeChar) ++ [0x22]) := by
  rw [renderString, List.cons_append, Text.Utf8.octets_cons, Text.Utf8.octets_append]
  rfl

/-- A rendered string is read back behind its opening quote. -/
theorem readString_renderString (s : String) (rest : List UInt8) (p : Position) :
    (Cursor.next ⟨octets (renderString s) ++ rest, p⟩).readString =
      .ok (s, ⟨rest, p.behind (octets (renderString s))⟩) := by
  have hread : readOctetsFrom (octets (s.toList.flatMap escapeChar) ++ 0x22 :: rest) (p.after 0x22)
      .plain [] = .ok (octets s.toList, ⟨rest, p.behind (octets (renderString s))⟩) := by
    rw [readOctetsFrom_flatMap, readOctetsFrom_quote, octets_renderString, ← List.cons_append,
      Position.behind_append, List.append_nil, List.reverse_reverse]
    rfl
  have hnext : Cursor.next ⟨octets (renderString s) ++ rest, p⟩ =
      ⟨octets (s.toList.flatMap escapeChar) ++ 0x22 :: rest, p.after 0x22⟩ := by
    rw [octets_renderString, List.cons_append, List.append_assoc]
    rfl
  have hdecode : Text.Utf8.decode (octets s.toList) = .ok s := Text.Utf8.decode_encode s
  rw [hnext, Cursor.readString, hread]
  simp only [bind, Except.bind, hdecode]
  rfl

end RequestScope.Json
