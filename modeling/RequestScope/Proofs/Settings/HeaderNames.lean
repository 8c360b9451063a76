import RequestScope.Proofs.Http.Identifiers
import RequestScope.Proofs.Text.Folding
import RequestScope.Settings.Context

/-!
# The header name of a setting

The setting that names a header is trimmed as characters and judged as octets. What it is read as spells
itself, so that reading it again changes nothing, and two settings name the same header just when they differ
in white space around them and in the case of ASCII letters alone.
-/

namespace RequestScope

namespace Http

/-- The octets of header names: letters, digits and sixteen marks, by the ranges that they lie in. -/
def nameOctetRanges : List (UInt8 × UInt8) :=
  [(0x21, 0x27), (0x2a, 0x2b), (0x2d, 0x2e), (0x30, 0x39), (0x41, 0x5a), (0x5e, 0x7a), (0x7c, 0x7c), (0x7e, 0x7e)]

/-- Whether a header name may hold the octet. -/
def isNameOctet (b : UInt8) : Bool := nameOctetRanges.any fun r => r.1 ≤ b && b ≤ r.2

theorem isNameOctet_eq (b : UInt8) : isNameOctet b = isNameChar (Char.ofNat b.toNat) := by
  have htable : ∀ n < 256, isNameOctet (UInt8.ofNat n) = isNameChar (Char.ofNat n) := by decide +kernel
  have hb := htable b.toNat b.toNat_lt
  rwa [UInt8.ofNat_toNat] at hb

/-- The octets of a text are those of header names just when its characters are: no octet of a character
beyond ASCII is one. -/
theorem forall_isNameOctet_iff {s : String} :
    (∀ b ∈ Text.Utf8.encode s, isNameOctet b) ↔ ∀ c ∈ s.toList, isNameChar c := by
  constructor
  · intro h c hc
    obtain ⟨b, hb⟩ := List.exists_mem_of_ne_nil (String.utf8EncodeChar c) String.utf8EncodeChar_ne_nil
    have hname : isNameChar (Char.ofNat b.toNat) := isNameOctet_eq b ▸ h b (List.mem_flatMap_of_mem hc hb)
    obtain heq | hhigh := Text.Utf8.toNat_of_mem_encodeChar hb
    · rwa [heq, Char.ofNat_toNat] at hname
    · have hnone : ∀ n < 256, 0x80 ≤ n → ¬ isNameChar (Char.ofNat n) := by decide +kernel
      exact absurd hname (hnone b.toNat b.toNat_lt hhigh)
  · intro h b hb
    have hascii : ∀ c ∈ s.toList, c.toNat < 0x80 := fun c hc => toNat_lt_of_isNameChar (h c hc)
    rw [Text.Utf8.encode_eq_map hascii, List.mem_map] at hb
    obtain ⟨c, hc, rfl⟩ := hb
    rw [isNameOctet_eq, Text.Utf8.toNat_toUInt8 (hascii c hc), Char.ofNat_toNat]
    exact h c hc

theorem HeaderName.isSpelling_iff_octets {s : String} :
    IsSpelling s ↔ 1 ≤ (Text.Utf8.encode s).length ∧ (Text.Utf8.encode s).length ≤ 65535 ∧
      ∀ b ∈ Text.Utf8.encode s, isNameOctet b := by
  rw [IsSpelling, forall_isNameOctet_iff, ← and_assoc, ← and_assoc, and_congr_left_iff]
  intro hchars
  have hlength : (Text.Utf8.encode s).length = s.toList.length := by
    rw [Text.Utf8.encode_eq_map fun c hc => toNat_lt_of_isNameChar (hchars c hc), List.length_map]
  rw [hlength, ← List.length_pos_iff]
  rfl

theorem HeaderName.eq_ofSpelling_iff {name : HeaderName} {s : String} :
    name = ofSpelling s ↔ name.text.toList = s.toList.map Char.toLower := by
  rw [ofSpelling, HeaderName.mk.injEq, ← String.toList_inj, String.toList_ofList]

end Http

namespace Settings

open Http (HeaderName)

theorem parseHeaderName?_eq_some_iff {raw : String} {name : HeaderName} :
    parseHeaderName? raw = some name ↔ HeaderName.IsSpelling (Text.trim raw) ∧ name = .ofSpelling (Text.trim raw) :=
  HeaderName.parse?_eq_some_iff

/-- There is no white space in a name, so that a setting which is a name already is not trimmed. -/
theorem parseHeaderName?_text {raw : String} {name : HeaderName} (h : parseHeaderName? raw = some name) :
    parseHeaderName? name.text = some name := by
  have hself : HeaderName.parse? name.text = some name := HeaderName.parse?_text h
  obtain ⟨hne, -, hchars⟩ := (HeaderName.parse?_eq_some_iff.mp hself).1
  have hnot : ∀ c ∈ name.text.toList, ¬ Text.isBlank c := fun c hc =>
    Text.not_isBlank_of_isVisible (Http.isVisible_of_isNameChar (hchars c hc))
  have htrim : Text.trim ("" ++ name.text ++ "") = name.text :=
    Text.trim_padded (by simp) (by simp) hnot hne
  rw [String.empty_append, String.append_empty] at htrim
  rw [parseHeaderName?, htrim, hself]

theorem parseHeaderName?_eq_iff {raw raw' : String} {name name' : HeaderName}
    (h : parseHeaderName? raw = some name) (h' : parseHeaderName? raw' = some name') :
    name = name' ↔ Text.EqUpToCase (Text.trim raw) (Text.trim raw') := by
  rw [(parseHeaderName?_eq_some_iff.mp h).2, (parseHeaderName?_eq_some_iff.mp h').2,
    HeaderName.eq_ofSpelling_iff, HeaderName.ofSpelling, String.toList_ofList]
  rfl

/-- A setting names a header if it is, without the white space around it, a row of 1 to 65535 octets that
header names may hold, and the name is that text with its ASCII letters in lower case. The name names itself,
and two settings name one header just when they are equal up to that white space and the case of ASCII
letters. -/
theorem header_names_canonical :
    (∀ raw name, parseHeaderName? raw = some name ↔
      (1 ≤ (Text.Utf8.encode (Text.trim raw)).length ∧ (Text.Utf8.encode (Text.trim raw)).length ≤ 65535 ∧
        ∀ b ∈ Text.Utf8.encode (Text.trim raw), Http.isNameOctet b) ∧
      name.text.toList = (Text.trim raw).toList.map Char.toLower) ∧
    (∀ raw name, parseHeaderName? raw = some name → parseHeaderName? name.text = some name) ∧
    ∀ raw raw' name name', parseHeaderName? raw = some name → parseHeaderName? raw' = some name' →
      (name = name' ↔ Text.EqUpToCase (Text.trim raw) (Text.trim raw')) := by
  refine ⟨fun raw name => ?_, fun _ _ => parseHeaderName?_text, fun _ _ _ _ => parseHeaderName?_eq_iff⟩
  rw [parseHeaderName?_eq_some_iff, HeaderName.isSpelling_iff_octets, HeaderName.eq_ofSpelling_iff]

/-- A name in capital letters between white space beyond ASCII, and in other letters of either case. -/
theorem header_names_canonical_capital :
    parseHeaderName? "\u3000X-TRACE\u2028" = some ⟨"x-trace"⟩ ∧ parseHeaderName? "x-Trace" = some ⟨"x-trace"⟩ ∧
      parseHeaderName? "x-trace" = some ⟨"x-trace"⟩ ∧
      Text.EqUpToCase (Text.trim "\u3000X-TRACE\u2028") (Text.trim "x-Trace") := by
  have hcapital : parseHeaderName? "\u3000X-TRACE\u2028" = some ⟨"x-trace"⟩ := by decide +kernel
  have hmixed : parseHeaderName? "x-Trace" = some ⟨"x-trace"⟩ := by decide +kernel
  obtain ⟨-, hself, hcase⟩ := header_names_canonical
  exact ⟨hcapital, hmixed, hself _ _ hcapital, (hcase _ _ _ _ hcapital hmixed).mp rfl⟩

end Settings

end RequestScope
