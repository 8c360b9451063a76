import Mathlib.Data.List.Basic
import RequestScope.Context.Initializer
import RequestScope.Proofs.Http.Headers
import RequestScope.Proofs.Http.Spelling
import RequestScope.Proofs.Text.Utf8

/-!
# Identifiers under way

An acceptable identifier may stand in a header, and whoever reads the header reads that identifier,
also if blanks were put around it under way. Identifiers of the shape that is generated are
acceptable, so that whatever identifier a policy chooses comes through.
-/

namespace RequestScope

namespace Text

/-! ### Blanks around a text -/

theorem not_isBlank_of_isVisible {c : Char} (h : isVisible c) : ¬ isBlank c := by
  simp only [isVisible, Bool.and_eq_true, decide_eq_true_eq] at h
  simp only [isBlank, blankRanges, List.any_cons, List.any_nil, Bool.or_false, Bool.or_eq_true,
    Bool.and_eq_true, decide_eq_true_eq]
  omega

theorem dropWhile_blanks {blanks cs rest : List Char} (hblanks : ∀ c ∈ blanks, isBlank c)
    (hcs : ∀ c ∈ cs, ¬ isBlank c) (hne : cs ≠ []) :
    (blanks ++ (cs ++ rest)).dropWhile isBlank = cs ++ rest := by
  rw [List.dropWhile_append_of_pos hblanks]
  cases cs with
  | nil => exact absurd rfl hne
  | cons c cs => exact List.dropWhile_cons_of_neg (hcs c List.mem_cons_self)

theorem trim_padded {left text right : String} (hleft : ∀ c ∈ left.toList, isBlank c)
    (hright : ∀ c ∈ right.toList, isBlank c) (htext : ∀ c ∈ text.toList, ¬ isBlank c)
    (hne : text.toList ≠ []) : trim (left ++ text ++ right) = text := by
  have hstart : trimStart (left ++ text ++ right).toList = text.toList ++ right.toList := by
    rw [String.toList_append, String.toList_append, List.append_assoc]
    exact dropWhile_blanks hleft htext hne
  have hend : trimEnd (text.toList ++ right.toList) = text.toList := by
    have hdrop : (right.toList.reverse ++ (text.toList.reverse ++ [])).dropWhile isBlank =
        text.toList.reverse ++ [] :=
      dropWhile_blanks (by simpa using hright) (by simpa using htext) (by simpa using hne)
    rw [List.append_nil] at hdrop
    rw [trimEnd, List.reverse_append, hdrop, List.reverse_reverse]
  rw [trim, hstart, hend, String.ofList_toList]

end Text

/-! ### Acceptable identifiers -/

theorem isAcceptableId_iff {id : String} :
    isAcceptableId id ↔
      id.toList ≠ [] ∧ id.toList.length ≤ maxIdLength ∧ ∀ c ∈ id.toList, isVisible c := by
  simp [isAcceptableId, and_assoc]

theorem isVisible_iff {c : Char} : isVisible c ↔ 0x21 ≤ c.toNat ∧ c.toNat ≤ 0x7e := by
  simp [isVisible]

namespace Http

theorem isVisible_of_isNameChar {c : Char} (h : isNameChar c) : isVisible c :=
  forall_ascii (p := fun c => isNameChar c → isVisible c) (by decide) (toNat_lt_of_isNameChar h) h

/-- A character that the text of a header value may hold. -/
def IsPlain (c : Char) : Prop := isVisible c ∨ c = ' ' ∨ c = '\t'

theorem IsPlain.range {c : Char} (h : IsPlain c) :
    0x20 ≤ c.toNat ∧ c.toNat < 0x7f ∨ c.toNat = 0x09 := by
  obtain hvisible | rfl | rfl := h
  · have := isVisible_iff.mp hvisible
    omega
  · decide
  · decide

theorem IsPlain.toNat_lt {c : Char} (h : IsPlain c) : c.toNat < 0x80 := by
  have := h.range
  omega

theorem isPlain_of_acceptable {id : String} (h : isAcceptableId id) : ∀ c ∈ id.toList, IsPlain c :=
  fun c hc => .inl ((isAcceptableId_iff.mp h).2.2 c hc)

theorem isLegal_of_plain {text : String} (h : ∀ c ∈ text.toList, IsPlain c) : IsLegal text := by
  intro b hb
  rw [Text.Utf8.encode_eq_map fun c hc => (h c hc).toNat_lt, List.mem_map] at hb
  obtain ⟨c, hc, rfl⟩ := hb
  have hnat := Text.Utf8.toNat_toUInt8 (h c hc).toNat_lt
  have hrange := (h c hc).range
  have hdelete : (0x7f : UInt8).toNat = 0x7f := rfl
  simp only [isValueOctet, Bool.or_eq_true, Bool.and_eq_true, decide_eq_true_eq, beq_iff_eq,
    bne_iff_ne, ne_eq, UInt8.le_iff_toNat_le, ← UInt8.toNat_inj, hnat, hdelete]
  obtain ⟨hle, hlt⟩ | htab := hrange
  · exact .inl ⟨hle, Nat.ne_of_lt hlt⟩
  · exact .inr htab

theorem HeaderValue.toText?_encode {text : String} (h : ∀ c ∈ text.toList, IsPlain c) :
    HeaderValue.toText? ⟨Text.Utf8.encode text⟩ = some text := by
  have hascii : ∀ c ∈ text.toList, c.toNat < 0x80 := fun c hc => (h c hc).toNat_lt
  have hplain : (text.toList.map Char.toUInt8).all
      fun b => (0x20 ≤ b && b < 0x7f) || b == 0x09 := by
    rw [List.all_map, List.all_eq_true]
    intro c hc
    have hnat := Text.Utf8.toNat_toUInt8 (hascii c hc)
    have hrange := (h c hc).range
    simp only [Function.comp_apply, Bool.or_eq_true, Bool.and_eq_true, decide_eq_true_eq, beq_iff_eq,
      UInt8.le_iff_toNat_le, UInt8.lt_iff_toNat_lt, ← UInt8.toNat_inj, hnat]
    exact hrange
  have hread : (text.toList.map Char.toUInt8).map (fun b => Char.ofNat b.toNat) = text.toList := by
    have hchar : ∀ c ∈ text.toList, Char.ofNat c.toUInt8.toNat = c := fun c hc => by
      rw [Text.Utf8.toNat_toUInt8 (hascii c hc), Char.ofNat_toNat]
    rw [List.map_map]
    exact (List.map_congr_left hchar).trans (List.map_id _)
  rw [toText?, Text.Utf8.encode_eq_map hascii, if_pos hplain, hread, String.ofList_toList]

end Http

/-- The characters of generated identifiers. -/
def uuidChars : List Char := "0123456789abcdef-".toList

/-- Whether a text has the shape of a generated identifier: 36 digits of base sixteen, the letters in
lower case, and hyphens. -/
def IsUuid (id : String) : Prop := id.length = 36 ∧ ∀ c ∈ id.toList, c ∈ uuidChars

/-- The characters of generated identifiers, with letters of either case. -/
def hexIdChars : List Char := "0123456789abcdefABCDEF-".toList

/-- Whether a text has 36 digits of base sixteen and hyphens, the letters in any case. -/
def IsHexId (id : String) : Prop := id.length = 36 ∧ ∀ c ∈ id.toList, c ∈ hexIdChars

theorem isAcceptableId_of_isHexId {id : String} (h : IsHexId id) : isAcceptableId id := by
  obtain ⟨hlength, hchars⟩ := h
  have hlength : id.toList.length = 36 := String.length_toList.trans hlength
  have hvisible : hexIdChars.all isVisible := by decide
  have hvisible : ∀ c ∈ id.toList, isVisible c := fun c hc =>
    List.all_eq_true.mp hvisible c (hchars c hc)
  refine isAcceptableId_iff.mpr ⟨fun hnil => ?_, ?_, hvisible⟩
  · rw [hnil] at hlength
    exact absurd hlength (by decide)
  · rw [hlength]
    decide

theorem isHexId_of_isUuid {id : String} (h : IsUuid id) : IsHexId id := by
  have hsubset : uuidChars.all (· ∈ hexIdChars) := by decide
  exact ⟨h.1, fun c hc => of_decide_eq_true (List.all_eq_true.mp hsubset c (h.2 c hc))⟩

theorem isAcceptableId_of_isUuid {id : String} (h : IsUuid id) : isAcceptableId id :=
  isAcceptableId_of_isHexId (isHexId_of_isUuid h)

theorem isUuid_of_all {id : String} (hlength : id.length = 36)
    (hchars : id.toList.all (· ∈ uuidChars)) : IsUuid id :=
  ⟨hlength, fun c hc => of_decide_eq_true (List.all_eq_true.mp hchars c hc)⟩

theorem isUuid_mock (format : Settings.IdFormat) (n : Nat) : IsUuid (IdSource.mock format n) := by
  cases format with
  | v4 =>
    have hmock : IsUuid mockV4 := isUuid_of_all (by decide) (by decide)
    exact hmock
  | v7 =>
    have hmock : IsUuid mockV7 := isUuid_of_all (by decide) (by decide)
    exact hmock

/-! ### Identifiers of requests -/

/-- A request is described by its identifier beside what else is known of it. -/
theorem Initializer.requestId?_describe (request : Http.Request) (id : String) :
    (describe request id).requestId? = some id := by
  have hpath : Entries.pathKey ≠ Entries.requestIdKey := by decide
  have hmethod : Entries.methodKey ≠ Entries.requestIdKey := by decide
  have hdescribe : describe request id =
      ((SortedMap.empty.insert Entries.requestIdKey (.string id)).insert Entries.methodKey
        (.string request.method)).insert Entries.pathKey (.string request.target.path) := rfl
  rw [hdescribe, Entries.requestId?, Entries.text?, SortedMap.get?_insert, if_neg hpath,
    SortedMap.get?_insert, if_neg hmethod, SortedMap.get?_insert, if_pos rfl]
  rfl

namespace IdPolicy

theorem isAcceptableId_of_incoming? {policy : IdPolicy} {request : Http.Request} {id : String}
    (h : policy.incoming? request = some id) : isAcceptableId id := by
  rw [incoming?] at h
  split at h
  · exact (Option.filter_eq_some_iff.mp h).2
  · cases h

/-- Whatever identifier is chosen is acceptable, if the generated ones are. -/
theorem isAcceptableId_choose_of_generated (policy : IdPolicy) (request : Http.Request) {ids : IdSupply}
    (hids : ∀ format n, isAcceptableId (ids.source format n)) :
    isAcceptableId (policy.choose request ids).1 := by
  rw [choose]
  cases hincoming : policy.incoming? request with
  | some id => exact isAcceptableId_of_incoming? hincoming
  | none => exact hids policy.format ids.calls.length

/-- Whatever identifier is chosen can be sent on, if the generated ones have their shape. -/
theorem isAcceptableId_choose (policy : IdPolicy) (request : Http.Request) {ids : IdSupply}
    (hids : ∀ format n, IsUuid (ids.source format n)) :
    isAcceptableId (policy.choose request ids).1 :=
  policy.isAcceptableId_choose_of_generated request fun format n =>
    isAcceptableId_of_isUuid (hids format n)

/-- An identifier that was sent with blanks around it comes in without them. -/
theorem incoming?_of_padded {policy : IdPolicy} {request : Http.Request} {id left right : String}
    (htrust : policy.trustIncoming) (hid : isAcceptableId id)
    (hpads : ∀ c ∈ left.toList ++ right.toList, c = ' ' ∨ c = '\t')
    (hheader : request.headers.first? policy.header = some ⟨Text.Utf8.encode (left ++ id ++ right)⟩) :
    policy.incoming? request = some id := by
  obtain ⟨hne, -, hvisible⟩ := isAcceptableId_iff.mp hid
  have hblank : ∀ c ∈ left.toList ++ right.toList, Text.isBlank c := by
    intro c hc
    obtain rfl | rfl := hpads c hc <;> decide
  have hplain : ∀ c ∈ (left ++ id ++ right).toList, Http.IsPlain c := by
    intro c hc
    simp only [String.toList_append, List.mem_append] at hc
    obtain (hc | hc) | hc := hc
    · exact .inr (hpads c (List.mem_append_left _ hc))
    · exact Http.isPlain_of_acceptable hid c hc
    · exact .inr (hpads c (List.mem_append_right _ hc))
  have htrim : Text.trim (left ++ id ++ right) = id :=
    Text.trim_padded (fun c hc => hblank c (List.mem_append_left _ hc))
      (fun c hc => hblank c (List.mem_append_right _ hc))
      (fun c hc => Text.not_isBlank_of_isVisible (hvisible c hc)) hne
  rw [incoming?, if_pos htrust, hheader, Option.bind_some, Http.HeaderValue.toText?_encode hplain,
    Option.map_some, htrim, Option.filter_some, if_pos hid]

end IdPolicy

end RequestScope
