import Mathlib.Data.List.TakeWhile
import RequestScope.Proofs.Context.Aliasing
import RequestScope.Proofs.Http.Identifiers
import RequestScope.Proofs.Http.Spelling

/-!
# How the context of a request begins

What a policy makes of a request, said of the headers as they were sent. `HeaderValue.Brings` says when a
value brings an identifier; a policy that trusts takes the one that the first value under its header brings,
and in all other cases its generator is called once. Either way the context of the request is a new one that
describes the request under three keys.
-/

namespace RequestScope

/-- A value that brings an identifier: from 1 to 128 visible characters of ASCII, and nothing but spaces and
tabs around them. -/
def Http.HeaderValue.Brings (value : HeaderValue) (id : String) : Prop :=
  (1 ≤ id.length ∧ id.length ≤ 128 ∧ ∀ c ∈ id.toList, 0x21 ≤ c.toNat ∧ c.toNat ≤ 0x7e) ∧
    ∃ left right : String, (∀ c ∈ left.toList ++ right.toList, c = ' ' ∨ c = '\t') ∧
      value.octets = Text.Utf8.encode (left ++ id ++ right)

/-! ### Blanks around a text -/

namespace Text

theorem exists_padding (text : String) :
    ∃ left right : String, text = left ++ trim text ++ right ∧
      ∀ c ∈ left.toList ++ right.toList, isBlank c := by
  let rest := text.toList.dropWhile isBlank
  let left := text.toList.takeWhile isBlank
  let right := (rest.reverse.takeWhile isBlank).reverse
  have hrest : trimEnd rest ++ right = rest := by
    rw [trimEnd, ← List.reverse_append, List.takeWhile_append_dropWhile, List.reverse_reverse]
  refine ⟨String.ofList left, String.ofList right, ?_, fun c hc => ?_⟩
  · rw [← String.toList_inj, String.toList_append, String.toList_append, trim, String.toList_ofList,
      String.toList_ofList, String.toList_ofList, List.append_assoc]
    exact (List.takeWhile_append_dropWhile.symm.trans (congrArg (left ++ ·) hrest.symm))
  · rw [String.toList_ofList, String.toList_ofList, List.mem_append, List.mem_reverse] at hc
    obtain hc | hc := hc
    · exact List.mem_takeWhile_imp hc
    · exact List.mem_takeWhile_imp hc

end Text

namespace Http

/-- Of the blanks, only two kinds can stand around a plain text. -/
theorem exists_plain_padding {text : String} (hplain : ∀ c ∈ text.toList, IsPlain c) :
    ∃ left right : String, text = left ++ Text.trim text ++ right ∧
      ∀ c ∈ left.toList ++ right.toList, c = ' ' ∨ c = '\t' := by
  obtain ⟨left, right, hpadded, hblank⟩ := Text.exists_padding text
  refine ⟨left, right, hpadded, fun c hc => ?_⟩
  have hmem : c ∈ text.toList := by
    rw [hpadded]
    simp only [String.toList_append, List.mem_append] at hc ⊢
    tauto
  exact (hplain c hmem).resolve_left fun hvisible => Text.not_isBlank_of_isVisible hvisible (hblank c hc)

theorem ofNat_of_isRead {b : UInt8} (h : (0x20 ≤ b && b < 0x7f) || b == 0x09) :
    IsPlain (Char.ofNat b.toNat) ∧ (Char.ofNat b.toNat).toUInt8 = b := by
  have hspace : (0x20 : UInt8).toNat = 0x20 := rfl
  have hdelete : (0x7f : UInt8).toNat = 0x7f := rfl
  have htab : (0x09 : UInt8).toNat = 0x09 := rfl
  simp only [Bool.or_eq_true, Bool.and_eq_true, decide_eq_true_eq, beq_iff_eq, UInt8.le_iff_toNat_le,
    UInt8.lt_iff_toNat_lt, ← UInt8.toNat_inj, hspace, hdelete, htab] at h
  have hnat : (Char.ofNat b.toNat).toNat = b.toNat :=
    (by decide : ∀ n < 0x80, (Char.ofNat n).toNat = n) b.toNat (by omega)
  have hplain : IsPlain (Char.ofNat b.toNat) := by
    by_cases hblank : b.toNat = 0x20 ∨ b.toNat = 0x09
    · obtain hblank | hblank := hblank
      · rw [hblank]
        exact .inr (.inl rfl)
      · rw [hblank]
        exact .inr (.inr rfl)
    · refine .inl (isVisible_iff.mpr ?_)
      omega
  refine ⟨hplain, ?_⟩
  rw [← UInt8.toNat_inj, Text.Utf8.toNat_toUInt8 hplain.toNat_lt, hnat]

/-- A value that can be read is the one that spells what was read. -/
theorem HeaderValue.octets_of_toText? {value : HeaderValue} {text : String} (h : value.toText? = some text) :
    value.octets = Text.Utf8.encode text ∧ ∀ c ∈ text.toList, IsPlain c := by
  rw [toText?] at h
  split at h
  · rename_i hall
    have hread : ∀ b ∈ value.octets, IsPlain (Char.ofNat b.toNat) ∧ (Char.ofNat b.toNat).toUInt8 = b :=
      fun b hb => ofNat_of_isRead (List.all_eq_true.mp hall b hb)
    cases h
    have hchars : ∀ c ∈ (String.ofList (value.octets.map fun b => Char.ofNat b.toNat)).toList, IsPlain c := by
      intro c hc
      rw [String.toList_ofList, List.mem_map] at hc
      obtain ⟨b, hb, rfl⟩ := hc
      exact (hread b hb).1
    refine ⟨?_, hchars⟩
    rw [Text.Utf8.encode_eq_map fun c hc => (hchars c hc).toNat_lt, String.toList_ofList, List.map_map]
    exact ((List.map_congr_left fun b hb => (hread b hb).2).trans (List.map_id _)).symm
  · cases h

end Http

theorem isAcceptableId_iff_length {id : String} :
    isAcceptableId id ↔
      1 ≤ id.length ∧ id.length ≤ 128 ∧ ∀ c ∈ id.toList, 0x21 ≤ c.toNat ∧ c.toNat ≤ 0x7e := by
  have hlength : id.toList.length = id.length := String.length_toList
  rw [isAcceptableId_iff, ← List.length_pos_iff, hlength]
  simp only [isVisible_iff]
  rfl

/-! ### The identifier of a request -/

namespace IdPolicy

theorem incoming?_eq_some_iff {policy : IdPolicy} {request : Http.Request} {id : String} :
    policy.incoming? request = some id ↔
      policy.trustIncoming ∧ ∃ value, request.headers.first? policy.header = some value ∧ value.Brings id := by
  constructor
  · intro h
    have hid := isAcceptableId_of_incoming? h
    rw [incoming?] at h
    split at h
    · rename_i htrust
      obtain ⟨text, htext, rfl⟩ := Option.map_eq_some_iff.mp (Option.filter_eq_some_iff.mp h).1
      obtain ⟨value, hvalue, htext⟩ := Option.bind_eq_some_iff.mp htext
      obtain ⟨hoctets, hplain⟩ := Http.HeaderValue.octets_of_toText? htext
      obtain ⟨left, right, hpadded, hpads⟩ := Http.exists_plain_padding hplain
      refine ⟨htrust, value, hvalue, isAcceptableId_iff_length.mp hid, left, right, hpads, ?_⟩
      rw [hoctets, ← hpadded]
    · cases h
  · rintro ⟨htrust, ⟨octets⟩, hvalue, hid, left, right, hpads, rfl⟩
    exact incoming?_of_padded htrust (isAcceptableId_iff_length.mpr hid) hpads hvalue

end IdPolicy

/-! ### New contexts -/

namespace Store

/-- Whether a name stands for entries that no other name shares. -/
structure IsFresh (s : Store) (name : String) (entries : Entries) : Prop where
  entries_eq : s.answer (.entries name) = .entries entries
  unshared : ∀ other, s.Shares name other → other = name

theorem isFresh_create (operations : List Operation) (name : String) (entries : Entries) :
    ((run {} operations).1.after (.create name entries)).IsFresh name entries := by
  obtain ⟨cell, hl⟩ := run_describes describes_empty operations
  generalize (run {} operations).1 = s at hl
  let own : Handle := ⟨0, s.made⟩
  have hget (other : String) :
      (s.after (.create name entries)).names.get? other = if name = other then some own else s.names.get? other :=
    SortedMap.get?_insert ..
  have hname : (s.after (.create name entries)).names.get? name = some own := by rw [hget, if_pos rfl]
  refine ⟨?_, fun other hshares => ?_⟩
  · rw [answer, apply, ask, withHandle_some hname]
    change Reply.entries ((s.heap.write own entries).read own) = _
    rw [Heap.read_write, if_pos rfl]
  · obtain ⟨h, hfound, hother⟩ := shares_iff.mp hshares
    cases hname.symm.trans hfound
    by_contra hne
    rw [hget, if_neg (Ne.symm hne), hl.names] at hother
    obtain ⟨i, hi, hcell⟩ := Option.map_eq_some_iff.mp hother
    have hlt := hl.serial_lt i (hl.current_lt other i hi)
    rw [hcell] at hlt
    exact Nat.lt_irrefl _ hlt

end Store

namespace Initializer

theorem toList_describe (request : Http.Request) (id : String) :
    (describe request id).toList =
      [("http_method", .string request.method), ("path", .string request.target.path),
        ("request_id", .string id)] := by
  have hmethod : Entries.methodKey < Entries.requestIdKey := by decide
  have hpath : ¬ Entries.pathKey < Entries.methodKey ∧ Entries.pathKey ≠ Entries.methodKey ∧
      Entries.pathKey < Entries.requestIdKey := by decide
  simp only [describe, SortedMap.ofList, List.foldl_cons, List.foldl_nil, SortedMap.insert, SortedMap.empty,
    SortedMap.insertEntry, if_pos hmethod, if_neg hpath.1, if_neg hpath.2.1, if_pos hpath.2.2]
  rfl

/-- The context of a request holds its method, its path and its identifier, and nothing else. The
identifier is the one which the first value under the policy's header brings, if such identifiers are
trusted; otherwise it is generated, by the one call that is made. Whatever was done before, no other handle
shares the context. -/
theorem request_decides (policy : IdPolicy) (method : String) (target : Http.Target) (lines : List Http.Line)
    (body : List UInt8) (ids : IdSupply) :
    let made := (Initializer.request policy).entries ⟨method, target, .ofLines lines, body⟩ ids
    let first := Http.Line.first? lines policy.header
    ∃ id,
      made.1.toList =
        [("http_method", .string method), ("path", .string target.path), ("request_id", .string id)] ∧
      (∀ value incoming, policy.trustIncoming → first = some value → value.Brings incoming →
        id = incoming ∧ made.2 = ids) ∧
      (¬ (policy.trustIncoming ∧ ∃ value incoming, first = some value ∧ value.Brings incoming) →
        id = ids.source policy.format ids.calls.length ∧
          made.2 = { ids with calls := policy.format :: ids.calls }) ∧
      ∀ operations name, ((Store.run {} operations).1.after (.create name made.1)).IsFresh name made.1 := by
  intro made first
  let request : Http.Request := ⟨method, target, .ofLines lines, body⟩
  have hfirst : request.headers.first? policy.header = first := Http.Headers.first?_ofLines lines policy.header
  have hfresh (operations : List Operation) (name : String) := Store.isFresh_create operations name made.1
  have hmade : made = (describe request (policy.choose request ids).1, (policy.choose request ids).2) := rfl
  refine ⟨(policy.choose request ids).1, toList_describe request _, ?_, ?_, hfresh⟩
  · intro value incoming htrust hvalue hbrings
    have hincoming : policy.incoming? request = some incoming :=
      IdPolicy.incoming?_eq_some_iff.mpr ⟨htrust, value, hfirst.trans hvalue, hbrings⟩
    have hchoose : policy.choose request ids = (incoming, ids) := by rw [IdPolicy.choose, hincoming]
    rw [hmade, hchoose]
    exact ⟨rfl, rfl⟩
  · intro hnot
    have hincoming : policy.incoming? request = none := by
      refine Option.eq_none_iff_forall_ne_some.mpr fun incoming hincoming => hnot ?_
      obtain ⟨htrust, value, hvalue, hbrings⟩ := IdPolicy.incoming?_eq_some_iff.mp hincoming
      exact ⟨htrust, value, incoming, hfirst.symm.trans hvalue, hbrings⟩
    have hchoose : policy.choose request ids = ids.next policy.format := by rw [IdPolicy.choose, hincoming]
    rw [hmade, hchoose]
    exact ⟨rfl, rfl⟩

/-- Of two values under one header, spelled in two ways, the first counts alone: with a tab and a space
around it it brings its identifier, and with an octet beyond ASCII it brings none. -/
theorem request_decides_repeated :
    let policy : IdPolicy := { header := Settings.defaultIdHeader }
    let ids := IdSupply.ofSource .mock
    let padded : Http.Line := ⟨"X-Request-ID", .ofAscii "\tfirst ", by decide⟩
    let broken : Http.Line := ⟨"X-REQUEST-ID", ⟨[0x61, 0xff]⟩, by decide⟩
    let later : Http.Line := ⟨"x-request-id", .ofAscii "later", by decide⟩
    let made (lines : List Http.Line) :=
      (Initializer.request policy).entries ⟨"GET", ⟨"/", none⟩, .ofLines lines, []⟩ ids
    let described (id : String) : List (String × Json) :=
      [("http_method", .string "GET"), ("path", .string "/"), ("request_id", .string id)]
    (Http.Line.first? [padded, later] policy.header = some padded.value ∧ padded.value.Brings "first" ∧
      (made [padded, later]).1.toList = described "first" ∧ (made [padded, later]).2.calls = []) ∧
    (∀ id, ¬ broken.value.Brings id) ∧
      (made [broken, later]).1.toList = described mockV4 ∧ (made [broken, later]).2.calls = [.v4] := by
  intro policy ids padded broken later made described
  have hpadded : Http.Line.first? [padded, later] policy.header = some padded.value := by decide
  have hbrings : padded.value.Brings "first" :=
    ⟨⟨by decide, by decide, by simp⟩, "\t", " ", by simp, by decide⟩
  have hbroken : ∀ id, ¬ broken.value.Brings id := by
    intro id hbrings
    let request : Http.Request := ⟨"GET", ⟨"/", none⟩, .ofLines [broken], []⟩
    have hnone : policy.incoming? request = none := by decide
    cases hnone.symm.trans (IdPolicy.incoming?_eq_some_iff.mpr ⟨rfl, broken.value, by decide, hbrings⟩)
  refine ⟨⟨hpadded, hbrings, ?_⟩, hbroken, ?_⟩
  · obtain ⟨id, htoList, htaken, -⟩ := request_decides policy "GET" ⟨"/", none⟩ [padded, later] [] ids
    obtain ⟨rfl, hids⟩ := htaken padded.value "first" rfl hpadded hbrings
    exact ⟨htoList, congrArg IdSupply.calls hids⟩
  · obtain ⟨id, htoList, -, hgenerated, -⟩ := request_decides policy "GET" ⟨"/", none⟩ [broken, later] [] ids
    have hfirst : Http.Line.first? [broken, later] policy.header = some broken.value := by decide
    obtain ⟨rfl, hids⟩ := hgenerated fun ⟨_, value, incoming, hvalue, hbrings⟩ => by
      cases hfirst.symm.trans hvalue
      exact hbroken incoming hbrings
    exact ⟨htoList, congrArg IdSupply.calls hids⟩

end Initializer

end RequestScope
