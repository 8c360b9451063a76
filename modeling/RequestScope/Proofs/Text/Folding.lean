import Mathlib.Data.List.TakeWhile
import RequestScope.Proofs.Http.Spelling
import RequestScope.Text.Blank
import RequestScope.Text.LowerCase

/-!
# Case and white space

When texts are lowered and trimmed before they are compared, which of them become one. Lower case is taken
from the whole of Unicode, and so it leads from characters beyond ASCII into ASCII. But it does so in one
piece for the sign of the kelvin alone, which becomes a `k`: a text that is lowered to a word of ASCII without
that letter is the word itself, up to the case of its ASCII letters. `LowersTo` leaves open which of the two
small sigmas a capital one becomes, and nothing here depends on that.
-/

namespace RequestScope.Text

/-! ### Where lower case leads -/

theorem lowerChar_of_ascii {c : Char} (h : c.toNat < 0x80) : lowerChar c = [c.toLower] :=
  Http.forall_ascii (p := fun c => lowerChar c = [c.toLower]) (by decide +kernel) h

/-- A character that is the whole lower case of nothing beyond ASCII. -/
def IsOwn (c : Char) : Prop := c.toNat < 0x80 ∧ c ≠ 'k'

instance (c : Char) : Decidable (IsOwn c) := inferInstanceAs (Decidable (_ ∧ _))

/-- A run of the case table stays in ASCII, or stays out of it, or is that of the kelvin sign. -/
theorem CaseRun.leads {r : CaseRun} (h : r ∈ caseRuns) :
    r.last < 0x80 ∨ (r.first = r.last ∧ r.target = 'k'.toNat) ∨
      0x80 ≤ r.target ∧ ∀ n ≤ r.last - r.first, (r.target + n).isValidChar := by
  have htable : caseRuns.all fun r => r.last < 0x80 || (r.first == r.last && r.target == 'k'.toNat) ||
      (0x80 ≤ r.target && (r.target + (r.last - r.first) < 0xd800 ||
        (0xdfff < r.target && r.target + (r.last - r.first) < 0x110000))) := by decide +kernel
  have hrun := List.all_eq_true.mp htable r h
  simp only [Bool.or_eq_true, Bool.and_eq_true, decide_eq_true_eq, beq_iff_eq] at hrun
  obtain (hascii | hkelvin) | ⟨hlow, hrange⟩ := hrun
  · exact .inl hascii
  · exact .inr (.inl hkelvin)
  · refine .inr (.inr ⟨hlow, fun n hn => ?_⟩)
    rw [Nat.isValidChar]
    omega

/-- A character beyond ASCII brings into the lower case something that is beyond ASCII as well, or a `k`. -/
theorem exists_not_isOwn {c : Char} (h : ¬ c.toNat < 0x80) : ∃ d ∈ lowerChar c, ¬ IsOwn d := by
  rw [lowerChar]
  split
  · exact ⟨Char.ofNat 0x307, by decide, by decide⟩
  · split
    · rename_i r hfind
      have hcovers : r.covers c.toNat := List.find?_some (p := fun r : CaseRun => r.covers c.toNat) hfind
      simp only [CaseRun.covers, Bool.and_eq_true, decide_eq_true_eq, beq_iff_eq] at hcovers
      refine ⟨_, List.mem_singleton_self _, ?_⟩
      obtain hascii | ⟨hsingle, htarget⟩ | ⟨hlow, hvalid⟩ := CaseRun.leads (List.mem_of_find?_eq_some hfind)
      · omega
      · have hk : r.target + (c.toNat - r.first) = 'k'.toNat := by omega
        rw [hk, Char.ofNat_toNat]
        decide
      · have htoNat : (Char.ofNat (r.target + (c.toNat - r.first))).toNat = r.target + (c.toNat - r.first) := by
          rw [Char.ofNat, dif_pos (hvalid _ (by omega))]
          rfl
        rw [IsOwn, htoNat]
        omega
    · exact ⟨c, List.mem_singleton_self _, fun hown => h hown.1⟩

theorem toLower_eq_self {c : Char} (h : ¬ c.toNat < 0x80) : c.toLower = c := by
  refine dif_neg ?_
  rintro ⟨-, hle⟩
  exact h (Nat.lt_of_le_of_lt (UInt32.le_iff_toNat_le.mp hle) (by decide))

/-- What ends in ASCII when its ASCII letters are lowered comes from ASCII. -/
theorem ascii_of_toLower {c : Char} (h : c.toLower.toNat < 0x80) : c.toNat < 0x80 := by
  by_contra hout
  rw [toLower_eq_self hout] at h
  exact hout h

/-- The lower case of some characters, with either of the small sigmas for a capital one. -/
inductive LowersTo : List Char → List Char → Prop
  | nil : LowersTo [] []
  | char (c : Char) {cs low : List Char} (h : LowersTo cs low) : LowersTo (c :: cs) (lowerChar c ++ low)
  | sigma {cs low : List Char} (h : LowersTo cs low) : LowersTo ('Σ' :: cs) ('ς' :: low)

theorem lowersTo_lower (s : String) : LowersTo s.toList (lower s).toList := by
  rw [lower, String.toList_ofList]
  induction s.toList with
  | nil => exact .nil
  | cons c cs ih =>
    rw [List.flatMap_cons]
    exact .char c ih

namespace LowersTo

variable {cs low : List Char}

theorem eq_map_of_isOwn (h : LowersTo cs low) (hlow : ∀ d ∈ low, IsOwn d) : cs.map Char.toLower = low := by
  induction h with
  | nil => rfl
  | char c h ih =>
    rw [List.forall_mem_append] at hlow
    have hascii : c.toNat < 0x80 := by
      by_contra hout
      obtain ⟨d, hd, hnot⟩ := exists_not_isOwn hout
      exact hnot (hlow.1 d hd)
    rw [List.map_cons, ih hlow.2, lowerChar_of_ascii hascii, List.singleton_append]
  | sigma h ih => exact absurd (hlow 'ς' List.mem_cons_self) (by decide)

theorem eq_map_of_ascii (h : LowersTo cs low) (hcs : ∀ c ∈ cs, c.toNat < 0x80) : cs.map Char.toLower = low := by
  induction h with
  | nil => rfl
  | char c h ih =>
    rw [List.forall_mem_cons] at hcs
    rw [List.map_cons, ih hcs.2, lowerChar_of_ascii hcs.1, List.singleton_append]
  | sigma h ih => exact absurd (hcs 'Σ' List.mem_cons_self) (by decide)

end LowersTo

/-! ### Equality up to case -/

/-- Two texts are equal up to the case of their ASCII letters. `Char.toLower` changes no other characters. -/
def EqUpToCase (s t : String) : Prop := s.toList.map Char.toLower = t.toList.map Char.toLower

/-- A word of ASCII in lower case without the letter that the kelvin sign becomes. -/
def IsPlainWord (word : String) : Prop := ∀ c ∈ word.toList, IsOwn c ∧ c.toLower = c

-- There are finitely many characters, and an instance that is searched for may go through all of them.
instance (word : String) : Decidable (IsPlainWord word) := List.decidableBAll _ _

theorem IsPlainWord.map_toLower {word : String} (h : IsPlainWord word) :
    word.toList.map Char.toLower = word.toList :=
  (List.map_congr_left fun c hc => (h c hc).2).trans (List.map_id _)

/-- Nothing is lowered to a plain word but what differs from it in the case of ASCII letters alone. -/
theorem LowersTo.eq_word_iff {s low word : String} (h : LowersTo s.toList low.toList) (hword : IsPlainWord word) :
    low = word ↔ EqUpToCase s word := by
  rw [EqUpToCase, hword.map_toLower]
  constructor
  · rintro rfl
    exact h.eq_map_of_isOwn fun d hd => (hword d hd).1
  · intro heq
    have hascii : ∀ c ∈ s.toList, c.toNat < 0x80 := fun c hc =>
      ascii_of_toLower (hword _ (heq ▸ List.mem_map_of_mem hc)).1.1
    rw [← String.toList_inj, ← h.eq_map_of_ascii hascii, heq]

/-! ### White space at the ends -/

theorem isBlank_toLower (c : Char) : isBlank c.toLower = isBlank c := by
  by_cases hascii : c.toNat < 0x80
  · exact Http.forall_ascii (p := fun c => isBlank c.toLower = isBlank c) (by decide +kernel) hascii
  · rw [toLower_eq_self hascii]

theorem toList_trim (s : String) : (trim s).toList = trimEnd (trimStart s.toList) := String.toList_ofList

theorem map_toLower_trim (s : String) :
    (trim s).toList.map Char.toLower = trimEnd (trimStart (s.toList.map Char.toLower)) := by
  have hblank : isBlank ∘ Char.toLower = isBlank := funext isBlank_toLower
  rw [toList_trim, trimStart, trimStart, trimEnd, trimEnd, List.dropWhile_map, hblank, ← List.map_reverse,
    List.dropWhile_map, hblank, List.map_reverse]

theorem EqUpToCase.trim {s t : String} (h : EqUpToCase s t) : EqUpToCase (Text.trim s) (Text.trim t) := by
  rw [EqUpToCase, map_toLower_trim, map_toLower_trim, h]

theorem trimEnd_append {right : List Char} (hright : ∀ c ∈ right, isBlank c) (cs : List Char) :
    trimEnd (cs ++ right) = trimEnd cs := by
  rw [trimEnd, List.reverse_append, List.dropWhile_append_of_pos (by simpa using hright), trimEnd]

/-- What is put around a text of white space is trimmed off, whatever the text begins and ends with. -/
theorem trim_surrounded {left right : String} (hblank : ∀ c ∈ left.toList ++ right.toList, isBlank c)
    (text : String) : trim (left ++ text ++ right) = trim text := by
  rw [List.forall_mem_append] at hblank
  have hstart : trimStart (left ++ text ++ right).toList = trimStart (text.toList ++ right.toList) := by
    rw [String.toList_append, String.toList_append, List.append_assoc, trimStart,
      List.dropWhile_append_of_pos hblank.1, trimStart]
  rw [trim, trim, hstart, trimStart, List.dropWhile_append]
  split
  · -- The text itself is white space, and then so is all that stands behind the left end.
    rename_i hnil
    rw [List.dropWhile_eq_nil_iff.mpr hblank.2, trimStart, List.isEmpty_iff.mp hnil]
  · rw [trimEnd_append hblank.2, trimStart]

end RequestScope.Text
