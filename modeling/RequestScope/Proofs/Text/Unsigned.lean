import RequestScope.Text.Unsigned

/-!
# What unsigned numbers spell

The texts that `parseUnsigned` reads, and as what: a row of digits, perhaps behind a plus sign, whose
number does not pass the limit. That the limit is compared after every digit makes no difference, since
a row never spells less than a row in front of it. What is wrong with any other text is told by the row
of digits at its beginning.
-/

namespace RequestScope.Text

/-- The number that a row of digits spells behind digits of the given number. -/
def spelledFrom (value : Nat) (digits : List Char) : Nat :=
  digits.foldl (fun value c => value * 10 + (c.toNat - '0'.toNat)) value

theorem le_spelledFrom (value : Nat) (digits : List Char) : value ≤ spelledFrom value digits := by
  induction digits generalizing value with
  | nil => exact Nat.le_refl value
  | cons c digits ih =>
    have hnext : value * 10 + (c.toNat - '0'.toNat) ≤ spelledFrom value (c :: digits) := ih _
    omega

theorem unsignedFrom_eq_ok_iff {limit value n : Nat} {digits : List Char} (hvalue : value ≤ limit) :
    unsignedFrom limit digits value = .ok n ↔
      (∀ c ∈ digits, c.isDigit) ∧ spelledFrom value digits = n ∧ n ≤ limit := by
  induction digits generalizing value with
  | nil =>
    rw [unsignedFrom, Except.ok.injEq]
    constructor
    · rintro rfl
      exact ⟨fun _ h => absurd h List.not_mem_nil, rfl, hvalue⟩
    · exact fun h => h.2.1
  | cons c digits ih =>
    have hspelled : spelledFrom value (c :: digits) =
        spelledFrom (value * 10 + (c.toNat - '0'.toNat)) digits := rfl
    rw [unsignedFrom, hspelled, List.forall_mem_cons]
    by_cases hdigit : c.isDigit
    · simp only [hdigit, Bool.not_true, Bool.false_eq_true, if_false, true_and]
      by_cases hlimit : limit < value * 10 + (c.toNat - '0'.toNat)
      · rw [if_pos hlimit]
        have hle := le_spelledFrom (value * 10 + (c.toNat - '0'.toNat)) digits
        constructor
        · exact fun h => nomatch h
        · rintro ⟨-, rfl, hn⟩
          omega
      · rw [if_neg hlimit]
        exact ih (Nat.le_of_not_lt hlimit)
    · simp [hdigit]

/-- A text is read as `n` exactly if it spells `n` in digits, and `n` is within the limit. -/
theorem parseUnsigned_eq_ok_iff {limit n : Nat} {s : String} :
    parseUnsigned limit s = .ok n ↔
      ∃ digits, (s.toList = digits ∨ s.toList = '+' :: digits) ∧ digits ≠ [] ∧
        (∀ c ∈ digits, c.isDigit) ∧ spelledFrom 0 digits = n ∧ n ≤ limit := by
  have hplus : ¬ '+'.isDigit := by decide
  have hread (digits : List Char) : unsignedFrom limit digits 0 = .ok n ↔ _ :=
    unsignedFrom_eq_ok_iff (Nat.zero_le limit)
  rw [parseUnsigned]
  split
  case h_1 hs =>
    rw [hs]
    constructor
    · exact fun h => nomatch h
    · rintro ⟨digits, rfl | h, hne, -⟩
      · exact absurd rfl hne
      · cases h
  case h_2 hs =>
    rw [hs]
    constructor
    · exact fun h => nomatch h
    · rintro ⟨digits, rfl | h, hne, hdigits, -⟩
      · exact absurd (hdigits '+' List.mem_cons_self) hplus
      · cases h
        exact absurd rfl hne
  case h_3 digits hne hs =>
    rw [hs, hread]
    constructor
    · exact fun h => ⟨digits, .inr rfl, hne, h⟩
    · rintro ⟨digits', rfl | h, -, hdigits⟩
      · exact absurd (hdigits.1 '+' List.mem_cons_self) hplus
      · cases h
        exact hdigits
  case h_4 hnil _ hsign =>
    rw [hread]
    constructor
    · exact fun h => ⟨s.toList, .inl rfl, hnil, h⟩
    · rintro ⟨digits, hs | hs, -, hdigits⟩
      · rw [hs]
        exact hdigits
      · exact absurd hs (hsign digits)

theorem spelledFrom_eq_zero_iff {value : Nat} {digits : List Char} (hdigits : ∀ c ∈ digits, c.isDigit) :
    spelledFrom value digits = 0 ↔ value = 0 ∧ ∀ c ∈ digits, c = '0' := by
  induction digits generalizing value with
  | nil => simp [spelledFrom]
  | cons c digits ih =>
    obtain ⟨hc, hdigits⟩ := List.forall_mem_cons.mp hdigits
    have hrange := Char.isDigit_iff_toNat.mp hc
    have hspelled : spelledFrom value (c :: digits) =
        spelledFrom (value * 10 + (c.toNat - '0'.toNat)) digits := rfl
    have hzero : c.toNat - '0'.toNat = 0 ↔ c = '0' := by
      rw [← Char.toNat_inj]
      omega
    have hnext : value * 10 + (c.toNat - '0'.toNat) = 0 ↔ value = 0 ∧ c.toNat - '0'.toNat = 0 := by
      omega
    rw [hspelled, ih hdigits, List.forall_mem_cons, hnext, hzero, and_assoc]

/-! ### What is wrong with a text -/

/-- Why a row of characters spells no number up to a limit behind digits of the given number: the digits at
its beginning already spell too much, or they are not all of it. -/
def faultFrom? (limit value : Nat) (cs : List Char) : Option NumberFault :=
  if limit < spelledFrom value (cs.takeWhile Char.isDigit) then some .tooLarge
  else if cs.all Char.isDigit then none
  else some .invalidDigit

/-- Why a text spells no number up to a limit: it is empty, or a lone sign, or there is something wrong with
it behind the plus sign that it may begin with. -/
def faultOf? (limit : Nat) (s : String) : Option NumberFault :=
  if s.toList = [] then some .empty
  else if s.toList = ['+'] then some .invalidDigit
  else faultFrom? limit 0 (if s.toList.head? = some '+' then s.toList.tail else s.toList)

theorem faultFrom?_digit {limit value : Nat} {c : Char} (cs : List Char) (hdigit : c.isDigit) :
    faultFrom? limit value (c :: cs) = faultFrom? limit (value * 10 + (c.toNat - '0'.toNat)) cs := by
  simp [faultFrom?, spelledFrom, hdigit]

theorem unsignedFrom_eq_error_iff {limit value : Nat} {cs : List Char} {fault : NumberFault}
    (hvalue : value ≤ limit) :
    unsignedFrom limit cs value = .error fault ↔ faultFrom? limit value cs = some fault := by
  induction cs generalizing value with
  | nil =>
    have hspelled : ¬ limit < spelledFrom value [] := Nat.not_lt.mpr hvalue
    simp [unsignedFrom, faultFrom?, hspelled]
  | cons c cs ih =>
    by_cases hdigit : c.isDigit
    · rw [unsignedFrom, faultFrom?_digit cs hdigit]
      simp only [hdigit, Bool.not_true, Bool.false_eq_true, if_false]
      by_cases hlimit : limit < value * 10 + (c.toNat - '0'.toNat)
      · have hle := le_spelledFrom (value * 10 + (c.toNat - '0'.toNat)) (cs.takeWhile Char.isDigit)
        rw [if_pos hlimit, faultFrom?, if_pos (Nat.lt_of_lt_of_le hlimit hle), Except.error.injEq,
          Option.some_inj]
      · rw [if_neg hlimit]
        exact ih (Nat.le_of_not_lt hlimit)
    · have hspelled : ¬ limit < spelledFrom value [] := Nat.not_lt.mpr hvalue
      simp [unsignedFrom, faultFrom?, hdigit, hspelled]

/-- A text is refused with the fault that it has. -/
theorem parseUnsigned_eq_error_iff {limit : Nat} {s : String} {fault : NumberFault} :
    parseUnsigned limit s = .error fault ↔ faultOf? limit s = some fault := by
  rw [parseUnsigned, faultOf?]
  split
  case h_1 hs => simp [hs]
  case h_2 hs => simp [hs]
  case h_3 digits hne hs =>
    have hne : digits ≠ [] := hne
    simpa [hs, hne] using unsignedFrom_eq_error_iff (Nat.zero_le limit)
  case h_4 hnil hlone hsign =>
    have hhead : s.toList.head? ≠ some '+' := fun h => by
      obtain ⟨digits, hs⟩ := List.head?_eq_some_iff.mp h
      exact hsign digits hs
    rw [if_neg hnil, if_neg hlone, if_neg hhead]
    exact unsignedFrom_eq_error_iff (Nat.zero_le limit)

end RequestScope.Text
