import RequestScope.Proofs.Text.Unsigned
import RequestScope.Settings.Server

/-!
# When a server starts

Whatever the environment holds, the limits that it asks for decide whether a server starts: one cannot
divide by a rate of zero, other limits that are of no use are refused, and with all others the server
goes on to its address. A limit is zero only where a variable spells zero, for the defaults are not zero
and stand in for all that is refused.
-/

namespace RequestScope.Settings

/-- Whether a text is a row of zeros, perhaps behind a plus sign. -/
def SpellsZero (text : String) : Prop :=
  ∃ zeros, (text.toList = zeros ∨ text.toList = '+' :: zeros) ∧ zeros ≠ [] ∧ ∀ c ∈ zeros, c = '0'

theorem parseUnsigned_eq_ok_zero_iff {limit : Nat} {text : String} :
    Text.parseUnsigned limit text = .ok 0 ↔ SpellsZero text := by
  rw [Text.parseUnsigned_eq_ok_iff]
  constructor
  · rintro ⟨digits, htext, hne, hdigits, hzero, -⟩
    exact ⟨digits, htext, hne, ((Text.spelledFrom_eq_zero_iff hdigits).mp hzero).2⟩
  · rintro ⟨zeros, htext, hne, hzeros⟩
    have hdigits : ∀ c ∈ zeros, c.isDigit := fun c hc => by
      rw [hzeros c hc]
      decide
    exact ⟨zeros, htext, hne, hdigits, (Text.spelledFrom_eq_zero_iff hdigits).mpr ⟨rfl, hzeros⟩,
      Nat.zero_le limit⟩

theorem readLimit_eq_zero_iff {vars : Variables} {name : String} {limit byDefault : Nat}
    (hdefault : byDefault ≠ 0) :
    (readLimit vars name limit byDefault).1 = 0 ↔
      ∃ text, vars.text? name = some text ∧ SpellsZero text := by
  rw [readLimit]
  cases vars.text? name with
  | none => simp [hdefault]
  | some text =>
    have hzero : Text.parseUnsigned limit text = .ok 0 ↔ SpellsZero text := parseUnsigned_eq_ok_zero_iff
    cases hparse : Text.parseUnsigned limit text with
    | ok n => simp [← hzero, hparse]
    | error fault => simp [← hzero, hparse, hdefault]

/-- The environment decides as its limits do, and a limit is zero only if its variable spells zero. A
rate of zero comes before everything else: the period is computed before the limits are looked at. -/
theorem start_eq_by_limits (vars : Variables) :
    let limits := (RateLimit.ofVariables vars).1
    start vars =
      (if limits.perSecond = 0 then .error .divisionByZero
      else if limits.burstSize = 0 ∨ nanosecondsPerSecond < limits.perSecond then .error .unusableLimit
      else .ok (Address.ofVariables vars)) ∧
    (limits.perSecond = 0 ↔
      ∃ text, vars.text? "RATE_LIMIT_PER_SECOND" = some text ∧ SpellsZero text) ∧
    (limits.burstSize = 0 ↔
      ∃ text, vars.text? "RATE_LIMIT_BURST_SIZE" = some text ∧ SpellsZero text) := by
  intro limits
  refine ⟨?_, readLimit_eq_zero_iff (by decide), readLimit_eq_zero_iff (by decide)⟩
  have hstart : start vars = limits.period >>= fun period =>
      if limits.burstSize = 0 ∨ period = 0 then .error .unusableLimit
      else .ok (Address.ofVariables vars) := rfl
  rw [hstart]
  by_cases hzero : limits.perSecond = 0
  · rw [if_pos hzero, RateLimit.period, if_pos hzero]
    rfl
  · have hperiod : nanosecondsPerSecond / limits.perSecond = 0 ↔
        nanosecondsPerSecond < limits.perSecond := by
      rw [Nat.div_eq_zero_iff, or_iff_right hzero]
    rw [if_neg hzero, RateLimit.period, if_neg hzero]
    simp only [← hperiod]
    rfl

/-- A rate of zero is not refused as the other limits are that are of no use. -/
theorem start_divides_by_zero :
    let vars : Variables := .ofList [("RATE_LIMIT_PER_SECOND", Text.Utf8.encode "0")]
    (RateLimit.ofVariables vars).1 = ⟨0, 200⟩ ∧ start vars = .error .divisionByZero :=
  ⟨by decide, rfl⟩

end RequestScope.Settings
