import RequestScope.Proofs.Http.Spelling
import RequestScope.Proofs.Settings.Keywords
import RequestScope.Proofs.Text.Unsigned
import RequestScope.Settings.Context
import RequestScope.Settings.Server

/-!
# Settings are read one by one

Ten variables set up a server, and each is read on its own: what it is set to counts if it has a meaning,
and otherwise the default, whatever the other variables hold. `IsSetting` says this of one variable. What
is logged is a record for each variable that is set and refused, in the order in which they are read.
-/

namespace RequestScope.Settings

/-- What is read from the environment is the setting in one variable: the meaning of its text, or the
default if the text has no meaning or there is no text. -/
structure IsSetting {α : Type} (read : Variables → α) (name : String) (means : String → α → Prop)
    (byDefault : α) : Prop where
  accepted {vars : Variables} {raw : String} {value : α} :
    vars.text? name = some raw → means raw value → read vars = value
  refused {vars : Variables} {raw : String} :
    vars.text? name = some raw → (∀ value, ¬ means raw value) → read vars = byDefault
  absent {vars : Variables} : vars.text? name = none → read vars = byDefault
  apart {vars vars' : Variables} : vars.get? name = vars'.get? name → read vars = read vars'

theorem IsSetting.of_parse {α : Type} {read : Variables → α} {name : String}
    {means : String → α → Prop} {byDefault : α} (parse : String → Option α)
    (hread : ∀ vars, read vars = ((vars.text? name).bind parse).getD byDefault)
    (hparse : ∀ raw value, parse raw = some value ↔ means raw value) :
    IsSetting read name means byDefault where
  accepted htext hmeans := by
    rw [hread, htext, Option.bind_some, (hparse _ _).mpr hmeans, Option.getD_some]
  refused {vars raw} htext hmeans := by
    have hnone : parse raw = none :=
      Option.eq_none_iff_forall_ne_some.mpr fun value hvalue => hmeans value ((hparse raw value).mp hvalue)
    rw [hread, htext, Option.bind_some, hnone, Option.getD_none]
  absent htext := by
    rw [hread, htext, Option.bind_none, Option.getD_none]
  apart hget := by
    rw [hread, hread, Variables.text?, Variables.text?, hget]

/-! ### What texts mean -/

/-- A text that spells a number up to a limit, in digits that may stand behind a plus sign. -/
def SpellsNumber (limit : Nat) (raw : String) (n : Nat) : Prop :=
  ∃ digits, (raw.toList = digits ∨ raw.toList = '+' :: digits) ∧ digits ≠ [] ∧
    (∀ c ∈ digits, c.isDigit) ∧ Text.spelledFrom 0 digits = n ∧ n ≤ limit

theorem toOption_parseUnsigned_eq_some_iff {limit n : Nat} {raw : String} :
    (Text.parseUnsigned limit raw).toOption = some n ↔ SpellsNumber limit raw n := by
  rw [SpellsNumber, ← Text.parseUnsigned_eq_ok_iff]
  cases Text.parseUnsigned limit raw with
  | ok k => simp [Except.toOption]
  | error fault => simp [Except.toOption]

/-! ### What is read from a variable -/

theorem readSetting_fst {α : Type} (vars : Variables) (name : String) (parse : String → Option α) :
    (readSetting vars name parse).1 = (vars.text? name).bind parse := by
  rw [readSetting]
  cases vars.text? name with
  | none => rfl
  | some raw =>
    rw [Option.bind_some]
    cases hparse : parse raw with
    | none => simp only [hparse]
    | some value => simp only [hparse]

/-- The text of a variable, if it is refused. -/
def refused? (vars : Variables) (name : String) (accepts : String → Bool) : Option String :=
  (vars.text? name).filter fun raw => !accepts raw

theorem readSetting_snd {α : Type} (vars : Variables) (name : String) (parse : String → Option α) :
    (readSetting vars name parse).2 =
      ((refused? vars name fun raw => (parse raw).isSome).map fun raw =>
        ⟨.error, name ++ " 파싱 실패: '" ++ raw ++ "'. 기본값 사용"⟩).toList := by
  rw [readSetting, refused?]
  cases vars.text? name with
  | none => rfl
  | some raw =>
    rw [Option.filter_some]
    cases hparse : parse raw with
    | none => simp [hparse, refusal]
    | some value => simp [hparse]

/-- What is logged about a number that is refused. -/
def numberRefusal (name : String) (byDefault : Nat) (fault : Text.NumberFault) : LogRecord :=
  let words := match fault with
    | .empty => "cannot parse integer from empty string"
    | .invalidDigit => "invalid digit found in string"
    | .tooLarge => "number too large to fit in target type"
  ⟨.error, name ++ " 파싱 실패: " ++ words ++ ". 기본값 " ++ toString byDefault ++ " 사용"⟩

/-- What is logged about the limits once they are read. -/
def limitsRecord (limits : RateLimit) : LogRecord :=
  ⟨.info, "Rate Limiting 설정 로드됨: RateLimitConfig \x7b per_second: " ++ toString limits.perSecond ++
    ", burst_size: " ++ toString limits.burstSize ++ " \x7d"⟩

theorem readLimit_fst (vars : Variables) (name : String) (limit byDefault : Nat) :
    (readLimit vars name limit byDefault).1 =
      ((vars.text? name).bind fun raw => (Text.parseUnsigned limit raw).toOption).getD byDefault := by
  rw [readLimit]
  cases vars.text? name with
  | none => rfl
  | some raw =>
    rw [Option.bind_some]
    cases hparse : Text.parseUnsigned limit raw with
    | ok n => simp only [hparse]; rfl
    | error fault => simp only [hparse]; rfl

theorem readLimit_snd (vars : Variables) (name : String) (limit byDefault : Nat) :
    (readLimit vars name limit byDefault).2 =
      (((vars.text? name).bind (Text.faultOf? limit)).map (numberRefusal name byDefault)).toList := by
  rw [readLimit]
  cases vars.text? name with
  | none => rfl
  | some raw =>
    rw [Option.bind_some]
    cases hparse : Text.parseUnsigned limit raw with
    | ok n =>
      have hnone : Text.faultOf? limit raw = none :=
        Option.eq_none_iff_forall_ne_some.mpr fun fault hfault => by
          cases hparse.symm.trans (Text.parseUnsigned_eq_error_iff.mpr hfault)
      simp [hparse, hnone]
    | error fault =>
      rw [Text.parseUnsigned_eq_error_iff.mp hparse]
      simp only [hparse]
      cases fault <;> rfl

/-! ### All settings -/

/-- The variables of a request's context in the order in which they are read, and the texts that are
accepted in them. -/
def ContextSettings.variables : List (String × (String → Bool)) :=
  [("REQUEST_CONTEXT_INITIALIZER", fun raw => (InitializerKind.parse? raw).isSome),
   ("REQUEST_ID_HEADER", fun raw => (parseHeaderName? raw).isSome),
   ("REQUEST_ID_TRUST_INCOMING", fun raw => (parseSwitch? raw).isSome),
   ("REQUEST_ID_FORMAT", fun raw => (IdFormat.parse? raw).isSome),
   ("REQUEST_ID_ECHO", fun raw => (parseSwitch? raw).isSome)]

/-- The variables of the limits in the order in which they are read, the greatest numbers that are accepted
in them, and their defaults. -/
def RateLimit.variables : List (String × Nat × Nat) :=
  [("RATE_LIMIT_PER_SECOND", Text.maxOfBits 64, 100), ("RATE_LIMIT_BURST_SIZE", Text.maxOfBits 32, 200)]

theorem Stage.isSetting : IsSetting ofVariables "ENVIRONMENT" (Spells words) .production := by
  refine .of_parse (keyword? words) (fun vars => ?_) fun raw value => keyword?_eq_some_iff_spells plainWords
  rw [ofVariables]
  cases vars.text? "ENVIRONMENT" with
  | none =>
    have hdefault : parse "production" = .production := rfl
    rw [Option.getD_none, hdefault, Option.bind_none, Option.getD_none]
  | some raw => rw [Option.getD_some, parse, Option.bind_some]

theorem Address.host_isSetting : IsSetting (fun vars => (ofVariables vars).host) "HOST" Eq "0.0.0.0" := by
  refine .of_parse some (fun vars => ?_) fun raw value => Option.some_inj
  rw [ofVariables]
  cases vars.text? "HOST" <;> rfl

theorem Address.port_isSetting :
    IsSetting (fun vars => (ofVariables vars).port) "PORT" (SpellsNumber (Text.maxOfBits 16)) 8080 := by
  refine .of_parse (fun raw => (Text.parseUnsigned (Text.maxOfBits 16) raw).toOption)
    (fun vars => ?_) fun raw value => toOption_parseUnsigned_eq_some_iff
  rw [ofVariables]
  cases vars.text? "PORT" <;> rfl

/-- A setting of the request's context. -/
theorem isSetting_readSetting {α : Type} (name : String) {parse : String → Option α}
    {means : String → α → Prop} (byDefault : α) (hparse : ∀ raw value, parse raw = some value ↔ means raw value) :
    IsSetting (fun vars => (readSetting vars name parse).1.getD byDefault) name means byDefault :=
  .of_parse parse (fun vars => congrArg (·.getD byDefault) (readSetting_fst vars name parse)) hparse

theorem isSetting_readLimit (name : String) (limit byDefault : Nat) :
    IsSetting (fun vars => (readLimit vars name limit byDefault).1) name (SpellsNumber limit) byDefault :=
  .of_parse _ (fun vars => readLimit_fst vars name limit byDefault)
    fun _ _ => toOption_parseUnsigned_eq_some_iff

/-- Each of the ten settings is read from its own variable, and no other variable matters to it. A record of
an error is written for each variable that is set and refused, in the order in which they are read, with its
name and its text or with what is wrong about the number. The only other record tells the limits. -/
theorem settings_read_apart :
    (IsSetting (fun vars => (ContextSettings.ofVariables vars).1.initializer) "REQUEST_CONTEXT_INITIALIZER"
        (Spells [("empty", .empty), ("none", .empty), ("request", .request), ("request_id", .request)])
        .request ∧
      IsSetting (fun vars => (ContextSettings.ofVariables vars).1.idHeader) "REQUEST_ID_HEADER"
        (fun raw header => Http.HeaderName.IsSpelling (Text.trim raw) ∧ header = .ofSpelling (Text.trim raw))
        ⟨"x-request-id"⟩ ∧
      IsSetting (fun vars => (ContextSettings.ofVariables vars).1.trustIncoming) "REQUEST_ID_TRUST_INCOMING"
        (Spells [("true", true), ("1", true), ("yes", true), ("on", true),
          ("false", false), ("0", false), ("no", false), ("off", false)]) true ∧
      IsSetting (fun vars => (ContextSettings.ofVariables vars).1.idFormat) "REQUEST_ID_FORMAT"
        (Spells [("v4", .v4), ("uuid4", .v4), ("v7", .v7), ("uuid7", .v7)]) .v4 ∧
      IsSetting (fun vars => (ContextSettings.ofVariables vars).1.echoId) "REQUEST_ID_ECHO"
        (Spells [("true", true), ("1", true), ("yes", true), ("on", true),
          ("false", false), ("0", false), ("no", false), ("off", false)]) true ∧
      IsSetting Stage.ofVariables "ENVIRONMENT"
        (Spells [("development", .development), ("dev", .development), ("test", .test), ("testing", .test),
          ("staging", .staging), ("stage", .staging)]) .production ∧
      IsSetting (fun vars => (Address.ofVariables vars).host) "HOST" Eq "0.0.0.0" ∧
      IsSetting (fun vars => (Address.ofVariables vars).port) "PORT" (SpellsNumber 65535) 8080 ∧
      IsSetting (fun vars => (RateLimit.ofVariables vars).1.perSecond) "RATE_LIMIT_PER_SECOND"
        (SpellsNumber 18446744073709551615) 100 ∧
      IsSetting (fun vars => (RateLimit.ofVariables vars).1.burstSize) "RATE_LIMIT_BURST_SIZE"
        (SpellsNumber 4294967295) 200) ∧
    ∀ vars,
      (ContextSettings.ofVariables vars).2 = ContextSettings.variables.flatMap (fun (name, accepts) =>
        ((refused? vars name accepts).map fun raw =>
          ⟨.error, name ++ " 파싱 실패: '" ++ raw ++ "'. 기본값 사용"⟩).toList) ∧
      (RateLimit.ofVariables vars).2 = RateLimit.variables.flatMap (fun (name, limit, byDefault) =>
        (((vars.text? name).bind (Text.faultOf? limit)).map (numberRefusal name byDefault)).toList) ++
          [limitsRecord (RateLimit.ofVariables vars).1] := by
  refine ⟨⟨isSetting_readSetting _ _ fun _ _ => keyword?_eq_some_iff_spells InitializerKind.plainWords,
    isSetting_readSetting _ _ fun _ _ => Http.HeaderName.parse?_eq_some_iff,
    isSetting_readSetting _ _ fun _ _ => keyword?_eq_some_iff_spells plainWords_switch,
    isSetting_readSetting _ _ fun _ _ => keyword?_eq_some_iff_spells IdFormat.plainWords,
    isSetting_readSetting _ _ fun _ _ => keyword?_eq_some_iff_spells plainWords_switch,
    Stage.isSetting, Address.host_isSetting, Address.port_isSetting,
    isSetting_readLimit _ _ _, isSetting_readLimit _ _ _⟩, fun vars => ⟨?_, ?_⟩⟩
  · rw [ContextSettings.ofVariables]
    simp only [readSetting_snd, ContextSettings.variables, List.flatMap_cons,
      List.flatMap_nil, List.append_nil, List.append_assoc]
  · have hrecords : (RateLimit.ofVariables vars).2 =
        (readLimit vars "RATE_LIMIT_PER_SECOND" (Text.maxOfBits 64) 100).2 ++
          (readLimit vars "RATE_LIMIT_BURST_SIZE" (Text.maxOfBits 32) 200).2 ++
          [limitsRecord (RateLimit.ofVariables vars).1] := rfl
    rw [hrecords, readLimit_snd, readLimit_snd]
    simp only [RateLimit.variables, List.flatMap_cons, List.flatMap_nil,
      List.append_nil]

end RequestScope.Settings
