import RequestScope.Log
import RequestScope.Settings.Keyword
import RequestScope.Settings.Variables
import RequestScope.Text.Unsigned

/-!
# Settings of the server

The address to listen on, the stage, the limits on the rate of requests, and the decision whether a
server may start with these limits.
-/

namespace RequestScope.Settings

def Stage.ofVariables (vars : Variables) : Stage :=
  Stage.parse ((vars.text? "ENVIRONMENT").getD "production")

structure Address where
  host : String
  port : Nat
deriving Repr, DecidableEq

/-- The address in the environment. A port that is no number of 16 bits counts as absent. -/
def Address.ofVariables (vars : Variables) : Address :=
  ⟨(vars.text? "HOST").getD "0.0.0.0",
    match vars.text? "PORT" with
    | none => 8080
    | some raw => (Text.parseUnsigned (Text.maxOfBits 16) raw).toOption.getD 8080⟩

def Address.render (a : Address) : String := a.host ++ ":" ++ toString a.port

/-- How many requests a client may make in a second, and how many at once. -/
structure RateLimit where
  perSecond : Nat
  burstSize : Nat
deriving Repr, DecidableEq

/-- A number in a variable. A value that is refused is logged and counts as absent. -/
def readLimit (vars : Variables) (name : String) (limit byDefault : Nat) : Nat × List LogRecord :=
  match vars.text? name with
  | none => (byDefault, [])
  | some raw =>
    match Text.parseUnsigned limit raw with
    | .ok n => (n, [])
    | .error fault =>
      let text := name ++ " 파싱 실패: " ++ fault.message ++ ". 기본값 " ++ toString byDefault ++ " 사용"
      (byDefault, [⟨.error, text⟩])

def RateLimit.record (r : RateLimit) : LogRecord :=
  ⟨.info, "Rate Limiting 설정 로드됨: RateLimitConfig \x7b per_second: " ++ toString r.perSecond
    ++ ", burst_size: " ++ toString r.burstSize ++ " \x7d"⟩

def RateLimit.ofVariables (vars : Variables) : RateLimit × List LogRecord :=
  let perSecond := readLimit vars "RATE_LIMIT_PER_SECOND" (Text.maxOfBits 64) 100
  let burstSize := readLimit vars "RATE_LIMIT_BURST_SIZE" (Text.maxOfBits 32) 200
  let limits : RateLimit := ⟨perSecond.1, burstSize.1⟩
  (limits, perSecond.2 ++ burstSize.2 ++ [limits.record])

def nanosecondsPerSecond : Nat := 1000000000

inductive StartFault
  | divisionByZero
  | unusableLimit
deriving Repr, DecidableEq

def StartFault.message : StartFault → String
  | .divisionByZero => "attempt to divide by zero"
  | .unusableLimit => "Rate Limiting 설정이 올바르지 않습니다 (0 값은 허용되지 않음)"

/-- The nanoseconds between two requests at the given rate. -/
def RateLimit.period (r : RateLimit) : Except StartFault Nat :=
  if r.perSecond = 0 then .error .divisionByZero else .ok (nanosecondsPerSecond / r.perSecond)

/-- The address that a server with the given environment goes on to listen on. The period comes
before all checks. -/
def start (vars : Variables) : Except StartFault Address := do
  let limits := (RateLimit.ofVariables vars).1
  let period ← limits.period
  if limits.burstSize = 0 ∨ period = 0 then throw .unusableLimit
  return Address.ofVariables vars

end RequestScope.Settings
