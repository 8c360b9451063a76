import RequestScope.Http.Header
import RequestScope.Log
import RequestScope.Settings.Keyword
import RequestScope.Settings.Variables

/-!
# Settings of the request context

How the context of a request begins, under which header an identifier comes in and goes out, whether
the one that comes in is trusted, and of which version a generated one is.
-/

namespace RequestScope.Settings

def defaultIdHeader : Http.HeaderName := ⟨"x-request-id"⟩

structure ContextSettings where
  initializer : InitializerKind := .request
  idHeader : Http.HeaderName := defaultIdHeader
  trustIncoming : Bool := true
  idFormat : IdFormat := .v4
  echoId : Bool := true
deriving Repr, DecidableEq

/-- Reads a header name with white space around it. -/
def parseHeaderName? (raw : String) : Option Http.HeaderName :=
  Http.HeaderName.parse? (Text.trim raw)

/-- What is logged about a variable whose value is refused. -/
def refusal (name raw : String) : LogRecord := ⟨.error, name ++ " 파싱 실패: '" ++ raw ++ "'. 기본값 사용"⟩

/-- The setting in a variable. A value that is refused is logged and counts as absent. -/
def readSetting (vars : Variables) (name : String) (parse : String → Option α) :
    Option α × List LogRecord :=
  match vars.text? name with
  | none => (none, [])
  | some raw =>
    match parse raw with
    | some value => (some value, [])
    | none => (none, [refusal name raw])

/-- The settings in the environment and what is logged about them. Each variable is read on its own,
whatever the others hold. -/
def ContextSettings.ofVariables (vars : Variables) : ContextSettings × List LogRecord :=
  let initializer := readSetting vars "REQUEST_CONTEXT_INITIALIZER" InitializerKind.parse?
  let idHeader := readSetting vars "REQUEST_ID_HEADER" parseHeaderName?
  let trustIncoming := readSetting vars "REQUEST_ID_TRUST_INCOMING" parseSwitch?
  let idFormat := readSetting vars "REQUEST_ID_FORMAT" IdFormat.parse?
  let echoId := readSetting vars "REQUEST_ID_ECHO" parseSwitch?
  (⟨initializer.1.getD .request, idHeader.1.getD defaultIdHeader, trustIncoming.1.getD true,
      idFormat.1.getD .v4, echoId.1.getD true⟩,
    initializer.2 ++ idHeader.2 ++ trustIncoming.2 ++ idFormat.2 ++ echoId.2)

end RequestScope.Settings
