import RequestScope.Text.Blank
import RequestScope.Text.LowerCase

/-!
# Keywords

Settings that are one of a few words. White space around a word does not count, and neither does the
case of its letters.
-/

namespace RequestScope.Settings

/-- The meaning of a word in a list of words and their meanings. -/
def keyword? (words : List (String × α)) (raw : String) : Option α :=
  words.lookup (Text.lower (Text.trim raw))

/-- What a request's context holds at the beginning: nothing, or a description of the request. -/
inductive InitializerKind
  | empty
  | request
deriving Repr, DecidableEq

/-- The versions of generated identifiers: random ones, or ones in the order of time. -/
inductive IdFormat
  | v4
  | v7
deriving Repr, DecidableEq

/-- Where the service is run. -/
inductive Stage
  | development
  | test
  | staging
  | production
deriving Repr, DecidableEq

def InitializerKind.words : List (String × InitializerKind) :=
  [("empty", .empty), ("none", .empty), ("request", .request), ("request_id", .request)]

def IdFormat.words : List (String × IdFormat) :=
  [("v4", .v4), ("uuid4", .v4), ("v7", .v7), ("uuid7", .v7)]

def switchWords : List (String × Bool) :=
  [("true", true), ("1", true), ("yes", true), ("on", true),
   ("false", false), ("0", false), ("no", false), ("off", false)]

/-- The words for the stages other than production. -/
def Stage.words : List (String × Stage) :=
  [("development", .development), ("dev", .development), ("test", .test), ("testing", .test),
   ("staging", .staging), ("stage", .staging)]

def InitializerKind.parse? : String → Option InitializerKind := keyword? words

def IdFormat.parse? : String → Option IdFormat := keyword? words

def parseSwitch? : String → Option Bool := keyword? switchWords

/-- Reads a stage. Whatever is no other stage is production. -/
def Stage.parse (raw : String) : Stage := (keyword? words raw).getD .production

/-- Which records a stage logs if nothing else is asked for. -/
def Stage.logFilter : Stage → String
  | .development => "debug,actix_web=debug"
  | .test => "debug,actix_web=debug"
  | .staging => "info,actix_web=info"
  | .production => "info,actix_web=info"

end RequestScope.Settings
