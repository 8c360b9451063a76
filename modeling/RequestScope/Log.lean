/-!
# Log records

What the library reports while it works: a level and a text.
-/

namespace RequestScope

/-- How grave a record is. -/
inductive LogLevel
  | error
  | warn
  | info
  | debug
deriving Repr, DecidableEq

def LogLevel.name : LogLevel → String
  | .error => "ERROR"
  | .warn => "WARN"
  | .info => "INFO"
  | .debug => "DEBUG"

structure LogRecord where
  level : LogLevel
  text : String
deriving Repr, DecidableEq

end RequestScope
