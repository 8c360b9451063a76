import RequestScope.Dictionary
import RequestScope.Text.Utf8

/-!
# Environment variables

The variables of a process, by name. Their values are octets; a value that is no text reads as
absent.
-/

namespace RequestScope.Settings

/-- The variables of a process. -/
abbrev Variables := Dictionary (List UInt8)

def Variables.text? (vars : Variables) (name : String) : Option String :=
  vars.get? name >>= Text.Utf8.decode?

end RequestScope.Settings
