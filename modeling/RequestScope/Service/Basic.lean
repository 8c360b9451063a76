import RequestScope.Extent.Program
import RequestScope.Http.Request

/-!
# Services

A service answers a request by a program that logs what it does. It ends in a response or in a
failure; a failure passes the layers around the service as it is and becomes a response only at the
very outside, or at the handler that made it.
-/

namespace RequestScope

/-- How a service, or a task of it, ends. -/
inductive Outcome
  | response (r : Http.Response)
  | failure (f : Failure)
  | value (v : Json)

abbrev Work := Program LogRecord Outcome .async

/-- What answers requests. -/
abbrev Service := Http.Request → Work

namespace Work

def respond (r : Http.Response) : Work := .ret (.response r)

def answer (value : Json) : Work := respond (.json .ok value)

def fail (f : Failure) : Work := .ret (.failure f)

/-- Turns a failure into its response, which is logged. -/
def settle : Outcome → Work
  | .failure f => .emitAll f.records (respond f.response)
  | outcome => .ret outcome

def missing : Work := respond (.bare .notFound)

end Work

/-- The register that holds the context which the request carries along. -/
def carried : Target := .register "carried"

end RequestScope
