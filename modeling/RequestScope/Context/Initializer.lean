import RequestScope.Context.Entries
import RequestScope.Http.Request
import RequestScope.Identifier
import RequestScope.Settings.Context

/-!
# How a context begins

The entries that the context of a request holds before anything else has touched it: none, given
ones, or a description of the request with its identifier. The identifier is the one that the
request brings if that is trusted and acceptable, and otherwise a generated one.
-/

namespace RequestScope

open Settings (IdFormat ContextSettings)

/-- Where the identifier of a request comes from. -/
structure IdPolicy where
  header : Http.HeaderName
  trustIncoming : Bool := true
  format : IdFormat := .v4
deriving Repr, DecidableEq

/-- The identifier that a request brings: the first value under the header, trimmed, if it is
acceptable. Later values never count. -/
def IdPolicy.incoming? (policy : IdPolicy) (request : Http.Request) : Option String :=
  if policy.trustIncoming then
    (((request.headers.first? policy.header).bind Http.HeaderValue.toText?).map Text.trim).filter isAcceptableId
  else none

def IdPolicy.choose (policy : IdPolicy) (request : Http.Request) (ids : IdSupply) :
    String × IdSupply :=
  match policy.incoming? request with
  | some id => (id, ids)
  | none => ids.next policy.format

/-- How the context of a request begins. -/
inductive Initializer
  | given (entries : Entries)
  | request (policy : IdPolicy)

namespace Initializer

def empty : Initializer := .given .empty

def describe (request : Http.Request) (id : String) : Entries :=
  .ofList [(Entries.requestIdKey, .string id), (Entries.methodKey, .string request.method),
    (Entries.pathKey, .string request.target.path)]

def entries (initializer : Initializer) (request : Http.Request) (ids : IdSupply) :
    Entries × IdSupply :=
  match initializer with
  | .given entries => (entries, ids)
  | .request policy =>
    let (id, ids) := policy.choose request ids
    (describe request id, ids)

def ofSettings (settings : ContextSettings) : Initializer :=
  match settings.initializer with
  | .empty => empty
  | .request => .request ⟨settings.idHeader, settings.trustIncoming, settings.idFormat⟩

end Initializer

end RequestScope
