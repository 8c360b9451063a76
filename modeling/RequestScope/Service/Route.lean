import RequestScope.Http.Percent
import RequestScope.Service.Basic

/-!
# Routes

A route is a method, a path with places for parameters, and a handler. Paths are matched segment by
segment, with escapes replaced but for those of slashes, plus signs and percent signs. The first
route that matches answers; where none does, nothing is found.
-/

namespace RequestScope

/-- A part of the path of a route between two slashes. -/
inductive Segment
  | literal (text : String)
  | parameter
deriving Repr, DecidableEq

/-- What answers requests that match a route. It gets the parameters as they stand in the matched
path. -/
structure Route where
  method : String
  path : List Segment
  handler : List String → Service

namespace Route

/-- The parameters of a path, if it matches. A parameter is not empty. -/
def matchSegments? : List Segment → List String → Option (List String)
  | [], [] => some []
  | .literal text :: path, segment :: segments =>
    if text = segment then matchSegments? path segments else none
  | .parameter :: path, segment :: segments =>
    if segment.isEmpty then none else (matchSegments? path segments).map (segment :: ·)
  | _, _ => none

def segments (path : String) : List String := (path.toList.splitOn '/').map String.ofList

def matchedPath (request : Http.Request) : String :=
  Http.decodePercent Http.isRouteMark request.target.path

/-- The parameters of a request, if it matches a route. -/
def match? (route : Route) (request : Http.Request) : Option (List String) :=
  if route.method = request.method then matchSegments? route.path (segments (matchedPath request))
  else none

/-- The text of a parameter with all escapes replaced. -/
def decodeParameter (parameter : String) : String := Http.decodePercent (fun _ => false) parameter

def fixedPath (path : String) : List Segment := (segments path).map .literal

/-- The service of routes. The failure of a handler becomes a response here. -/
def dispatch (routes : List Route) : Service := fun request =>
  match routes.findSome? fun route => (route.match? request).map route.handler with
  | some service => (service request).bind Work.settle
  | none => Work.missing

end Route

end RequestScope
