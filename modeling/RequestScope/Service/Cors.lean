import RequestScope.Http.MediaType
import RequestScope.Service.Basic
import RequestScope.Settings.Context
import RequestScope.Text.Blank

/-!
# Sharing with other origins

Browsers ask before they let a page of another origin send a request. The layer answers such
questions itself and adds to every other response what the browser has to know.
-/

namespace RequestScope

open Http (HeaderName HeaderValue Headers Request Response)

/-- Who may send what, and which header a page may read. -/
structure Cors where
  origins : List String
  methods : List String
  headers : List HeaderName
  exposed : List HeaderName
  maxAge : Nat

namespace Cors

/-- The rules of the service under the given settings. -/
def ofSettings (settings : Settings.ContextSettings) : Cors where
  origins :=
    ["http://localhost:3000", "http://127.0.0.1:3000", "http://localhost:8080",
     "http://127.0.0.1:8080"]
  methods := ["GET", "POST", "PUT", "DELETE", "PATCH", "OPTIONS"]
  headers := [⟨"authorization"⟩, ⟨"accept"⟩, ⟨"content-type"⟩, settings.idHeader]
  exposed := [settings.idHeader]
  maxAge := 3600

/-- Why the answer to a browser is no. -/
inductive Refusal
  | missingOrigin
  | originRefused
  | methodRefused
  | invalidHeaders
  | headersRefused
deriving Repr, DecidableEq

def Refusal.message : Refusal → String
  | .missingOrigin => "Request header `Origin` is required but was not provided"
  | .originRefused => "Origin is not allowed to make this request"
  | .methodRefused => "Requested method is not allowed"
  | .invalidHeaders => "Request header `Access-Control-Request-Headers` has an invalid value"
  | .headersRefused => "One or more request headers are not allowed"

def Refusal.response (refusal : Refusal) : Response := ⟨.badRequest, [], .text refusal.message⟩

/-- A name of the headers of this layer. -/
def accessControl (name : String) : HeaderName := ⟨"access-control-" ++ name⟩

def originHeader : HeaderName := ⟨"origin"⟩

def varyHeader : HeaderName × HeaderValue :=
  (⟨"vary"⟩, .ofAscii "Origin, Access-Control-Request-Method, Access-Control-Request-Headers")

/-- The header that lets pages send credentials. -/
def credentialsHeader : HeaderName × HeaderValue :=
  (accessControl "allow-credentials", .ofAscii "true")

def listNames (names : List String) : HeaderValue := .ofAscii (", ".intercalate names.eraseDups)

/-- The method that a browser asks about. A question has the method `OPTIONS` and names another
one. -/
def asked? (request : Request) : Option String :=
  if request.method == "OPTIONS" then
    ((request.headers.first? (accessControl "request-method")).bind HeaderValue.toText?).filter fun method =>
      !method.isEmpty && method.toList.all Http.isTokenChar
  else none

/-- The origin of a request, if it is an allowed one. -/
def allowedOrigin? (cors : Cors) (request : Request) : Option HeaderValue :=
  (request.headers.first? originHeader).filter fun origin =>
    cors.origins.any fun allowed => HeaderValue.ofAscii allowed == origin

/-- The names in a list of headers with commas between them. -/
def parseNames? (value : HeaderValue) : Option (List HeaderName) := do
  let text ← value.toText?
  ((text.toList.splitOn ',').map String.ofList).mapM fun name => HeaderName.parse? (Text.trim name)

/-- The answer to a question of a browser. -/
def check (cors : Cors) (request : Request) (method : String) : Except Refusal HeaderValue := do
  if (request.headers.first? originHeader).isNone then throw .missingOrigin
  let some origin := cors.allowedOrigin? request | throw .originRefused
  if !cors.methods.contains method then throw .methodRefused
  match request.headers.first? (accessControl "request-headers") with
  | none => return origin
  | some value =>
    let some names := parseNames? value | throw .invalidHeaders
    if names.all cors.headers.contains then return origin else throw .headersRefused

def preflight (cors : Cors) (request : Request) (method : String) : Response :=
  match cors.check request method with
  | .error refusal => refusal.response
  | .ok origin =>
    { Response.bare .ok with
      headers :=
        [(accessControl "allow-origin", origin), (accessControl "allow-methods", listNames cors.methods),
         (accessControl "allow-headers", listNames (cors.headers.map (·.text))), credentialsHeader,
         (accessControl "max-age", .ofAscii (toString cors.maxAge)), varyHeader] }

/-- A response with what the browser has to know. -/
def augment (cors : Cors) (request : Request) (r : Response) : Response :=
  let origin := (cors.allowedOrigin? request).toList.map fun origin => (accessControl "allow-origin", origin)
  let exposed := (accessControl "expose-headers", listNames (cors.exposed.map (·.text)))
  let added := origin ++ [exposed, credentialsHeader, varyHeader]
  { r with headers := added.foldl (fun headers h => headers.replace h.1 h.2) r.headers }

def around (cors : Cors) (inner : Service) : Service := fun request =>
  match asked? request with
  | some method => Work.respond (cors.preflight request method)
  | none =>
    (inner request).bind fun
      | .response r => Work.respond (cors.augment request r)
      | outcome => .ret outcome

end Cors

end RequestScope
