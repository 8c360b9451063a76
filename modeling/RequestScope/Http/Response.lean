import RequestScope.Http.Header
import RequestScope.Json.Writer

/-!
# Responses

A response is a status, headers and a body. The body of a JSON response is kept as a value; its text
is written when the response leaves the library.
-/

namespace RequestScope.Http

/-- The statuses that the library answers with. -/
inductive Status
  | ok
  | badRequest
  | notFound
  | internalServerError
deriving Repr, DecidableEq

def Status.code : Status → Nat
  | .ok => 200
  | .badRequest => 400
  | .notFound => 404
  | .internalServerError => 500

def Status.phrase : Status → String
  | .ok => "OK"
  | .badRequest => "Bad Request"
  | .notFound => "Not Found"
  | .internalServerError => "Internal Server Error"

/-- A status as the log shows it. -/
def Status.describe (s : Status) : String := toString s.code ++ " " ++ s.phrase

inductive Body
  | empty
  | json (value : Json)
  | text (s : String)
deriving Repr

def Body.render : Body → String
  | .empty => ""
  | .json value => value.render
  | .text s => s

structure Response where
  status : Status
  headers : Headers
  body : Body
deriving Repr

def contentType : HeaderName := ⟨"content-type"⟩

def applicationJson : HeaderValue := .ofAscii "application/json"

def plainText : HeaderValue := .ofAscii "text/plain; charset=utf-8"

def Response.json (status : Status) (value : Json) : Response :=
  ⟨status, [(contentType, applicationJson)], .json value⟩

def Response.bare (status : Status) : Response := ⟨status, [], .empty⟩

end RequestScope.Http
