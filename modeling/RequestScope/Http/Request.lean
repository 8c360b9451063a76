import RequestScope.Http.Header

/-!
# Requests

A request as a service receives it. The target of a request is its path as it was written, not
decoded, and the query behind it. The headers of a request with a body state the body's length.
-/

namespace RequestScope.Http

/-- What a request asks for. -/
structure Target where
  path : String
  query : Option String
deriving Repr, DecidableEq

structure Request where
  method : String
  target : Target
  headers : Headers
  body : List UInt8
deriving Repr

def contentLength : HeaderName := ⟨"content-length"⟩

/-- The request with a body. Its length replaces any other that the headers stated. -/
def Request.withBody (request : Request) (body : List UInt8) : Request :=
  { request with
    headers := request.headers.replace contentLength (.ofAscii (toString body.length))
    body }

namespace Target

/-- The part of a text before a fragment. -/
def dropFragment (cs : List Char) : List Char := cs.takeWhile (· != '#')

/-- Splits a path from the query behind it. -/
def splitQuery (cs : List Char) : Target :=
  let path := String.ofList (cs.takeWhile (· != '?'))
  match cs.dropWhile (· != '?') with
  | _ :: query => ⟨path, some (String.ofList query)⟩
  | [] => ⟨path, none⟩

/-- The text behind the scheme of an absolute address. -/
def behindScheme? : List Char → Option (List Char)
  | [] => none
  | ':' :: '/' :: '/' :: rest => some rest
  | '/' :: _ => none
  | _ :: rest => behindScheme? rest

/-- Reads the address of a request. An absolute address without a path asks for the root, and the
name of a host alone has no path at all. -/
def parse (s : String) : Target :=
  let cs := dropFragment s.toList
  match behindScheme? cs with
  | some rest =>
    let behindHost := rest.dropWhile fun c => c != '/' && c != '?'
    if behindHost.head? == some '/' then splitQuery behindHost else splitQuery ('/' :: behindHost)
  | none => if cs.head? == some '/' || cs == ['*'] then splitQuery cs else ⟨"", none⟩

end Target

end RequestScope.Http
