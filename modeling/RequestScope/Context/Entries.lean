import RequestScope.Failure
import RequestScope.Typed.Decode
import RequestScope.Typed.Encode

/-!
# Entries of a context

What a request's context holds: JSON values under texts, with typed access to them. A value that
cannot be written, or that is not of the wanted type, makes a failure that names its key.
-/

namespace RequestScope

/-- The contents of a context. -/
abbrev Entries := Dictionary Json

namespace Entries

def requestIdKey : String := "request_id"

def methodKey : String := "http_method"

def pathKey : String := "path"

def text? (entries : Entries) (key : String) : Option String := entries.get? key >>= Json.string?

def requestId? (entries : Entries) : Option String := entries.text? requestIdKey

/-- What was being done when a value could not be read. -/
def reading (key : String) : String := "컨텍스트 값 '" ++ key ++ "' 변환 실패"

/-- What was being done when a value could not be written. -/
def writing (key : String) : String := "컨텍스트 값 '" ++ key ++ "' 직렬화 실패"

/-- The value of a schema under a key, if there is a value. -/
def read (entries : Entries) (key : String) (s : Schema) : Except Failure (Option s.Carrier) :=
  match entries.get? key with
  | none => .ok none
  | some value =>
    ((s.decode value).map some).mapError fun misread => .inContext (reading key) misread.message

/-- The JSON value to be stored under a key. -/
def prepare (key : String) (value : Datum) : Except Failure Json :=
  value.toJson.mapError fun fault => .inContext (writing key) fault.message

end Entries

end RequestScope
