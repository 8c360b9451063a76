import RequestScope.Context.Initializer
import RequestScope.Service.Basic

/-!
# The context layer

The layer that gives every request a context of its own: it makes the context, lets the request
carry a handle to it, binds it while the inner service runs, logs the beginning and the end of the
extent, and puts the request's identifier into a header of the response. The identifier is the one
that the context had at the beginning, whatever becomes of the context.
-/

namespace RequestScope

open Http (HeaderName HeaderValue Request Response)

/-- The settings of the layer: how contexts begin and under which header identifiers are sent
back. -/
structure ContextLayer where
  initializer : Initializer := .empty
  echo : Option HeaderName := none

namespace ContextLayer

def ofSettings (settings : Settings.ContextSettings) : ContextLayer :=
  ⟨.ofSettings settings, if settings.echoId then some settings.idHeader else none⟩

/-- An identifier as the log shows it. -/
def shownId (id : Option String) : String := "(request_id=" ++ id.getD "-" ++ ")"

/-- What is logged when the extent begins. -/
def bindRecord (request : Request) (id : Option String) : LogRecord :=
  ⟨.debug, "요청 컨텍스트 바인딩: " ++ request.method ++ " " ++ request.target.path ++ " " ++ shownId id⟩

/-- What is logged when the extent ends. -/
def releaseRecord (outcome : Outcome) (id : Option String) : LogRecord :=
  match outcome with
  | .response r => ⟨.debug, "요청 컨텍스트 해제: status=" ++ r.status.describe ++ " " ++ shownId id⟩
  | .failure f => ⟨.debug, "요청 컨텍스트 해제: 처리 실패 " ++ f.message ++ " " ++ shownId id⟩
  | .value _ => ⟨.debug, "요청 컨텍스트 해제: " ++ shownId id⟩

def illegalId : LogRecord := ⟨.warn, "요청 ID 를 헤더로 변환할 수 없습니다: failed to parse header value"⟩

/-- Sends the identifier back with a response. One that is no header value is logged and left
out. -/
def echoId (layer : ContextLayer) (id : Option String) (r : Response) : Work :=
  match layer.echo, id with
  | some header, some id =>
    match HeaderValue.ofText? id with
    | some value => Work.respond { r with headers := r.headers.replace header value }
    | none => .emit illegalId (Work.respond r)
  | _, _ => Work.respond r

def release (layer : ContextLayer) (id : Option String) (outcome : Outcome) : Work :=
  .emit (releaseRecord outcome id)
    (match outcome with
    | .response r => layer.echoId id r
    | outcome => .ret outcome)

/-- The service with the layer around it. -/
def around (layer : ContextLayer) (ids : IdSupply) (inner : Service) : Service := fun request =>
  let entries := (layer.initializer.entries request ids).1
  let id := entries.requestId?
  .create "carried" entries
    (.run carried (.emit (bindRecord request id) ((inner request).bind (layer.release id))) .ret)

end ContextLayer

end RequestScope
