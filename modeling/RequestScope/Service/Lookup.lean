import RequestScope.Form.Submission
import RequestScope.Service.Basic

/-!
# What handlers take from a request

The context of a request, and the contents of a submitted form. The context is the current one;
where none is bound it is the one that the request carries. A handler may ask for a context that has
to be there or for one that may be missing.
-/

namespace RequestScope.Work

def probe (target : Target) (next : Bool → Work) : Work :=
  .inspect target fun entries => next entries.isSome

/-- Goes on with the context of the request, if there is one. -/
def optionalContext (next : Option Target → Work) : Work :=
  probe .current fun
    | true => next (some .current)
    | false => probe carried fun
      | true => next (some carried)
      | false => next none

/-- Why a handler that needs a context is not called. -/
def noContext : Failure := .internal "요청 컨텍스트 미들웨어가 설치되지 않았습니다"

/-- Goes on with the context of the request or fails. -/
def requiredContext (next : Target → Work) : Work :=
  optionalContext fun
    | some target => next target
    | none => fail noContext

/-- Goes on with the contents of a submitted form or fails. -/
def submitted {α : Type} (unpackers : Compression.Unpackers) (form : Form α) (request : Http.Request)
    (next : α → Work) : Work :=
  let (result, records) := form.receive request.headers request.body unpackers
  .emitAll records
    (match result with
    | .accepted contents => next contents
    | .refused f => fail f
    | .panicked text => .panic text)

end RequestScope.Work
