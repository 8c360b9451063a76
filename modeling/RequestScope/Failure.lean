import RequestScope.Http.Response
import RequestScope.Log
import RequestScope.Violation

/-!
# Failures

Why a request, or an operation on a context, failed. A client's mistake is told to the client in
full; a failure of the service itself is also logged when it becomes a response.
-/

namespace RequestScope

inductive Failure
  | validation (text : String)
  | invalidFields (report : Violations)
  | internal (text : String)

namespace Failure

def message : Failure → String
  | .validation text => "Validation error: " ++ text
  | .invalidFields report => "Validation failed: " ++ report.describe
  | .internal text => "Internal server error: " ++ text

def status : Failure → Http.Status
  | .validation _ => .badRequest
  | .invalidFields _ => .badRequest
  | .internal _ => .internalServerError

/-- The sentence that introduces the details of invalid fields. -/
def invalidFieldsText : String := "입력 데이터가 유효하지 않습니다"

def body : Failure → Json
  | .invalidFields report =>
    .ofMembers [("error", .string "validation_error"), ("message", .string invalidFieldsText),
      ("details", report.details)]
  | failure => .ofMembers [("error", .string failure.message)]

def response (failure : Failure) : Http.Response := .json failure.status failure.body

/-- What is logged when the response to a failure is made. -/
def records (failure : Failure) : List LogRecord :=
  match failure.status with
  | .internalServerError => [⟨.error, "요청 처리 실패: " ++ failure.message⟩]
  | _ => []

/-- The failure of an operation with what it was doing put in front. -/
def inContext (doing cause : String) : Failure := .internal (doing ++ ": " ++ cause)

/-- Turns the error of a computation into a failure that says what was being done. That is asked for
only when there is an error. -/
def attach [Monad m] (doing : m String) (result : Except String α) : m (Except Failure α) :=
  match result with
  | .ok value => pure (.ok value)
  | .error cause => do return .error (inContext (← doing) cause)

end Failure

end RequestScope
