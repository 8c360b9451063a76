import RequestScope.Failure
import RequestScope.Form.Basic
import RequestScope.Http.ContentEncoding
import RequestScope.Http.MediaType
import RequestScope.Http.Request
import RequestScope.Text.Unsigned

/-!
# Submitted forms

How the contents of a form are taken from a request: its body must be called JSON, must not be too
long, must be unpacked, must be the text of the form's record, and must keep the form's rules. The
first of these that fails decides.
-/

namespace RequestScope

/-- Why a body is not the text of a form. -/
inductive BodyFault
  | contentType
  | statedLength (octets : Nat)
  | packed (fault : Compression.Fault)
  | length
  | json (fault : Json.Fault)

def maxBodyLength : Nat := 2097152

def BodyFault.message : BodyFault → String
  | .contentType => "Content type error"
  | .statedLength octets =>
    "JSON payload (" ++ toString octets ++ " bytes) is larger than allowed (limit: "
      ++ toString maxBodyLength ++ " bytes)."
  | .packed fault =>
    "Error that occur during reading payload: payload reached EOF before completing: Some("
      ++ fault.message ++ ")"
  | .length => "JSON payload has exceeded limit (" ++ toString maxBodyLength ++ " bytes)."
  | .json fault => "Json deserialize error: " ++ fault.message

/-- Whether the headers call the body JSON. -/
def Http.Headers.announceJson (headers : Http.Headers) : Bool :=
  ((headers.first? Http.contentType).bind Http.HeaderValue.toText?).bind Http.MediaType.parse?
    |>.any Http.MediaType.isJson

/-- The text in which the headers state the length of the body, without the blanks around it. An
empty text states nothing. -/
def Http.Headers.lengthText? (headers : Http.Headers) : Option String :=
  (((headers.first? Http.contentLength).bind Http.HeaderValue.toText?).filter (!·.isEmpty)).map Text.trim

/-- The length of the body that the headers state. What is no number of 64 bits states nothing. -/
def Http.Headers.statedLength? (headers : Http.Headers) : Option Nat :=
  headers.lengthText?.bind fun text => (Text.parseUnsigned (Text.maxOfBits 64) text).toOption

/-- Whether the headers state the length of the body with a plus sign, which no request may bring as
far as this. -/
def Http.Headers.stateSignedLength (headers : Http.Headers) : Bool :=
  headers.lengthText?.any fun text => text.toList.head? == some '+'

def signedLengthPanic : String := "assertion failed: !val.starts_with('+')"

/-- What becomes of a submitted form. -/
inductive Reception (α : Type)
  | accepted (contents : α)
  | refused (failure : Failure)
  | panicked (text : String)

namespace Form

open Compression (Unpackers)

variable {α : Type}

/-- The octets of a body as they were before they were encoded. -/
def unpack (unpackers : Unpackers) (headers : Http.Headers) (body : List UInt8) :
    Except BodyFault (List UInt8) := do
  let unpacked ← ((Http.ContentEncoding.ofHeaders headers).decode unpackers body).mapError .packed
  if maxBodyLength < unpacked.octets.length then throw .length
  match unpacked.defect with
  | some fault => throw (.packed fault)
  | none => return unpacked.octets

/-- The contents that a body spells, before any rule is applied. -/
def decode (form : Form α) (unpackers : Unpackers) (headers : Http.Headers) (body : List UInt8) :
    Except BodyFault α := do
  if !headers.announceJson then throw .contentType
  match headers.statedLength? with
  | some length => if maxBodyLength < length then throw (.statedLength length)
  | none => pure ()
  return form.ofValues (← (form.shape.parse (← unpack unpackers headers body)).mapError .json)

/-- What is logged about contents that break rules. -/
def rejection (report : Violations) : LogRecord := ⟨.debug, "요청 본문 검증 실패: " ++ report.describe⟩

/-- What becomes of a submitted form, and what is logged on the way. -/
def receive (form : Form α) (headers : Http.Headers) (body : List UInt8)
    (unpackers : Unpackers := .stored) : Reception α × List LogRecord :=
  if headers.announceJson && headers.stateSignedLength then (.panicked signedLengthPanic, [])
  else
    match form.decode unpackers headers body with
    | .error fault => (.refused (.validation fault.message), [])
    | .ok contents =>
      let report := form.check contents
      if report.isEmpty then (.accepted contents, [])
      else (.refused (.invalidFields report), [rejection report])

end Form

end RequestScope
