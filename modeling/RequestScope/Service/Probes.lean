import RequestScope.Form.ResetPassword
import RequestScope.Form.RoleUpdate
import RequestScope.Service.Lookup
import RequestScope.Service.Route

/-!
# Probes

A layer and routes that show what a handler sees of contexts: which one is current, which one the
request carries, what suspensions and tasks do to them, and what becomes of failures and submitted
forms.
-/

namespace RequestScope

open Http (HeaderName Request)

namespace Probe

/-- The text of a header of the probing layer. -/
def headerText? (request : Request) (name : String) : Option String :=
  (request.headers.first? ⟨name⟩).bind Http.HeaderValue.toText?

/-- Lets the request carry another context if a header asks for it. -/
def replaceCarried (request : Request) (next : Work) : Work :=
  match headerText? request "x-test-ext" with
  | some v => .create "carried" (.ofList [("ext", .string v)]) next
  | none => next

/-- Overwrites the identifier in the current context if a header asks for it. -/
def overwriteId (request : Request) (next : Work) : Work :=
  match headerText? request "x-test-set" with
  | some v => .insert .current Entries.requestIdKey (.string v) fun _ => next
  | none => next

/-- The layer that does what the probing headers of a request ask for. -/
def around (inner : Service) : Service := fun request =>
  replaceCarried request (overwriteId request
    (match headerText? request "x-test-fail" with
    | some text => Work.fail (.internal text)
    | none => inner request))

def option (v : Option Json) : Json := v.elim .null fun v => .ofMembers [("some", v)]

def seenId (entries : Option Entries) : Json := (entries.bind Entries.requestId?).elim .null .string

def shown (entries : Option Entries) : Json := entries.elim .null .ofDictionary

/-- Notes the identifier before each of a number of suspensions and once behind them. -/
def watch : Nat → List Json → (List Json → Work) → Work
  | 0, seen, next => .inspect .current fun entries => next (seen ++ [seenId entries])
  | times + 1, seen, next =>
    .inspect .current fun entries => .pause (watch times (seen ++ [seenId entries]) next)

def taskValue : Exit Outcome → Json
  | .returned (.value v) => v
  | _ => .null

/-- Whether the context that the request carries is the current one. -/
def compare : Work :=
  .shares carried .current fun
    | some same => Work.answer (.ofMembers [("same", .bool same)])
    | none => Work.probe carried fun kept => Work.probe .current fun current =>
        Work.answer (.ofMembers [("same", .ofMembers [("extension", .bool kept), ("ambient", .bool current)])])

/-- A route without parameters. -/
def fixed (method path : String) (handler : Service) : Route :=
  ⟨method, Route.fixedPath path, fun _ => handler⟩

/-- The routes that show contexts. -/
def contextRoutes : List Route :=
  [fixed "GET" "/t/ctx" fun _ => .inspect .current fun
      | some e => Work.answer (.ofDictionary e)
      | none => Work.missing,
   ⟨"GET", Route.fixedPath "/t/set" ++ [.parameter, .parameter], fun parameters _ =>
      match parameters.map Route.decodeParameter with
      | [key, value] => .insert .current key (.string value) fun before => .pause (.inspect .current fun now =>
          Work.answer (.ofMembers [("previous", (before.map option).getD .null), ("now", shown now)]))
      | _ => Work.missing⟩,
   ⟨"GET", Route.fixedPath "/t/yield" ++ [.parameter], fun parameters _ =>
      match parameters with
      | [text] =>
        match Text.parseUnsigned (Text.maxOfBits 32) (Route.decodeParameter text) with
        | .ok times => watch times [] fun seen => Work.answer (.array seen)
        | .error _ => Work.respond ⟨.notFound, [(Http.contentType, Http.plainText)],
            .text ("can not parse " ++ Text.quote text ++ " to a u32")⟩
      | _ => Work.missing⟩,
   fixed "GET" "/t/same" fun _ => compare,
   fixed "GET" "/t/required" fun _ => Work.requiredContext fun target =>
      .inspect target fun entries => Work.answer (shown entries),
   fixed "GET" "/t/optional" fun _ => Work.optionalContext fun
      | some target =>
        .inspect target fun entries => Work.answer (.ofMembers [("context", shown entries)])
      | none => Work.answer (.ofMembers [("context", .null)]),
   fixed "GET" "/t/spawn" fun _ =>
      .spawn "wrapped" true (.inspect .current fun entries => .ret (.value (seenId entries)))
        (.spawn "plain" false (.inspect .current fun entries => .ret (.value (.bool entries.isSome)))
          (.awaitTask "wrapped" fun wrapped => .awaitTask "plain" fun plain =>
            Work.answer (.ofMembers [("spawn", taskValue wrapped), ("plain", taskValue plain)])))]

def askedFailure (text : String) : Failure :=
  match text.toList with
  | 'v' :: '-' :: rest => .validation (String.ofList rest)
  | _ => .internal text

/-- The routes that show failures and forms. -/
def formRoutes (unpackers : Compression.Unpackers) : List Route :=
  [⟨"GET", Route.fixedPath "/t/fail" ++ [.parameter], fun parameters _ =>
      match parameters with
      | [text] => Work.fail (askedFailure (Route.decodeParameter text))
      | _ => Work.missing⟩,
   fixed "POST" "/t/password/reset" fun request =>
      Work.submitted unpackers ResetPassword.form request fun contents =>
      Work.answer (.ofMembers [("token", .string contents.token),
        ("length", .ofInt contents.newPassword.utf8ByteSize)]),
   fixed "PATCH" "/t/roles/1" fun request =>
      Work.submitted unpackers RoleUpdate.form request fun contents =>
      Work.answer (.ofMembers [("name", .string contents.name)])]

def routes (unpackers : Compression.Unpackers) : List Route := contextRoutes ++ formRoutes unpackers

end Probe

end RequestScope
