import RequestScope.Service.Route

/-!
# Endpoints

The health of the service, and the context of the request that asks for it.
-/

namespace RequestScope

/-- What a service sees of its context: the identifier of the request and all entries. -/
structure ContextSnapshot where
  requestId : Option String
  values : Entries

def ContextSnapshot.ofEntries (entries : Entries) : ContextSnapshot := ⟨entries.requestId?, entries⟩

def ContextSnapshot.toJson (snapshot : ContextSnapshot) : Json :=
  .ofMembers [("request_id", snapshot.requestId.elim .null .string), ("values", .ofDictionary snapshot.values)]

namespace Work

/-- Goes on with the snapshot of the current context, which is lent for that. -/
def snapshot (next : Option Json → Work) : Work :=
  .withCurrent (.inspect .lent fun entries =>
      .ret (.value ((entries.map fun e => (ContextSnapshot.ofEntries e).toJson).getD .null))) fun
    | some (.value v) => next (some v)
    | _ => next none

/-- Why the context of a request cannot be shown. -/
def noExtent : Failure := .internal "활성 요청 컨텍스트가 없습니다"

end Work

/-- The route that tells how the service is, with the time. -/
def healthRoute (now : String) : Route where
  method := "GET"
  path := Route.fixedPath "/health"
  handler _ _ :=
    Work.answer (.ofMembers [("status", .string "healthy"),
      ("service", .string "request_context_backend"), ("version", .string "0.1.0"),
      ("timestamp", .string now)])

def contextRoute : Route where
  method := "GET"
  path := Route.fixedPath "/api/v1/context"
  handler _ _ :=
    Work.snapshot fun
      | some v => Work.answer v
      | none => Work.fail Work.noExtent

end RequestScope
