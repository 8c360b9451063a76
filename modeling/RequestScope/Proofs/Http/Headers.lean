import RequestScope.Http.Response

/-!
# Headers that are replaced

What a list of headers holds when one name has been given one value: that value under the name, and
everything else as it was and in the order it had. `Response.Marked` says so of a whole response.
-/

namespace RequestScope.Http

namespace Headers

theorem all_replace (headers : Headers) (name : HeaderName) (value : HeaderValue) :
    (headers.replace name value).all name = [value] := by
  have hnone : (headers.filter fun h => h.1 != name).filter (fun h => h.1 == name) = [] := by
    simp [List.filter_filter]
  rw [all, replace, List.filter_append, hnone]
  simp

theorem filter_replace (headers : Headers) (name : HeaderName) (value : HeaderValue) :
    (headers.replace name value).filter (fun h => h.1 != name) =
      headers.filter fun h => h.1 != name := by
  simp [replace, List.filter_append, List.filter_filter]

end Headers

/-- A response in which one value stands under a header in place of all that stood there. -/
structure Response.Marked (header : HeaderName) (value : HeaderValue) (r r' : Response) : Prop where
  all_eq : r'.headers.all header = [value]
  others_eq : (r'.headers.filter fun h => h.1 != header) = r.headers.filter fun h => h.1 != header
  status_eq : r'.status = r.status
  body_eq : r'.body = r.body

theorem Response.marked_replace (header : HeaderName) (value : HeaderValue) (r : Response) :
    r.Marked header value { r with headers := r.headers.replace header value } :=
  ⟨r.headers.all_replace header value, r.headers.filter_replace header value, rfl, rfl⟩

/-- A text whose octets may all stand in the value of a header. -/
def IsLegal (text : String) : Prop := ∀ b ∈ Text.Utf8.encode text, isValueOctet b

theorem HeaderValue.ofText?_of_legal {text : String} (h : IsLegal text) :
    HeaderValue.ofText? text = some ⟨Text.Utf8.encode text⟩ :=
  if_pos (List.all_eq_true.mpr h)

theorem HeaderValue.ofText?_of_not_legal {text : String} (h : ¬ IsLegal text) :
    HeaderValue.ofText? text = none :=
  if_neg fun hall => h (List.all_eq_true.mp hall)

end RequestScope.Http
