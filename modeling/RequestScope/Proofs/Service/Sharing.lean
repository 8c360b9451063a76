import RequestScope.Proofs.Service.Snapshot
import RequestScope.Proofs.Service.Untrusted

/-!
# Headers that pages may use

The settings name one header of identifiers, and all layers use it: the context layer reads and sends
identifiers under it, and the layer for other origins lets pages send it and read it. A browser asks with
a list of header names, in any order, in letters of any case and with blanks around them; the answer is yes
if each of them spells an allowed name.
-/

namespace RequestScope

open Http (HeaderName HeaderValue Headers Request Response)
open Settings (ContextSettings)

theorem Http.Headers.all_replace_of_ne (headers : Headers) {name header : HeaderName} (value : HeaderValue)
    (hne : name ≠ header) : (headers.replace header value).all name = headers.all name := by
  have hnone : [(header, value)].filter (fun h => h.1 == name) = [] := by simp [hne.symm]
  rw [all, replace, List.filter_append, hnone, List.append_nil]
  exact headers.all_filter hne

/-! ### Lists of names -/

/-- A text that names a header: a spelling of the name with spaces and tabs around it. -/
def Http.HeaderName.IsNamedBy (name : HeaderName) (text : String) : Prop :=
  ∃ left spelling right : String, (∀ c ∈ left.toList ++ right.toList, c = ' ' ∨ c = '\t') ∧
    text = left ++ spelling ++ right ∧ HeaderName.IsSpelling spelling ∧ name = .ofSpelling spelling

theorem Http.HeaderName.parse?_trim_iff {name : HeaderName} {text : String}
    (hplain : ∀ c ∈ text.toList, IsPlain c) : parse? (Text.trim text) = some name ↔ name.IsNamedBy text := by
  rw [parse?_eq_some_iff]
  constructor
  · rintro ⟨hspelling, hname⟩
    obtain ⟨left, right, hpadded, hpads⟩ := exists_plain_padding hplain
    exact ⟨left, Text.trim text, right, hpads, hpadded, hspelling, hname⟩
  · rintro ⟨left, spelling, right, hpads, rfl, hspelling, rfl⟩
    have hblank : ∀ c ∈ left.toList ++ right.toList, Text.isBlank c := by
      intro c hc
      obtain rfl | rfl := hpads c hc <;> decide
    have htrim : Text.trim (left ++ spelling ++ right) = spelling :=
      Text.trim_padded (fun c hc => hblank c (List.mem_append_left _ hc))
        (fun c hc => hblank c (List.mem_append_right _ hc))
        (fun c hc => Text.not_isBlank_of_isVisible (Http.isVisible_of_isNameChar (hspelling.2.2 c hc)))
        hspelling.1
    rw [htrim]
    exact ⟨hspelling, rfl⟩

namespace Cors

/-- A list of texts as a browser writes it, with commas between them. -/
structure IsList (texts : List String) : Prop where
  ne_nil : texts ≠ []
  plain : ∀ text ∈ texts, ∀ c ∈ text.toList, Http.IsPlain c ∧ c ≠ ','

theorem plain_intercalate {texts : List String} (hplain : ∀ text ∈ texts, ∀ c ∈ text.toList, Http.IsPlain c) :
    ∀ c ∈ (",".intercalate texts).toList, Http.IsPlain c := by
  induction texts with
  | nil => simp
  | cons text texts ih =>
    obtain ⟨htext, htexts⟩ := List.forall_mem_cons.mp hplain
    cases texts with
    | nil => simpa using htext
    | cons text' texts =>
      have hcomma : ∀ c ∈ ",".toList, Http.IsPlain c := by
        intro c hc
        cases List.mem_singleton.mp hc
        exact .inl (by decide)
      intro c hc
      simp only [String.intercalate_cons_cons, String.toList_append, List.mem_append] at hc
      obtain (hc | hc) | hc := hc
      · exact htext c hc
      · exact hcomma c hc
      · exact ih htexts c hc

theorem parseNames?_intercalate {texts : List String} (h : IsList texts) :
    parseNames? ⟨Text.Utf8.encode (",".intercalate texts)⟩ =
      texts.mapM fun text => HeaderName.parse? (Text.trim text) := by
  have htoList : (",".intercalate texts).toList = [','].intercalate (texts.map String.toList) :=
    String.toList_intercalate
  have hplain := plain_intercalate fun text htext c hc => (h.plain text htext c hc).1
  have hsplit : (",".intercalate texts).toList.splitOn ',' = texts.map String.toList := by
    rw [htoList]
    refine List.splitOn_intercalate ',' ?_ (by simpa using h.ne_nil)
    simpa using fun text htext hcomma => (h.plain text htext ',' hcomma).2 rfl
  have hofList : (texts.map String.toList).map String.ofList = texts := by
    simp [Function.comp_def]
  rw [parseNames?, HeaderValue.toText?_encode hplain]
  simp only [Option.bind_eq_bind, Option.bind_some, hsplit, hofList]

theorem mapM_eq_some_iff_forall {α β : Type} {f : α → Option β} {p : β → Prop} {texts : List α} :
    (∃ names, texts.mapM f = some names ∧ ∀ name ∈ names, p name) ↔
      ∀ text ∈ texts, ∃ name, f text = some name ∧ p name := by
  induction texts with
  | nil => simp
  | cons text texts ih =>
    rw [List.mapM_cons, List.forall_mem_cons, ← ih]
    cases f text with
    | none => simp
    | some name =>
      cases texts.mapM f with
      | none => simp
      | some names => simp

/-! ### Questions -/

/-- What a browser sends to ask whether a page of an origin may send a request with a method and with the
headers that the texts name. -/
structure Asks (request : Request) (origin method : String) (texts : List String) : Prop where
  method_eq : request.method = "OPTIONS"
  origin_eq : request.headers.first? originHeader = some (.ofAscii origin)
  asked_eq : request.headers.first? (accessControl "request-method") = some (.ofAscii method)
  isList : IsList texts
  texts_eq : request.headers.first? (accessControl "request-headers") =
    some ⟨Text.Utf8.encode (",".intercalate texts)⟩

variable {cors : Cors} {request : Request} {origin method : String} {texts : List String}

theorem allowedOrigin?_eq (horigin : origin ∈ cors.origins)
    (hsent : request.headers.first? originHeader = some (.ofAscii origin)) :
    cors.allowedOrigin? request = some (.ofAscii origin) := by
  rw [allowedOrigin?, hsent, Option.filter_some, if_pos]
  exact List.any_eq_true.mpr ⟨origin, horigin, beq_self_eq_true _⟩

theorem Asks.check_eq (h : Asks request origin method texts) (horigin : origin ∈ cors.origins)
    (hmethod : method ∈ cors.methods) :
    cors.check request method =
      match texts.mapM fun text => HeaderName.parse? (Text.trim text) with
      | none => .error .invalidHeaders
      | some names => if names.all cors.headers.contains then .ok (.ofAscii origin) else .error .headersRefused := by
  have hallowed := allowedOrigin?_eq horigin h.origin_eq
  have hcontains : cors.methods.contains method = true := List.contains_iff_mem.mpr hmethod
  have hparse := parseNames?_intercalate h.isList
  simp only [check, h.origin_eq, h.texts_eq, hallowed, hcontains, hparse, Option.isNone_some, Bool.not_true,
    Bool.false_eq_true, if_false]
  cases texts.mapM fun text => HeaderName.parse? (Text.trim text) <;> rfl

/-- The headers of responses that the layer has a say in. -/
def responseHeaders : List HeaderName :=
  [accessControl "allow-origin", accessControl "allow-methods", accessControl "allow-headers",
    accessControl "allow-credentials", accessControl "max-age", accessControl "expose-headers"]

/-- A response that a browser takes for a yes. -/
structure Permits (cors : Cors) (origin : String) (r : Response) : Prop where
  status_eq : r.status = .ok
  origin_eq : r.headers.all (accessControl "allow-origin") = [.ofAscii origin]
  credentials_eq : r.headers.all (accessControl "allow-credentials") = [.ofAscii "true"]
  methods_eq : r.headers.all (accessControl "allow-methods") = [listNames cors.methods]
  headers_eq : r.headers.all (accessControl "allow-headers") = [listNames (cors.headers.map (·.text))]

/-- A response that a browser takes for a no. -/
structure Denies (r : Response) : Prop where
  status_eq : r.status = .badRequest
  origin_eq : r.headers.all (accessControl "allow-origin") = []

/-- A response that a page of an origin may read, with a header that is exposed to it. -/
structure Exposes (origin : String) (header : HeaderName) (r : Response) : Prop where
  origin_eq : r.headers.all (accessControl "allow-origin") = [.ofAscii origin]
  credentials_eq : r.headers.all (accessControl "allow-credentials") = [.ofAscii "true"]
  exposed_eq : r.headers.all (accessControl "expose-headers") = [.ofAscii header.text]

theorem Asks.permits (h : Asks request origin method texts) (horigin : origin ∈ cors.origins)
    (hmethod : method ∈ cors.methods)
    (hnamed : ∀ text ∈ texts, ∃ name, name.IsNamedBy text ∧ name ∈ cors.headers) :
    cors.Permits origin (cors.preflight request method) := by
  have hread : ∀ text ∈ texts, ∃ name, HeaderName.parse? (Text.trim text) = some name ∧ name ∈ cors.headers := by
    intro text htext
    obtain ⟨name, hname, hallowed⟩ := hnamed text htext
    have hplain := fun c hc => (h.isList.plain text htext c hc).1
    exact ⟨name, (HeaderName.parse?_trim_iff hplain).mpr hname, hallowed⟩
  obtain ⟨names, hnames, hallowed⟩ := mapM_eq_some_iff_forall.mpr hread
  have hall : names.all cors.headers.contains = true := by simpa using hallowed
  have hcheck := h.check_eq horigin hmethod
  simp only [hnames, if_pos hall] at hcheck
  rw [preflight, hcheck]
  exact ⟨rfl, rfl, rfl, rfl, rfl⟩

theorem Asks.denies (h : Asks request origin method texts) (horigin : origin ∈ cors.origins)
    (hmethod : method ∈ cors.methods)
    (hnot : ¬ ∀ text ∈ texts, ∃ name, name.IsNamedBy text ∧ name ∈ cors.headers) :
    Denies (cors.preflight request method) := by
  have hrefused : ∃ refusal, cors.check request method = .error refusal := by
    rw [h.check_eq horigin hmethod]
    cases hnames : texts.mapM fun text => HeaderName.parse? (Text.trim text) with
    | none => exact ⟨_, rfl⟩
    | some names =>
      simp only
      split
      · rename_i hall
        have hallowed : ∀ name ∈ names, name ∈ cors.headers := by simpa using hall
        refine absurd (fun text htext => ?_) hnot
        obtain ⟨name, hname, hin⟩ := mapM_eq_some_iff_forall.mp ⟨names, hnames, hallowed⟩ text htext
        have hplain := fun c hc => (h.isList.plain text htext c hc).1
        exact ⟨name, (HeaderName.parse?_trim_iff hplain).mp hname, hin⟩
      · exact ⟨_, rfl⟩
  obtain ⟨refusal, hcheck⟩ := hrefused
  rw [preflight, hcheck]
  exact ⟨rfl, rfl⟩

theorem exposes_augment {header : HeaderName} (hexposed : cors.exposed = [header])
    (horigin : origin ∈ cors.origins) (hsent : request.headers.first? originHeader = some (.ofAscii origin))
    (r : Response) : Exposes origin header (cors.augment request r) := by
  have hallowed := allowedOrigin?_eq horigin hsent
  have haugment : (cors.augment request r).headers =
      (((r.headers.replace (accessControl "allow-origin") (.ofAscii origin)).replace
        (accessControl "expose-headers") (.ofAscii header.text)).replace
        credentialsHeader.1 credentialsHeader.2).replace varyHeader.1 varyHeader.2 := by
    have hlist : listNames [header.text] = .ofAscii header.text := by
      simp [listNames, List.eraseDups_cons, String.intercalate_singleton]
    rw [augment, hallowed, hexposed, List.map_cons, List.map_nil, hlist]
    rfl
  refine ⟨?_, ?_, ?_⟩
  · rw [haugment, Headers.all_replace_of_ne _ _ (by decide), Headers.all_replace_of_ne _ _ (by decide),
      Headers.all_replace_of_ne _ _ (by decide), Headers.all_replace]
  · rw [haugment, Headers.all_replace_of_ne _ _ (by decide)]
    exact Headers.all_replace ..
  · rw [haugment, Headers.all_replace_of_ne _ _ (by decide), Headers.all_replace_of_ne _ _ (by decide),
      Headers.all_replace]

/-! ### Other layers around -/

section

variable {header : HeaderName} {r r' : Response}

/-- What holds of a response under the headers of this layer holds also when another header is replaced. -/
theorem Permits.of_kept (h : cors.Permits origin r) (hstatus : r'.status = r.status)
    (hkept : ∀ name ∈ responseHeaders, r'.headers.all name = r.headers.all name) : cors.Permits origin r' where
  status_eq := hstatus.trans h.status_eq
  origin_eq := (hkept _ (by decide)).trans h.origin_eq
  credentials_eq := (hkept _ (by decide)).trans h.credentials_eq
  methods_eq := (hkept _ (by decide)).trans h.methods_eq
  headers_eq := (hkept _ (by decide)).trans h.headers_eq

theorem Denies.of_kept (h : Denies r) (hstatus : r'.status = r.status)
    (hkept : ∀ name ∈ responseHeaders, r'.headers.all name = r.headers.all name) : Denies r' where
  status_eq := hstatus.trans h.status_eq
  origin_eq := (hkept _ (by decide)).trans h.origin_eq

theorem Exposes.of_kept (h : Exposes origin header r)
    (hkept : ∀ name ∈ responseHeaders, r'.headers.all name = r.headers.all name) : Exposes origin header r' where
  origin_eq := (hkept _ (by decide)).trans h.origin_eq
  credentials_eq := (hkept _ (by decide)).trans h.credentials_eq
  exposed_eq := (hkept _ (by decide)).trans h.exposed_eq

end

end Cors

/-- The layer that sends identifiers back touches no header but its own. -/
theorem ContextLayer.PassesOn.keeps {layer : ContextLayer} {id : Option String} {r : Response}
    {outcome : Outcome} {records : List LogRecord} (h : layer.PassesOn id (.response r) outcome records) :
    ∃ r', outcome = .response r' ∧ r'.status = r.status ∧
      ∀ name, layer.echo ≠ some name → r'.headers.all name = r.headers.all name := by
  cases h with
  | unanswered outcome h => exact absurd rfl (h r)
  | unmarked r h => exact ⟨r, rfl, rfl, fun _ _ => rfl⟩
  | illegal r header text hecho hid h => exact ⟨r, rfl, rfl, fun _ _ => rfl⟩
  | marked r r' header text hecho hid h hr =>
    refine ⟨r', rfl, hr.status_eq, fun name hname => ?_⟩
    have hne : name ≠ header := fun heq => hname (heq ▸ hecho)
    rw [← r'.headers.all_filter hne, hr.others_eq, r.headers.all_filter hne]

end RequestScope
