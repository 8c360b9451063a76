import Mathlib.Data.List.DropRight
import Mathlib.Logic.Relation
import RequestScope.Proofs.Context.Beginning
import RequestScope.Proofs.Service.Around
import RequestScope.Service.Endpoints
import RequestScope.Service.Normalize

/-!
# Paths in their normal form

A path says the same with a slash more where one is, or at the end. `DropsSlash` leaves one such slash out,
and the normal form is what is left when no more can be left out; it does not matter in which order that is
done. So paths that differ in such slashes have one normal form, which is the path that is recorded and the
path that the routes see.
-/

namespace RequestScope

/-- A slash that says nothing is left out: one of two in a row, or the last one behind something. -/
inductive DropsSlash : List Char → List Char → Prop
  | doubled (front back : List Char) : DropsSlash (front ++ '/' :: '/' :: back) (front ++ '/' :: back)
  | trailing (front : List Char) (h : front ≠ []) : DropsSlash (front ++ ['/']) front

/-- No slash of a path can be left out. -/
structure IsNormalPath (cs : List Char) : Prop where
  merged : ¬ ['/', '/'] <:+: cs
  trimmed : cs.getLast? = some '/' → cs = ['/']

theorem DropsSlash.cons (c : Char) {cs ds : List Char} (h : DropsSlash cs ds) :
    DropsSlash (c :: cs) (c :: ds) := by
  cases h with
  | doubled front back => exact .doubled (c :: front) back
  | trailing _ h => exact .trailing (c :: ds) (List.cons_ne_nil c ds)

theorem DropsSlash.sublist {cs ds : List Char} (h : DropsSlash cs ds) : ds.Sublist cs := by
  cases h with
  | doubled front back => simp
  | trailing front h => simp

theorem IsNormalPath.not_dropsSlash {cs ds : List Char} (h : IsNormalPath cs) : ¬ DropsSlash cs ds := by
  intro hdrops
  cases hdrops with
  | doubled front back => exact h.merged ⟨front, back, by simp⟩
  | trailing front hfront =>
    have hroot := h.trimmed (by simp)
    simp [hfront] at hroot

/-! ### Slashes at the end -/

theorem trimSlashes_eq (cs : List Char) : trimSlashes cs = cs.rdropWhile (· == '/') := rfl

theorem trimSlashes_eq_nil_iff {cs : List Char} : trimSlashes cs = [] ↔ ∀ c ∈ cs, c = '/' := by
  simp [trimSlashes_eq]

theorem getLast?_trimSlashes (cs : List Char) : (trimSlashes cs).getLast? ≠ some '/' := by
  by_cases hne : trimSlashes cs = []
  · simp [hne]
  · have hlast : (trimSlashes cs).getLast hne ≠ '/' := fun heq =>
      List.rdropWhile_last_not (· == '/') cs hne (beq_iff_eq.mpr heq)
    simpa [List.getLast?_eq_some_getLast hne] using hlast

theorem trimSlashes_slash (cs : List Char) : trimSlashes (cs ++ ['/']) = trimSlashes cs := by
  simp [trimSlashes_eq]

theorem trimSlashes_append (front back : List Char) :
    trimSlashes (front ++ back) =
      if trimSlashes back = [] then trimSlashes front else front ++ trimSlashes back := by
  simp only [trimSlashes, List.reverse_append, List.dropWhile_append, List.isEmpty_iff,
    List.reverse_eq_nil_iff]
  split <;> simp

/-- Slashes between two parts of a path stay if there is something else behind them. -/
theorem trimSlashes_between (front back : List Char) {slashes : List Char} (h : trimSlashes slashes = []) :
    trimSlashes (front ++ (slashes ++ back)) =
      if trimSlashes back = [] then trimSlashes front else front ++ (slashes ++ trimSlashes back) := by
  rw [trimSlashes_append, trimSlashes_append, h]
  by_cases hback : trimSlashes back = []
  · simp [hback]
  · simp [hback]

/-! ### Slashes in a row -/

theorem mergeSlashes_cons (c : Char) (cs : List Char) :
    mergeSlashes (c :: cs) =
      if c = '/' ∧ cs.head? = some '/' then mergeSlashes cs else c :: mergeSlashes cs := by
  by_cases hc : c = '/'
  · subst hc
    simp [mergeSlashes]
  · rw [mergeSlashes, if_neg fun h => hc h.1]
    exact fun h => hc h

theorem head?_mergeSlashes (cs : List Char) : (mergeSlashes cs).head? = cs.head? := by
  induction cs with
  | nil => rfl
  | cons c cs ih =>
    rw [mergeSlashes_cons]
    split
    · rename_i h
      rw [ih, h.1, h.2, List.head?_cons]
    · simp

theorem mergeSlashes_eq_nil_iff {cs : List Char} : mergeSlashes cs = [] ↔ cs = [] := by
  rw [← List.head?_eq_none_iff, head?_mergeSlashes, List.head?_eq_none_iff]

theorem getLast?_mergeSlashes (cs : List Char) : (mergeSlashes cs).getLast? = cs.getLast? := by
  induction cs with
  | nil => rfl
  | cons c cs ih =>
    rw [mergeSlashes_cons]
    split
    · rename_i h
      cases cs with
      | nil => simp at h
      | cons d ds => rw [ih, List.getLast?_cons_cons]
    · rw [List.getLast?_cons, List.getLast?_cons, ih]

theorem merged_mergeSlashes (cs : List Char) : ¬ ['/', '/'] <:+: mergeSlashes cs := by
  induction cs with
  | nil => simp [mergeSlashes]
  | cons c cs ih =>
    rw [mergeSlashes_cons]
    split
    · exact ih
    · rename_i h
      rw [List.infix_cons_iff, not_or]
      refine ⟨fun hprefix => h ?_, ih⟩
      obtain ⟨rfl, htail⟩ := List.cons_prefix_cons.mp hprefix
      obtain ⟨rest, hrest⟩ := htail
      refine ⟨rfl, ?_⟩
      rw [← head?_mergeSlashes, ← hrest]
      rfl

theorem mergeSlashes_doubled (front back : List Char) :
    mergeSlashes (front ++ '/' :: '/' :: back) = mergeSlashes (front ++ '/' :: back) := by
  induction front with
  | nil => simp [mergeSlashes_cons]
  | cons c front ih =>
    have hhead : (front ++ '/' :: '/' :: back).head? = (front ++ '/' :: back).head? := by
      cases front <;> rfl
    rw [List.cons_append, List.cons_append, mergeSlashes_cons, mergeSlashes_cons, ih, hhead]

/-! ### The normal form -/

/-- The characters of the normal form of a path that is not missing. -/
def normalChars (cs : List Char) : List Char :=
  if trimSlashes cs = [] then ['/'] else mergeSlashes (trimSlashes cs)

theorem toList_normalizePath {path : String} (h : path ≠ "") :
    (normalizePath path).toList = normalChars path.toList := by
  rw [normalizePath, normalChars, if_neg (by simpa using h)]
  simp only [List.isEmpty_iff, mergeSlashes_eq_nil_iff]
  split <;> simp

theorem isNormalPath_normalChars (cs : List Char) : IsNormalPath (normalChars cs) := by
  rw [normalChars]
  split
  · exact ⟨by decide, fun _ => rfl⟩
  · refine ⟨merged_mergeSlashes _, fun hlast => ?_⟩
    rw [getLast?_mergeSlashes] at hlast
    exact absurd hlast (getLast?_trimSlashes cs)

theorem DropsSlash.normalChars_eq {cs ds : List Char} (h : DropsSlash cs ds) :
    normalChars cs = normalChars ds := by
  cases h with
  | doubled front back =>
    have htwo := trimSlashes_between front back (rfl : trimSlashes ['/', '/'] = [])
    have hone := trimSlashes_between front back (rfl : trimSlashes ['/'] = [])
    simp only [List.cons_append, List.nil_append] at htwo hone
    rw [normalChars, normalChars, htwo, hone]
    -- With nothing but slashes behind them, the two slashes fall to the trimming, otherwise to the merging.
    by_cases hback : trimSlashes back = []
    · simp [hback]
    · simp [hback, mergeSlashes_doubled]
  | trailing _ _ => rw [normalChars, normalChars, trimSlashes_slash]

open Relation in
theorem dropsSlash_mergeSlashes (cs : List Char) : ReflTransGen DropsSlash cs (mergeSlashes cs) := by
  induction cs with
  | nil => exact .refl
  | cons c cs ih =>
    rw [mergeSlashes_cons]
    split
    · rename_i h
      cases cs with
      | nil => simp at h
      | cons d ds =>
        obtain ⟨rfl, hd⟩ := h
        obtain rfl : d = '/' := by simpa using hd
        exact .head (.doubled [] ds) ih
    · exact ih.lift (c :: ·) fun _ _ => DropsSlash.cons c

open Relation in
theorem dropsSlash_trimSlashes {cs : List Char} (h : cs ≠ []) :
    ReflTransGen DropsSlash cs (if trimSlashes cs = [] then ['/'] else trimSlashes cs) := by
  induction cs using List.reverseRecOn with
  | nil => exact absurd rfl h
  | append_singleton cs c ih =>
    by_cases hc : c = '/'
    · subst hc
      rw [trimSlashes_slash]
      by_cases hcs : cs = []
      · subst hcs
        exact .refl
      · exact .head (.trailing cs hcs) (ih hcs)
    · have htrim : trimSlashes (cs ++ [c]) = cs ++ [c] := List.rdropWhile_concat_neg _ _ _ (by simpa using hc)
      rw [htrim, if_neg (by simp)]

open Relation in
/-- The normal form is what is left when slashes are left out as long as there are any that say nothing. -/
theorem dropsSlash_normalChars {cs : List Char} (h : cs ≠ []) : ReflTransGen DropsSlash cs (normalChars cs) := by
  have htrim := dropsSlash_trimSlashes h
  rw [normalChars]
  split
  · rename_i hnil
    rwa [if_pos hnil] at htrim
  · rename_i hne
    rw [if_neg hne] at htrim
    exact htrim.trans (dropsSlash_mergeSlashes _)

theorem normalChars_of_normal {cs : List Char} (hne : cs ≠ []) (h : IsNormalPath cs) : normalChars cs = cs := by
  -- The way down to the normal form has no first step.
  cases (dropsSlash_normalChars hne).cases_head with
  | inl heq => exact heq.symm
  | inr hstep =>
    obtain ⟨ds, hdrops, -⟩ := hstep
    exact absurd hdrops h.not_dropsSlash

theorem normalChars_eq_of_alike {cs ds : List Char} (h : Relation.EqvGen DropsSlash cs ds) :
    normalChars cs = normalChars ds := by
  induction h with
  | rel _ _ hdrops => exact hdrops.normalChars_eq
  | refl _ => rfl
  | symm _ _ _ ih => exact ih.symm
  | trans _ _ _ _ _ ih ih' => exact ih.trans ih'

theorem ne_nil_iff_of_alike {cs ds : List Char} (h : Relation.EqvGen DropsSlash cs ds) : cs ≠ [] ↔ ds ≠ [] := by
  induction h with
  | rel _ _ hdrops =>
    cases hdrops with
    | doubled front back => simp
    | trailing _ h => simp [h]
  | refl _ => rfl
  | symm _ _ _ ih => exact ih.symm
  | trans _ _ _ _ _ ih ih' => exact ih.trans ih'

/-- The normal form of a path. -/
structure IsNormalForm (path recorded : String) : Prop where
  reached : Relation.ReflTransGen DropsSlash path.toList recorded.toList
  normal : IsNormalPath recorded.toList
  unique : ∀ other : String, Relation.ReflTransGen DropsSlash path.toList other.toList →
    IsNormalPath other.toList → other = recorded
  of_slashes : (∀ c ∈ path.toList, c = '/') → recorded = "/"
  again : normalizePath recorded = recorded

theorem normalizePath_eq_of_alike {path other : String}
    (h : Relation.EqvGen DropsSlash path.toList other.toList) : normalizePath path = normalizePath other := by
  by_cases hpath : path = ""
  · have hother : other = "" := by simpa [hpath] using ne_nil_iff_of_alike h
    rw [hpath, hother]
  · have hother : other ≠ "" := by simpa [hpath] using ne_nil_iff_of_alike h
    rw [← String.toList_inj, toList_normalizePath hpath, toList_normalizePath hother, normalChars_eq_of_alike h]

theorem isNormalForm_normalizePath {path : String} (h : path ≠ "") : IsNormalForm path (normalizePath path) := by
  have hpath : path.toList ≠ [] := by simpa using h
  have hreached := dropsSlash_normalChars hpath
  have hnormal := isNormalPath_normalChars path.toList
  rw [← toList_normalizePath h] at hreached hnormal
  have hunique (other : String) (hother : Relation.ReflTransGen DropsSlash path.toList other.toList)
      (hnormal : IsNormalPath other.toList) : other = normalizePath path := by
    have halike := Relation.EqvGen.reflTransGen_le_eqvGen _ _ _ hother
    have hne := (ne_nil_iff_of_alike halike).mp hpath
    rw [← String.toList_inj, toList_normalizePath h, normalChars_eq_of_alike halike, normalChars_of_normal hne hnormal]
  refine ⟨hreached, hnormal, hunique, fun hslashes => ?_, ?_⟩
  · rw [← String.toList_inj, toList_normalizePath h, normalChars, if_pos (trimSlashes_eq_nil_iff.mpr hslashes)]
    rfl
  · exact (normalizePath_eq_of_alike (Relation.EqvGen.reflTransGen_le_eqvGen _ _ _ hreached)).symm

theorem IsNormalForm.sublist {path recorded : String} (h : IsNormalForm path recorded) :
    recorded.toList.Sublist path.toList := by
  have hreached := h.reached
  generalize recorded.toList = cs at hreached
  induction hreached with
  | refl => exact .refl _
  | tail _ hdrops ih => exact hdrops.sublist.trans ih

theorem Http.Target.question_notMem_path (uri : String) : '?' ∉ (Http.Target.parse uri).path.toList := by
  have hsplit (cs : List Char) : '?' ∉ (Http.Target.splitQuery cs).path.toList := by
    have htake : '?' ∉ cs.takeWhile (· != '?') := fun hmem => by simpa using List.mem_takeWhile_imp hmem
    rw [Http.Target.splitQuery]
    split <;> simpa using htake
  rw [Http.Target.parse]
  split
  · dsimp only
    split <;> exact hsplit _
  · split
    · exact hsplit _
    · simp

namespace Route

/-- The route that a request reaches, with the parameters in its path. -/
def reached? (routes : List Route) (request : Http.Request) : Option (Route × List String) :=
  routes.findSome? fun route => (route.match? request).map (route, ·)

/-- What answers when a route has been reached, or none. -/
def answer (found : Option (Route × List String)) : Service := fun request =>
  found.elim Work.missing fun found => (found.1.handler found.2 request).bind Work.settle

theorem dispatch_eq_answer (routes : List Route) (request : Http.Request) :
    dispatch routes request = answer (reached? routes request) request := by
  have hfound : (routes.findSome? fun route => (route.match? request).map route.handler) =
      (reached? routes request).map fun found => found.1.handler found.2 := by
    simp [reached?, List.map_findSome?, Function.comp_def]
  rw [dispatch, hfound]
  cases reached? routes request <;> rfl

theorem reached?_congr {request other : Http.Request} (hmethod : other.method = request.method)
    (hpath : other.target.path = request.target.path) (routes : List Route) :
    reached? routes other = reached? routes request := by
  simp only [reached?, match?, matchedPath, hmethod, hpath]

end Route

/-- Behind the layer of normal paths, the context layer records the normal form of the path of a request, and
the service inside is called with the request in this form. It has no part of the query, which stays as it is.
A request of the same method whose path differs in slashes that say nothing has the same path recorded and
reaches the same route with the same parameters, or none as well; if it differs in nothing else, nothing from
there on can tell it apart. -/
theorem normal_path_recorded (policy : IdPolicy) (echo : Option Http.HeaderName) (ids : IdSupply) (inner : Service)
    (method uri : String) (headers : Http.Headers) (body : List UInt8) (hpath : (Http.Target.parse uri).path ≠ "") :
    let request : Http.Request := ⟨method, .parse uri, headers, body⟩
    let layer : ContextLayer := ⟨.request policy, echo⟩
    let entries := (layer.initializer.entries request.normalize ids).1
    let recorded := normalizePath request.target.path
    (∃ id, entries.toList =
      [("http_method", .string method), ("path", .string recorded), ("request_id", .string id)]) ∧
    (∀ number turns depth heap,
      let own : Handle := ⟨number, 0⟩
      (Future.ready (normalizeLayer (layer.around ids inner) request)).pollInAt depth {}
          ⟨heap, { id := number, turns }⟩ =
        (Future.within (.held (some own))
          ((Future.ready (inner request.normalize)).bind (layer.release entries.requestId?)) .ret).pollInAt depth {}
            ⟨heap.write own entries, (Process.ofCall own turns (inner request.normalize)).session.behind
              [ContextLayer.bindRecord request.normalize entries.requestId?]⟩) ∧
    IsNormalForm request.target.path recorded ∧
    '?' ∉ recorded.toList ∧ request.normalize.target = ⟨recorded, request.target.query⟩ ∧
    ∀ other : Http.Request, other.method = method →
      Relation.EqvGen DropsSlash request.target.path.toList other.target.path.toList →
      normalizePath other.target.path = recorded ∧
      (∀ routes, let found := Route.reached? routes request.normalize
        Route.dispatch routes request.normalize = Route.answer found request.normalize ∧
        Route.dispatch routes other.normalize = Route.answer found other.normalize) ∧
      (other = { request with target := { request.target with path := other.target.path } } →
        other.normalize = request.normalize) := by
  intro request layer entries recorded
  have hnormal : IsNormalForm request.target.path recorded := isNormalForm_normalizePath hpath
  refine ⟨⟨_, Initializer.toList_describe request.normalize _⟩, fun number turns depth heap => ?_, hnormal, ?_, rfl,
    fun other hmethod halike => ?_⟩
  · exact layer.pollInAt_around ids inner request.normalize number turns depth heap
  · intro hmem
    exact Http.Target.question_notMem_path uri (hnormal.sublist.mem hmem)
  · have hsame : normalizePath other.target.path = recorded := (normalizePath_eq_of_alike halike).symm
    refine ⟨hsame, fun routes => ⟨Route.dispatch_eq_answer routes _, ?_⟩, fun heq => ?_⟩
    · have hreached : Route.reached? routes other.normalize = Route.reached? routes request.normalize :=
        Route.reached?_congr hmethod hsame routes
      rw [Route.dispatch_eq_answer, hreached]
    · rw [heq]
      simp only [Http.Request.normalize, hsame]
      rfl

/-- A path with slashes to spare is recorded like the tidy one, and both reach the endpoint of the context. -/
theorem normal_path_recorded_untidy :
    let uri := "//api/v1///context//?path=//x/"
    let request : Http.Request := ⟨"GET", .parse uri, [], []⟩
    let tidy : Http.Request := ⟨"GET", .parse "/api/v1/context", [], []⟩
    let policy : IdPolicy := { header := Settings.defaultIdHeader }
    let entries := ((Initializer.request policy).entries request.normalize (IdSupply.ofSource .mock)).1
    request.target.path ≠ "" ∧ entries.get? "path" = some (.string "/api/v1/context") ∧
      (contextRoute.match? request.normalize).isSome ∧
      Route.dispatch [contextRoute] tidy.normalize =
        Route.answer (Route.reached? [contextRoute] request.normalize) tidy.normalize := by
  intro uri request tidy policy entries
  have hpath : (Http.Target.parse uri).path ≠ "" := by decide +kernel
  have hrecorded : normalizePath request.target.path = "/api/v1/context" := by decide +kernel
  obtain ⟨⟨id, htoList⟩, -, hnormal, -, -, hother⟩ :=
    normal_path_recorded policy none (.ofSource .mock) (fun _ => .missing) "GET" uri [] [] hpath
  have halike : Relation.EqvGen DropsSlash request.target.path.toList tidy.target.path.toList := by
    have hdrops := Relation.EqvGen.reflTransGen_le_eqvGen _ _ _ hnormal.reached
    rwa [hrecorded] at hdrops
  refine ⟨hpath, ?_, by decide +kernel, ((hother tidy rfl halike).2.1 [contextRoute]).2⟩
  rw [SortedMap.get?, htoList, hrecorded]
  rfl

end RequestScope
