import CrazyIvan.Controller.SceneHandlerFactory

/-!
Which requests the factory has a handler for.

* `Shape`, `DocumentedRoute`: the documented methods and paths, with their handlers.
* `route_short`, `route_stray`: a GET request whose path is too short is read past
  its end, and one whose path is too long has a handler.
* `routes_documented_iff`: every other request has the handler that is documented,
  as long as its path begins with a slash and names nothing by an empty string.
-/

namespace CrazyIvan

open Lines

/-! ### DocumentedRoute requests -/

/-- The methods and the elements of the paths that are documented, with the
handlers. -/
inductive Shape (principal : String) : String → List String → Handler → Prop where
  | create : Shape principal "POST" ["v1", "scene"] (.sceneBase sceneCrt principal "")
  | query : Shape principal "POST" ["v1", "scene", "query"] (.sceneBase sceneGet principal "")
  | update {key : String} (h : key ≠ "query") :
      Shape principal "POST" ["v1", "scene", key] (.sceneUpdate key principal)
  | register : Shape principal "POST" ["v1", "register"] (.sceneBase sceneEnter principal "")
  | deregister : Shape principal "POST" ["v1", "deregister"] (.sceneBase sceneLeave principal "")
  | align : Shape principal "POST" ["v1", "align"] (.sceneBase deviceAlign principal "")
  | deviceQuery :
      Shape principal "POST" ["v1", "device", "query"] (.sceneBase deviceGet principal "")
  | createKey (key : String) :
      Shape principal "PUT" ["v1", "scene", key] (.sceneBase sceneCrt principal key)
  | get (key : String) :
      Shape principal "GET" ["v1", "scene", key] (.sceneKey key sceneGet principal)
  | delete (key : String) :
      Shape principal "DELETE" ["v1", "scene", key] (.sceneKey key sceneDel principal)
  | cacheAdd (key : String) :
      Shape principal "PUT" ["v1", "scene", "cache", key] (.cacheUpdate cacheAdd key)
  | cacheDel (key : String) :
      Shape principal "DELETE" ["v1", "scene", "cache", key] (.cacheUpdate cacheDel key)
  | assetAdd (key asset : String) :
      Shape principal "PUT" ["v1", "scene", key, "asset", asset] (.assetUpdate key asset assetAdd)
  | assetDel (key asset : String) :
      Shape principal "DELETE" ["v1", "scene", key, "asset", asset]
        (.assetUpdate key asset assetDel)
  | health : Shape principal "GET" ["health"] .heartbeat

/-- The path with the given elements. -/
def pathOf (elements : List String) : String := String.join (elements.map ("/" ++ ·))

/-- A request of a documented shape: its path has elements that are not empty, and
maybe a slash behind them. -/
def DocumentedRoute (principal method uri : String) (handler : Handler) : Prop :=
  ∃ elements, Shape principal method elements handler ∧
    (∀ e ∈ elements, e ≠ "" ∧ '/' ∉ e.toList) ∧
    (uri = pathOf elements ∨ uri = pathOf elements ++ "/")

/-! ### The elements of a path -/

lemma pathOf_slash (elements : List String) :
    (pathOf elements ++ "/").toList = '/' :: unlines '/' (elements.map String.toList) := by
  induction elements with
  | nil => rfl
  | cons e es ih =>
      have hjoin : pathOf (e :: es) = "/" ++ e ++ pathOf es := by
        simp [pathOf, String.join_cons]
      rw [hjoin, String.append_assoc, String.toList_append, ih]
      simp [unlines]

lemma pathOf_append (elements : List String) (e : String) :
    pathOf (elements ++ [e]) = pathOf elements ++ "/" ++ e := by
  rw [pathOf, pathOf, List.map_append, String.join_append, List.map_singleton, String.append_assoc]
  simp [String.join_cons]

/-- A documented path has the elements it was put together from. -/
lemma split_pathOf {elements : List String}
    (hall : ∀ e ∈ elements, e ≠ "" ∧ '/' ∉ e.toList) (hne : elements ≠ []) {uri : String}
    (huri : uri = pathOf elements ∨ uri = pathOf elements ++ "/") :
    uri.toList.head? = some '/' ∧ split uri '/' = elements := by
  have hchars : ∀ es : List String, (∀ e ∈ es, e ≠ "" ∧ '/' ∉ e.toList) →
      ∀ l ∈ es.map String.toList, '/' ∉ l := by
    intro es hes l hl
    obtain ⟨e, he, rfl⟩ := List.mem_map.mp hl
    exact (hes e he).2
  have hback : ∀ es : List String, (es.map String.toList).map String.ofList = es :=
    fun es => by simp
  obtain rfl | rfl := huri
  · -- The last element ends the text.
    obtain ⟨init, e, rfl⟩ : ∃ init e, elements = init ++ [e] :=
      ⟨_, _, (List.dropLast_append_getLast hne).symm⟩
    have he := hall e (by simp)
    have htoList : (pathOf (init ++ [e])).toList =
        '/' :: (unlines '/' (init.map String.toList) ++ e.toList) := by
      rw [pathOf_append, String.toList_append, pathOf_slash, List.cons_append]
    rw [split_of_slash htoList, htoList, lines_unlines_append
      (hchars init fun x hx => hall x (by simp [hx])), lines_last (by simpa using he.1) he.2,
      List.map_append, hback]
    exact ⟨rfl, by simp⟩
  · have hlines := lines_unlines_append (hchars elements hall) []
    rw [List.append_nil, lines_nil, List.append_nil] at hlines
    rw [split_of_slash (pathOf_slash elements), hlines, hback, pathOf_slash]
    exact ⟨rfl, rfl⟩

/-- The elements of a path have no slash. -/
lemma notMem_of_mem_split {uri e : String} (he : e ∈ split uri '/') : '/' ∉ e.toList := by
  rw [split] at he
  split at he <;>
    · rw [splitFromIndex_eq] at he
      obtain ⟨l, hl, rfl⟩ := List.mem_map.mp he
      rw [String.toList_ofList]
      exact notMem_of_mem_lines hl

/-- A path that begins with a slash is put together from its elements. -/
lemma pathOf_split {uri : String} (hslash : uri.toList.head? = some '/') :
    uri = pathOf (split uri '/') ∨ uri = pathOf (split uri '/') ++ "/" := by
  obtain ⟨cs, hcs⟩ : ∃ cs, uri.toList = '/' :: cs := by
    cases h : uri.toList with
    | nil => simp [h] at hslash
    | cons c cs =>
        rw [h, List.head?_cons, Option.some.injEq] at hslash
        exact ⟨cs, by rw [hslash]⟩
  have hpath := pathOf_slash (split uri '/')
  have hlines : (split uri '/').map String.toList = lines '/' cs := by
    rw [split_of_slash hcs, List.map_map]
    simp
  rw [hlines] at hpath
  obtain h | h := unlines_lines '/' cs
  · rw [h, ← hcs] at hpath
    exact .inr (String.toList_inj.mp hpath).symm
  · rw [h] at hpath
    refine .inl (String.toList_inj.mp ?_)
    rw [String.toList_append, ← List.cons_append, ← hcs] at hpath
    exact (List.append_cancel_right hpath).symm

/-! ### Routes -/

section Routes

variable (method principal : String)

attribute [local simp] route sizeIs elementIs orUndefined ite_ok_false bind_of_ok bind_of_error
  pure_eq_ok

/-- The paths that are shorter than a GET request is read. -/
def TooShort (elements : List String) : Prop :=
  elements = [] ∨ elements = ["v1"] ∨ elements = ["v1", "scene"]

/-- The paths that are longer than a documented one, and that no earlier branch
takes up. -/
def TooLong : List String → Prop
  | "v1" :: "scene" :: key :: e :: rest =>
      ¬ (key = "cache" ∧ rest = []) ∧ ¬ (e = "asset" ∧ rest.length = 1)
  | _ => False

lemma route_short {elements : List String} (h : TooShort elements) :
    route "GET" elements principal = .error .undefined := by
  obtain rfl | rfl | rfl := h <;> simp

lemma route_of_shape {elements : List String} {handler : Handler}
    (h : Shape principal method elements handler) :
    route method elements principal = .ok (some handler) := by
  cases h with
  | update h => simp [h]
  | _ => simp

/-- Everything else has the handler of its shape, or none. -/
lemma exists_route {elements : List String}
    (hget : method = "GET" → ¬ TooShort elements ∧ ¬ TooLong elements) :
    ∃ r, route method elements principal = .ok r ∧
      ∀ handler, r = some handler → Shape principal method elements handler := by
  -- The branches are told apart by the number of elements first.
  rcases elements with _ | ⟨a, _ | ⟨b, _ | ⟨c, _ | ⟨d, _ | ⟨e, _ | ⟨f, rest⟩⟩⟩⟩⟩⟩
  · have hm : method ≠ "GET" := fun hm => (hget hm).1 (.inl rfl)
    simp [hm]
  · by_cases hm : method = "GET"
    · have ha : a ≠ "v1" := fun ha => (hget hm).1 (.inr (.inl (by rw [ha])))
      by_cases hhealth : a = "health"
      · subst hm hhealth
        exact ⟨some .heartbeat, by simp, fun _ h => Option.some.inj h ▸ .health⟩
      · simp [hm, ha, hhealth]
    · simp [hm]
  · have hm : method = "GET" → ¬ (a = "v1" ∧ b = "scene") := fun hm ha =>
      (hget hm).1 (.inr (.inr (by rw [ha.1, ha.2])))
    simp
    split_ifs
    all_goals simp_all
    all_goals constructor
  · simp
    split_ifs
    all_goals simp_all
    all_goals constructor
    assumption
  · simp
    split_ifs
    all_goals simp_all [TooLong]
    all_goals constructor
  · simp
    split_ifs
    all_goals simp_all [TooLong]
    all_goals constructor
  · simp
    split_ifs
    all_goals simp_all [TooLong]

lemma route_long {elements : List String} (h : TooLong elements) :
    ∃ key, route "GET" elements principal = .ok (some (.sceneKey key sceneGet principal)) ∧
      3 < elements.length := by
  rcases elements with _ | ⟨a, _ | ⟨b, _ | ⟨c, _ | ⟨d, rest⟩⟩⟩⟩
  · simp [TooLong] at h
  · simp [TooLong] at h
  · simp [TooLong] at h
  · simp [TooLong] at h
  · refine ⟨c, ?_, by simp⟩
    have hv : a = "v1" ∧ b = "scene" := by
      by_contra hne
      simp_all [TooLong]
    obtain ⟨rfl, rfl⟩ := hv
    obtain ⟨hcache, hasset⟩ := h
    rcases rest with _ | ⟨e, _ | ⟨f, rest⟩⟩
    · simp at hcache
      simp [hcache]
    · simp at hasset
      simp [hasset]
    · simp

omit method in
/-- No documented GET request has more than three elements. -/
lemma length_le_of_shape {method : String} {elements : List String} {handler : Handler}
    (h : Shape principal method elements handler) (hget : method = "GET") :
    elements.length ≤ 3 := by
  cases h <;> simp_all

end Routes

/-- The requests that are routed as documented: a GET request that is neither too
short nor too long; and where the elements of the path are those of a documented
one, there is a slash in front of them, and none is empty. -/
def RoutedWell (principal method uri : String) : Prop :=
  (method = "GET" → ¬ TooShort (split uri '/') ∧ ¬ TooLong (split uri '/')) ∧
    ((∃ handler, Shape principal method (split uri '/') handler) →
      uri.toList.head? = some '/' ∧ ∀ e ∈ split uri '/', e ≠ "")

lemma ne_nil_of_shape {principal method : String} {elements : List String} {handler : Handler}
    (h : Shape principal method elements handler) : elements ≠ [] := by
  cases h <;> simp

/-- Behind the authentication no element past the end of the path is read, and the
handlers are those that are documented, exactly for these requests. -/
theorem routes_documented_iff {decode : String → String} {accounts : Option SingleAccountManager}
    {request : HttpRequest} (hauth : authenticationFailure decode accounts request = false) :
    let principal := request.principal.getD ""
    (∃ r, createRequestHandler decode accounts request = .ok r ∧
      ∀ handler, r = some handler ↔ DocumentedRoute principal request.method request.uri handler) ↔
      RoutedWell principal request.method request.uri := by
  intro principal
  have hcreate : createRequestHandler decode accounts request =
      route request.method (split request.uri '/') principal := by
    rw [createRequestHandler, hauth]
    rfl
  -- A documented request has the elements of its shape.
  have hshape : ∀ handler, DocumentedRoute principal request.method request.uri handler →
      Shape principal request.method (split request.uri '/') handler ∧
        request.uri.toList.head? = some '/' ∧ ∀ e ∈ split request.uri '/', e ≠ "" := by
    rintro handler ⟨elements, hs, hall, huri⟩
    obtain ⟨hslash, hsplit⟩ := split_pathOf hall (ne_nil_of_shape hs) huri
    rw [hsplit]
    exact ⟨hs, hslash, fun e he => (hall e he).1⟩
  rw [hcreate]
  constructor
  · rintro ⟨r, hr, hall⟩
    refine ⟨fun hget => ⟨fun hshort => ?_, fun hlong => ?_⟩, ?_⟩
    · rw [hget, route_short principal hshort] at hr
      cases hr
    · obtain ⟨key, hkey, hlen⟩ := route_long principal hlong
      rw [hget, hkey] at hr
      obtain rfl := Except.ok.inj hr
      exact absurd (length_le_of_shape principal (hshape _ ((hall _).mp rfl)).1 hget)
        (not_le.mpr hlen)
    · rintro ⟨handler, hs⟩
      rw [route_of_shape _ _ hs] at hr
      obtain rfl := Except.ok.inj hr
      exact (hshape _ ((hall handler).mp rfl)).2
  · rintro ⟨hget, hplain⟩
    obtain ⟨r, hr, hall⟩ := exists_route request.method principal hget
    refine ⟨r, hr, fun handler => ⟨fun h => ?_, fun h => ?_⟩⟩
    · have hs := hall handler h
      obtain ⟨hslash, hne⟩ := hplain ⟨handler, hs⟩
      exact ⟨_, hs, fun e he => ⟨hne e he, notMem_of_mem_split he⟩, pathOf_split hslash⟩
    · have hroute := route_of_shape _ _ (hshape handler h).1
      exact Except.ok.inj (hr.symm.trans hroute)

/-- A request for all scenes. -/
def sceneListing : HttpRequest := { method := "GET", uri := "/v1/scene" }

theorem routes_sceneListing :
    ¬ ∃ r, createRequestHandler id none sceneListing = .ok r ∧
      ∀ handler, r = some handler ↔
        DocumentedRoute "" sceneListing.method sceneListing.uri handler := by
  have hsplit : split sceneListing.uri '/' = ["v1", "scene"] := by
    rw [split_of_slash rfl]
    decide
  have hcreate : createRequestHandler id none sceneListing = .error .undefined := by
    have hnone : authenticationFailure id none sceneListing = false := rfl
    rw [createRequestHandler, hnone, hsplit]
    exact route_short "" (.inr (.inr rfl))
  rintro ⟨r, hr, -⟩
  rw [hcreate] at hr
  cases hr

/-- A request for the state of the service. -/
def healthCheck : HttpRequest := { method := "GET", uri := "/health" }

theorem routes_healthCheck :
    ∃ r, createRequestHandler id none healthCheck = .ok r ∧
      ∀ handler, r = some handler ↔
        DocumentedRoute "" healthCheck.method healthCheck.uri handler := by
  have hsplit : split healthCheck.uri '/' = ["health"] := by
    rw [split_of_slash rfl]
    decide
  have hauth : authenticationFailure id none healthCheck = false := rfl
  refine (routes_documented_iff hauth).mpr ⟨fun _ => ?_, fun _ => ⟨rfl, ?_⟩⟩
  · rw [hsplit]
    exact ⟨by simp [TooShort], by simp [TooLong]⟩
  · rw [hsplit]
    decide

end CrazyIvan
