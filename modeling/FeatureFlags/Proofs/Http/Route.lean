import FeatureFlags.Http.Route

/-!
# Where the requests for records lead

Features and feature states are asked for under eight addresses, four of which end in an identifier.
A request with the method and the path of one of them gets to its endpoint, whatever the root of
the service is and whatever characters the identifier has, as long as it is one step of the path
(`Asks.find`).
-/

namespace FeatureFlags.Http

/-- An identifier that is one step of a path. -/
def IsSegment (id : String) : Prop := id ≠ "" ∧ '/' ∉ id.toList

namespace Endpoint

/-- The method and the path, under the root, of an endpoint of features or feature states. -/
def place? : Endpoint → Option (String × String)
  | .listFeatures => some ("GET", "/features")
  | .createFeature => some ("POST", "/features")
  | .updateFeature id => some ("PUT", "/features/" ++ id)
  | .deleteFeature id => some ("DELETE", "/features/" ++ id)
  | .listStates => some ("GET", "/feature-states")
  | .createState => some ("POST", "/feature-states")
  | .updateState id => some ("PUT", "/feature-states/" ++ id)
  | .deleteState id => some ("DELETE", "/feature-states/" ++ id)
  | .ready | .health | .document => none

/-- The identifier in the address of an endpoint. -/
def id? : Endpoint → Option String
  | .updateFeature id | .deleteFeature id | .updateState id | .deleteState id => some id
  | _ => none

end Endpoint

/-- The request is addressed to an endpoint of features or feature states. -/
structure Asks (root : String) (e : Endpoint) (r : Request) : Prop where
  place : ∃ path, e.place? = some (r.method, path) ∧ r.path = root ++ path
  segment : ∀ id, e.id? = some id → IsSegment id

namespace Route

theorem isPrefixOf_append (a b c : List Char) : (a ++ b).isPrefixOf (a ++ c) = b.isPrefixOf c := by
  induction a with
  | nil => rfl
  | cons x a ih => simp [ih]

/-- The root of the service does not matter for what a route matches. -/
theorem match?_append (root path : String) (r : Route) :
    r.match? root (root ++ path) = r.match? "" path := by
  have hstart : ("" ++ r.path).toList = r.path.toList := by simp
  have hdrop : (root ++ path).toList.drop (root ++ r.path).toList.length =
      path.toList.drop r.path.toList.length := by
    simp [String.toList_append, List.drop_append]
  have hprefix : (root ++ r.path).toList.isPrefixOf (root ++ path).toList =
      r.path.toList.isPrefixOf path.toList := by
    rw [String.toList_append, String.toList_append, isPrefixOf_append]
  simp only [match?, hstart, hdrop, hprefix]

theorem find_append {method path : String} {e : Endpoint} (root : String)
    (h : find "" method path = .endpoint e) : find root method (root ++ path) = .endpoint e := by
  unfold find at h ⊢
  simp only [match?_append] at h ⊢
  split at h
  · exact h
  · split at h
    · cases h
    · split at h <;> cases h

/-- A path that begins with the path of a route and goes on with an identifier. -/
theorem match?_of_segment {r : Route} {id : String} (hr : r.takesId = true) (hid : IsSegment id) :
    r.match? "" (r.path ++ id) = some id := by
  have hne : id.toList ≠ [] := fun h => hid.1 (by simpa using h)
  have hprefix : r.path.toList.isPrefixOf (r.path.toList ++ id.toList) = true := by
    rw [List.isPrefixOf_iff_prefix]
    exact List.prefix_append _ _
  simp [match?, String.toList_append, hprefix, hr, hid.2, hid.1]

/-- The first route of its method that matches is the one. -/
theorem find_of_first {before after : List Route} {r : Route} {path id : String}
    (hall : all = before ++ r :: after) (hr : r.match? "" path = some id)
    (hbefore : ∀ r' ∈ before, r'.method = r.method → r'.match? "" path = none) :
    find "" r.method path = .endpoint (r.endpoint id) := by
  unfold find
  have hnone : ((before.filterMap fun r => (r.match? "" path).map fun id => (r, id)).find?
      fun (r', _) => r'.method == r.method) = none := by
    rw [List.find?_eq_none]
    rintro ⟨r', id'⟩ hmem hmethod
    obtain ⟨r'', hr'', hmatch⟩ := List.mem_filterMap.1 hmem
    obtain ⟨_, hmatch, heq⟩ := Option.map_eq_some_iff.1 hmatch
    cases heq
    rw [hbefore r' hr'' (by simpa using hmethod)] at hmatch
    cases hmatch
  simp only [hall, List.filterMap_append, List.filterMap_cons, hr, Option.map_some,
    List.find?_append, hnone, Option.none_or, List.find?_cons, beq_self_eq_true]

end Route

/-- The states are not below the features. -/
theorem Route.match?_features_states {r : Route} (hr : r.path = "/features/") (id : String) :
    r.match? "" ("/feature-states/" ++ id) = none := by
  simp [match?, hr, String.toList_append]

/-- **A request for records gets to its endpoint.** -/
theorem Asks.find {root : String} {e : Endpoint} {r : Request} (h : Asks root e r) :
    Route.find root r.method r.path = .endpoint e := by
  obtain ⟨⟨path, hplace, hpath⟩, hid⟩ := h
  rw [hpath]
  refine Route.find_append root ?_
  generalize r.method = method at hplace
  cases e with
  | ready | health | document => cases hplace
  | listFeatures | createFeature | listStates | createState =>
    cases hplace
    decide
  | updateFeature id =>
    cases hplace
    have hall : Route.all = Route.all.take 4 ++
        ⟨"PUT", "/features/", true, .updateFeature⟩ :: Route.all.drop 5 := rfl
    exact Route.find_of_first hall (Route.match?_of_segment rfl (hid id rfl)) (by simp [Route.all])
  | deleteFeature id =>
    cases hplace
    have hall : Route.all = Route.all.take 5 ++
        ⟨"DELETE", "/features/", true, .deleteFeature⟩ :: Route.all.drop 6 := rfl
    exact Route.find_of_first hall (Route.match?_of_segment rfl (hid id rfl)) (by simp [Route.all])
  | updateState id =>
    cases hplace
    have hall : Route.all = Route.all.take 8 ++
        ⟨"PUT", "/feature-states/", true, .updateState⟩ :: Route.all.drop 9 := rfl
    exact Route.find_of_first hall (Route.match?_of_segment rfl (hid id rfl))
      (by simp [Route.all, Route.match?_features_states])
  | deleteState id =>
    cases hplace
    have hall : Route.all = Route.all.take 9 ++
        ⟨"DELETE", "/feature-states/", true, .deleteState⟩ :: Route.all.drop 10 := rfl
    exact Route.find_of_first hall (Route.match?_of_segment rfl (hid id rfl))
      (by simp [Route.all, Route.match?_features_states])

end FeatureFlags.Http
