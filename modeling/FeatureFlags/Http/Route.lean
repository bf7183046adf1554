import FeatureFlags.Http.Message

/-!
# Routes

Which endpoint a method and a path lead to. The routes are tried in order, all of them under the
root of the service; a path may end in an identifier, which is a step of the path and not empty.

When the path is known but the method is not, the answer names the method of the first route with
that path. When the path is not known, but would be with a slash more or without slashes at its
end, the client is sent there.
-/

namespace FeatureFlags.Http

/-- What the service can be asked: the functions of the routers. -/
inductive Endpoint where
  | ready
  | health
  | listFeatures
  | createFeature
  | updateFeature (id : String)
  | deleteFeature (id : String)
  | listStates
  | createState
  | updateState (id : String)
  | deleteState (id : String)
  | document
deriving DecidableEq, Repr

/-- A method and a path that lead to an endpoint. -/
structure Route where
  method : String
  path : String
  takesId : Bool
  endpoint : String → Endpoint

namespace Route

/-- The routes, in the order in which they are tried: that in which `create_app` includes the
routers. -/
def all : List Route :=
  [⟨"GET", "/", false, fun _ => .ready⟩,
    ⟨"GET", "/health", false, fun _ => .health⟩,
    ⟨"GET", "/features", false, fun _ => .listFeatures⟩,
    ⟨"POST", "/features", false, fun _ => .createFeature⟩,
    ⟨"PUT", "/features/", true, .updateFeature⟩,
    ⟨"DELETE", "/features/", true, .deleteFeature⟩,
    ⟨"GET", "/feature-states", false, fun _ => .listStates⟩,
    ⟨"POST", "/feature-states", false, fun _ => .createState⟩,
    ⟨"PUT", "/feature-states/", true, .updateState⟩,
    ⟨"DELETE", "/feature-states/", true, .deleteState⟩,
    ⟨"GET", "/flagd.json", false, fun _ => .document⟩]

/-- The identifier in a path that the route matches; empty when the route takes none. The end of a
line after the path does not matter then. -/
def match? (root path : String) (r : Route) : Option String :=
  let start := (root ++ r.path).toList
  let rest := path.toList.drop start.length
  if !start.isPrefixOf path.toList then none
  else if r.takesId then
    if rest.isEmpty || rest.contains '/' then none else some (String.ofList rest)
  else if rest.isEmpty || rest == ['\n'] then some ""
  else none

/-- Is there a route for the path? -/
def isKnown (root path : String) : Bool := all.any fun r => (r.match? root path).isSome

/-- Where a method and a path lead. -/
inductive Destination where
  | endpoint (e : Endpoint)
  | otherMethod (allowed : String)
  | moved (path : String)
  | nowhere
deriving DecidableEq, Repr

/-- The path with a slash more, or without the slashes at its end. -/
def otherPath (path : String) : String :=
  if path.endsWith "/" then String.ofList (Text.trimEnd (· == '/') path.toList) else path ++ "/"

/-- The destination of a method and a path. -/
def find (root method path : String) : Destination :=
  let matching := all.filterMap fun r => (r.match? root path).map fun id => (r, id)
  match matching.find? fun (r, _) => r.method == method with
  | some (r, id) => .endpoint (r.endpoint id)
  | none =>
    match matching with
    | (r, _) :: _ => .otherMethod r.method
    | [] =>
      if path != "/" && isKnown root (otherPath path) then .moved (otherPath path) else .nowhere

end Route

/-- Characters that stand as they are in the address that a client is sent to. -/
def keepInLocation (c : Char) : Bool :=
  Text.Percent.isUnreserved c || ":/%#?=@[]!$&'()*+,;".toList.contains c

/-- Sends a client to another path. -/
def redirect (r : Request) (path : String) : Response :=
  let location := "http://" ++ r.host ++ path ++ r.queryText
  ⟨307, [("location", String.ofList (Text.Percent.encode keepInLocation location.toList))], .empty⟩

end FeatureFlags.Http
