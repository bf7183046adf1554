import FeatureFlags.Backend.Document
import FeatureFlags.Http.CrossOrigin
import FeatureFlags.Http.Payload
import FeatureFlags.Http.Route
import FeatureFlags.Settings

/-!
# Answering requests: `create_app`

What the endpoints answer, and how a request becomes a response. An error of the service has its own
status and tells its message; it is logged when the status says that the service is to blame. Any
other failure becomes a bare answer with status 500, which no header is added to.
-/

namespace FeatureFlags.Http

variable {σ : Type} [Json.DepthLimit]

/-- The logger of the application. -/
def appLogger : String := "app.main"

/-- The logger of the health endpoint. -/
def healthLogger : String := "app.api.v1.health"

/-- Is the store there (`health`)? Anything that keeps it from being read (`STORE_READ_ERRORS`)
counts as no. -/
def checkHealth (b : Backend σ) : Service σ Response := do
  let ok ← tryCatch (do let _ ← b.run .listFeatures; return true) fun f => do
    if f.isReadError then
      Service.log
        ⟨.warning, healthLogger, "Health check: flag store unavailable: " ++ f.message, []⟩
      return false
    else throw f
  return .json 200
    (.object [("ok", .bool ok), ("store", .string (if ok then "✓" else "✗"))])

/-- The answer to a payload with issues. Inputs that no JSON can hold cannot be told. -/
def rejected (issues : List Issue) : Service σ Response :=
  if issues.all fun i => i.input.isWritable then return issuesResponse issues
  else throw (.value "Out of range float values are not JSON compliant")

/-- Goes on with the payload of a request. -/
def withPayload {α : Type} (r : Request) (read : List (String × Json) → Checked α)
    (go : α → Service σ Response) : Service σ Response :=
  match r.payload with
  | .error .unreadable => return .detail 400 "There was an error parsing the body"
  | .error (.undecodable offset defect) => rejected [undecodable offset defect]
  | .ok p =>
    match p.read read with
    | .accepted a => go a
    | .rejected issues => rejected issues

/-- The reply to an operation. -/
def replyTo (b : Backend σ) (status : Nat) (op : Operation) : Service σ Response := do
  return .json status (← b.run op).toJson

/-- The message that something is gone. -/
def deleted (b : Backend σ) (message : String) (op : Operation) : Service σ Response := do
  let _ ← b.run op
  return .json 200 (.object [("message", .string message)])

/-- What an endpoint answers. Each is one function of a router, from `ready` and `health` to
`flagd_config`. -/
def Endpoint.answer (b : Backend σ) (r : Request) : Endpoint → Service σ Response
  | .ready => return .text 200 "Ready"
  | .health => checkHealth b
  | .listFeatures => replyTo b 200 .listFeatures
  | .createFeature =>
    withPayload r Feature.Draft.ofMembers fun d => replyTo b 201 (.createFeature d)
  | .updateFeature id =>
    withPayload r Feature.Patch.ofMembers fun p => replyTo b 200 (.updateFeature id p)
  | .deleteFeature id => deleted b "Feature deleted successfully" (.deleteFeature id)
  | .listStates => replyTo b 200 .listStates
  | .createState =>
    withPayload r FeatureState.Draft.ofMembers fun d => replyTo b 201 (.createState d)
  | .updateState id =>
    withPayload r FeatureState.Patch.ofMembers fun p => replyTo b 200 (.updateState id p)
  | .deleteState id => deleted b "Feature state deleted successfully" (.deleteState id)
  | .document => do return .json 200 (← b.document).toJson

/-- The answer to an error of the service (`flag_service_error_handler`). -/
def tellError (r : Request) (f : Failure) : Service σ Response :=
  match f with
  | .service e => do
    if 500 ≤ e.status then
      Service.log
        ⟨.error, appLogger, r.method ++ " " ++ r.loggedPath ++ " failed: " ++ e.message, []⟩
    return .json e.status (.object [("error", .string e.message)])
  | f => throw f

/-- The answer to a request from any origin. -/
def route (root : String) (b : Backend σ) (r : Request) : Service σ Response :=
  match Route.find root r.method r.path with
  | .endpoint e => tryCatch (e.answer b r) (tellError r)
  | .otherMethod allowed =>
    return (Response.detail 405 "Method Not Allowed").withHeaders [("allow", allowed)]
  | .moved path => return redirect r path
  | .nowhere => return .detail 404 "Not Found"

/-- The answer to a failure that is not told. -/
def Response.broken : Response := .text 500 "Internal Server Error"

/-- Answers a request with the application of `create_app`. -/
def respond (s : Settings) (b : Backend σ) (r : Request) : StateM (Served σ) Response := do
  let origin := r.header? "origin"
  match origin, CrossOrigin.preflightMethod? r with
  | some origin, some method =>
    return (CrossOrigin.preflight s.origins r origin method).forMethod r.method
  | _, _ =>
    let response :=
      match ← (route s.apiRoot b r).run with
      | .error _ => Response.broken
      | .ok answer =>
        match origin with
        | some origin => answer.withHeaders (CrossOrigin.added s.origins r origin)
        | none => answer
    return response.forMethod r.method

/-- Answers requests, one after the other. -/
def respondAll (s : Settings) (b : Backend σ) : List Request → StateM (Served σ) (List Response)
  | [] => return []
  | r :: rest => do
    let response ← respond s b r
    return response :: (← respondAll s b rest)

end FeatureFlags.Http
