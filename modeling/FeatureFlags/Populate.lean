import FeatureFlags.Backend
import FeatureFlags.Http.Endpoint
import FeatureFlags.Json.Display

/-!
# Populating a service: `populate`

Creates sample features and sample states on a service that runs, one request for each. What is not
created is logged with the reason and passed over, so that everything is asked for exactly once.
-/

namespace FeatureFlags.Populate

/-- A feature to create. -/
structure SampleFeature where
  key : String
  name : String
  description : String
deriving DecidableEq, Repr

/-- A feature state to create. -/
structure SampleState where
  featureKey : String
  contextType : ContextType
  contextId : String
  state : Bool
deriving DecidableEq, Repr

def SampleFeature.toJson (f : SampleFeature) : Json :=
  .object
    [("key", .string f.key), ("name", .string f.name), ("description", .string f.description)]

def SampleState.toJson (s : SampleState) : Json :=
  .object
    [("featureKey", .string s.featureKey), ("contextType", .string s.contextType.name),
      ("contextId", .string s.contextId), ("state", .bool s.state)]

/-- The sample features (`FEATURES`). -/
def features : List SampleFeature :=
  [⟨"feature1", "Feature 1", "Test feature 1"⟩,
    ⟨"feature2", "Feature 2", "Test feature 2"⟩,
    ⟨"feature3", "Feature 3", "Test feature 3"⟩]

/-- The sample states (`FEATURE_STATES`). -/
def states : List SampleState :=
  [⟨"feature1", .organization, "org1", true⟩,
    ⟨"feature1", .organization, "org2", true⟩,
    ⟨"feature1", .workspace, "workspace1", true⟩,
    ⟨"feature1", .workspace, "workspace2", true⟩,
    ⟨"feature1", .workspace, "workspace3", true⟩,
    ⟨"feature2", .organization, "org1", true⟩,
    ⟨"feature2", .workspace, "workspace1", true⟩,
    ⟨"feature2", .workspace, "workspace2", true⟩,
    ⟨"feature3", .organization, "org1", true⟩,
    ⟨"feature3", .organization, "org2", true⟩,
    ⟨"feature3", .workspace, "workspace1", true⟩,
    ⟨"feature3", .workspace, "workspace2", true⟩]

/-- An answer as it comes from a service. -/
structure Answer where
  status : Nat
  text : String
deriving DecidableEq, Repr

/-- What the body of an answer comes to when it is read as JSON: a value, nothing because it is no
JSON, or a failure of another kind. -/
inductive Reading where
  | value (v : Json)
  | unreadable
  | failed (f : Failure)

/-- What comes of a body where lists and objects are read to a depth. Deeper ones make the reader
fail. -/
def Reading.ofText (depth : Nat) (s : String) : Reading :=
  match (Json.sent? s).map (Json.read depth) with
  | some (.ok v) => .value v
  | some (.error (.tooDeep kind)) => .failed (.nesting kind)
  | _ => .unreadable

/-- An answer as a client hears it, with what its body is as JSON. -/
structure Heard extends Answer where
  json : Reading

/-- What a client hears of an answer that reads lists and objects to a depth. -/
def Answer.heard (depth : Nat) (a : Answer) : Heard := ⟨a, .ofText depth a.text⟩

/-- The status of something created. -/
def created : Nat := 201

/-- The reason that an answer gives (`_error_of`): the member `error` of its JSON when that says
something, else the whole text. Only JSON that cannot be read is passed over for the text: JSON that
is no object has no member to ask for, and any other failure to read it stays one. -/
def reason (a : Heard) : Except Failure String :=
  match a.json with
  | .value (.object members) =>
    match Json.member? members "error" with
    | some e => .ok (if e.isTruthy then e.display else a.text)
    | none => .ok a.text
  | .value v => .error (.noPart v.kindName "get")
  | .unreadable => .ok a.text
  | .failed f => .error f

def logger : String := "populate_db"

variable {σ : Type}

/-- How a client posts a value to a path. -/
abbrev Post (σ : Type) := String → Json → Service σ Heard

/-- Asks for something to be created and logs what became of it: one round of a loop of `populate`.
Was it created? -/
def create (post : Post σ) (path : String) (payload : Json) (done failed : String) :
    Service σ Bool := do
  let a ← post path payload
  if a.status == created then
    Service.log ⟨.info, logger, done, []⟩
    return true
  else
    let why ← (reason a : Except Failure String)
    Service.log ⟨.warning, logger, failed ++ ": " ++ why, []⟩
    return false

/-- Creates one feature, in the first loop of `populate`. -/
def createFeature (post : Post σ) (f : SampleFeature) : Service σ Bool :=
  create post "/features" f.toJson ("Created feature: " ++ f.key)
    ("Failed to create feature " ++ f.key)

/-- Creates one state, in the second loop of `populate`. -/
def createState (post : Post σ) (s : SampleState) : Service σ Bool :=
  let context := s.contextType.name ++ " " ++ s.contextId
  create post "/feature-states" s.toJson
    ("Created feature state: " ++ s.featureKey ++ " for " ++ context ++ " = " ++
      (Json.bool s.state).display)
    ("Failed to create feature state for " ++ s.featureKey ++ " in " ++ context)

/-- How many of a list are created. -/
def count {α : Type} (create : α → Service σ Bool) : List α → Service σ Nat
  | [] => return 0
  | a :: rest => do
    let made ← create a
    let others ← count create rest
    return (if made then 1 else 0) + others

/-- Creates the samples, features first, and counts what was created of each kind (`populate`). -/
def populate (post : Post σ) : Service σ (Nat × Nat) := do
  let madeFeatures ← count (createFeature post) features
  let madeStates ← count (createState post) states
  return (madeFeatures, madeStates)

/-! ## A service at hand -/

/-- The address of a service that is called directly. -/
def localAddress : Http.Address := ⟨"http", "", "testserver", none, "/", none, none⟩

/-- A request that posts a value to a service at hand. -/
def request (path : String) (payload : Json) : Http.Request where
  method := "POST"
  address := { localAddress with path := path }
  headers := [("content-type", "application/json")]
  body := payload.toCompactText

/-- Posts to a service at hand, which the client reads as deep as the service itself does. -/
def postTo [limit : Json.DepthLimit] (s : Settings) (b : Backend σ) : Post σ :=
  fun path payload => do
    let r ← (Http.respond s b (request path payload) : StateM (Served σ) Http.Response)
    return Answer.heard limit.depth ⟨r.status, r.content.toText⟩

end FeatureFlags.Populate
