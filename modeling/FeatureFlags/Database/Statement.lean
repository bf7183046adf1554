import FeatureFlags.ContextType
import FeatureFlags.Json
import FeatureFlags.Text.Blank

/-!
# Statements

What the flag service asks of a database. Every statement has a text, arguments for the numbered
places of the text, and a kind of answer: all rows, one row, one value, or the status of a change.

The two tables are `features` and `feature_states`; a third holds the versions of the schema that
are in place.
-/

namespace FeatureFlags.Database

/-- The kinds of answer that a statement asks for: the method of a connection that it is passed
to. -/
inductive Want where
  | rows
  | row
  | value
  | status
deriving DecidableEq, Repr

def Want.name : Want → String
  | .rows => "fetch"
  | .row => "fetchrow"
  | .value => "fetchval"
  | .status => "execute"

/-- A statement with its arguments. The first thirteen are the queries of the store, from
`fetch_features` to `delete_feature_state`; the others are those of `apply_migrations`. -/
inductive Statement where
  | selectFeatures
  | selectFeature (id : String)
  | lockFeature (id : String)
  | selectFeatureByKey (key : String)
  | insertFeature (id key name : String) (description : Option String)
  | updateFeature (id : String) (key name description : Json)
  | deleteFeature (id : String)
  | countStates (featureId : String)
  | selectStates
  | selectState (id : String)
  | insertState (id featureId : String) (type : ContextType) (contextId : Option String)
      (state : Bool)
  | updateState (id : String) (featureId : Option String) (type : ContextType)
      (contextId : Option String) (state : Bool)
  | deleteState (id : String)
  | createVersions
  | selectVersions
  | recordVersion (version : String)
  | define (text : String)

namespace Statement

def want : Statement → Want
  | .selectFeatures => .rows
  | .selectFeature _ => .row
  | .lockFeature _ => .row
  | .selectFeatureByKey _ => .row
  | .insertFeature .. => .row
  | .updateFeature .. => .row
  | .deleteFeature _ => .row
  | .countStates _ => .value
  | .selectStates => .rows
  | .selectState _ => .row
  | .insertState .. => .status
  | .updateState .. => .status
  | .deleteState _ => .status
  | .createVersions => .status
  | .selectVersions => .rows
  | .recordVersion _ => .status
  | .define _ => .status

/-- The columns of a feature (`_FEATURE_COLUMNS`). -/
def featureColumns : String := "id, key, name, description, created_at, updated_at"

/-- The states with the keys of their owners (`_STATE_COLUMNS` from the two tables). -/
def joinedStates : String :=
  "SELECT fs.id, fs.feature_id, f.key AS feature_key, fs.context_type, fs.context_id, " ++
    "fs.state, fs.created_at, fs.updated_at " ++
    "FROM feature_states fs JOIN features f ON f.id = fs.feature_id "

/-- A text with its words parted by single blanks. -/
def squeezed (s : String) : String :=
  String.ofList <| ((Text.splitOn Text.isBlank s.toList).filter (!·.isEmpty)).intersperse [' ']
    |>.flatten

/-- The text of a statement, its words parted by single blanks. -/
def text : Statement → String
  | .selectFeatures => "SELECT " ++ featureColumns ++ " FROM features ORDER BY key"
  | .selectFeature _ => "SELECT " ++ featureColumns ++ " FROM features WHERE id = $1"
  | .lockFeature _ => "SELECT " ++ featureColumns ++ " FROM features WHERE id = $1 FOR UPDATE"
  | .selectFeatureByKey _ => "SELECT " ++ featureColumns ++ " FROM features WHERE key = $1"
  | .insertFeature .. =>
    "INSERT INTO features (id, key, name, description) VALUES ($1, $2, $3, $4) RETURNING " ++
      featureColumns
  | .updateFeature .. =>
    "UPDATE features SET key = $2, name = $3, description = $4, updated_at = now() " ++
      "WHERE id = $1 RETURNING " ++ featureColumns
  | .deleteFeature _ => "DELETE FROM features WHERE id = $1 RETURNING " ++ featureColumns
  | .countStates _ => "SELECT count(*) FROM feature_states WHERE feature_id = $1"
  | .selectStates =>
    joinedStates ++ "ORDER BY f.key, fs.context_type, fs.context_id NULLS FIRST"
  | .selectState _ => joinedStates ++ "WHERE fs.id = $1"
  | .insertState .. =>
    "INSERT INTO feature_states (id, feature_id, context_type, context_id, state) " ++
      "VALUES ($1, $2, $3, $4, $5)"
  | .updateState .. =>
    "UPDATE feature_states SET feature_id = COALESCE($2, feature_id), context_type = $3, " ++
      "context_id = $4, state = $5, updated_at = now() WHERE id = $1"
  | .deleteState _ => "DELETE FROM feature_states WHERE id = $1"
  | .createVersions =>
    "CREATE TABLE IF NOT EXISTS schema_migrations ( version VARCHAR(255) PRIMARY KEY, " ++
      "applied_at TIMESTAMPTZ NOT NULL DEFAULT now() )"
  | .selectVersions => "SELECT version FROM schema_migrations"
  | .recordVersion _ => "INSERT INTO schema_migrations (version) VALUES ($1)"
  | .define text => squeezed text

/-- The values for the numbered places of the text. -/
def arguments : Statement → List Json
  | .selectFeature id => [.string id]
  | .lockFeature id => [.string id]
  | .selectFeatureByKey key => [.string key]
  | .insertFeature id key name description =>
    [.string id, .string key, .string name, .ofOption description]
  | .updateFeature id key name description => [.string id, key, name, description]
  | .deleteFeature id => [.string id]
  | .countStates featureId => [.string featureId]
  | .selectState id => [.string id]
  | .insertState id featureId type contextId state =>
    [.string id, .string featureId, .string type.name, .ofOption contextId, .bool state]
  | .updateState id featureId type contextId state =>
    [.string id, .ofOption featureId, .string type.name, .ofOption contextId, .bool state]
  | .deleteState id => [.string id]
  | .recordVersion version => [.string version]
  | _ => []

end Statement

end FeatureFlags.Database
