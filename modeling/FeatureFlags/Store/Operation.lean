import FeatureFlags.Store

/-!
# Store operations: the methods of `FlagStore`

What a store can be asked, as data, and what it answers. A store of any kind runs operations; the
store in memory does so here. A run of several operations goes on after a failure with the store
as it was.
-/

namespace FeatureFlags

/-- The names of the operations: the methods of `FlagStore`. -/
inductive Method where
  | listFeatures
  | listStates
  | getFeature
  | getFeatureByKey
  | createFeature
  | updateFeature
  | deleteFeature
  | createState
  | updateState
  | deleteState
deriving DecidableEq, Repr

namespace Method

def name : Method → String
  | .listFeatures => "list_features"
  | .listStates => "list_feature_states"
  | .getFeature => "get_feature"
  | .getFeatureByKey => "get_feature_by_key"
  | .createFeature => "create_feature"
  | .updateFeature => "update_feature"
  | .deleteFeature => "delete_feature"
  | .createState => "create_feature_state"
  | .updateState => "update_feature_state"
  | .deleteState => "delete_feature_state"

end Method

/-- A question or an order to a store: a call of a method of `FlagStore`. -/
inductive Operation where
  | listFeatures
  | listStates
  | getFeature (id : String)
  | getFeatureByKey (key : String)
  | createFeature (draft : Feature.Draft)
  | updateFeature (id : String) (patch : Feature.Patch)
  | deleteFeature (id : String)
  | createState (draft : FeatureState.Draft)
  | updateState (id : String) (patch : FeatureState.Patch)
  | deleteState (id : String)
deriving DecidableEq, Repr

def Operation.method : Operation → Method
  | .listFeatures => .listFeatures
  | .listStates => .listStates
  | .getFeature _ => .getFeature
  | .getFeatureByKey _ => .getFeatureByKey
  | .createFeature _ => .createFeature
  | .updateFeature .. => .updateFeature
  | .deleteFeature _ => .deleteFeature
  | .createState _ => .createState
  | .updateState .. => .updateState
  | .deleteState _ => .deleteState

/-- What a store answers. -/
inductive Reply where
  | features (features : List Feature)
  | states (states : List FeatureState)
  | feature (feature : Feature)
  | state (state : FeatureState)
  | noFeature
deriving DecidableEq, Repr

namespace Reply

def ofFeature? : Option Feature → Reply
  | some f => .feature f
  | none => .noFeature

def toJson : Reply → Json
  | .features fs => .array (fs.map Feature.toJson)
  | .states ss => .array (ss.map FeatureState.toJson)
  | .feature f => f.toJson
  | .state s => s.toJson
  | .noFeature => .null

end Reply

namespace Store

/-- A changed record as a reply. -/
def answer {α : Type} (reply : α → Reply) (r : Except ServiceError (α × Store)) :
    Except ServiceError (Reply × Store) :=
  r.map fun (a, s) => (reply a, s)

/-- Runs one operation. -/
def run (s : Store) : Operation → Except ServiceError (Reply × Store)
  | .listFeatures => .ok (.features s.listFeatures, s)
  | .listStates => .ok (.states s.listStates, s)
  | .getFeature id => .ok (.ofFeature? (s.feature? id), s)
  | .getFeatureByKey key => .ok (.ofFeature? (s.featureByKey? key), s)
  | .createFeature d => answer .feature (s.createFeature d)
  | .updateFeature id p => answer .feature (s.updateFeature id p)
  | .deleteFeature id => answer .feature (s.deleteFeature id)
  | .createState d => answer .state (s.createState d)
  | .updateState id p => answer .state (s.updateState id p)
  | .deleteState id => answer .state (s.deleteState id)

/-- The store after an operation; a failed one leaves it as it was. -/
def after (s : Store) (op : Operation) : Store :=
  match s.run op with
  | .ok (_, s') => s'
  | .error _ => s

/-- The store after operations, one after the other. -/
def afterAll (s : Store) (ops : List Operation) : Store := ops.foldl after s

end Store

end FeatureFlags
