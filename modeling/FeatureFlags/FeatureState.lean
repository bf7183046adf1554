import FeatureFlags.ContextType
import FeatureFlags.Feature

/-!
# Feature states

A feature state switches a feature on or off in one context. Its owner is a feature, named by
identifier or, in data that have none, by key.

Stored states are read as they are, whatever their shape. A draft must name an owner, and both a
draft and a patch have exactly the context identifier that their context type asks for.
-/

namespace FeatureFlags

/-- A stored feature state (`FeatureState`). -/
structure FeatureState where
  id : Option String
  featureId : Option String
  featureKey : Option String
  contextType : ContextType
  contextId : Option String
  state : Bool
  createdAt : Option Timestamp
  updatedAt : Option Timestamp
deriving DecidableEq, Repr

namespace FeatureState

/-- What a feature state is created from (`FeatureStateCreate`). -/
structure Draft where
  featureId : Option String
  featureKey : Option String
  contextType : ContextType
  contextId : Option String
  state : Bool
deriving DecidableEq, Repr

/-- A change of a feature state (`FeatureStateUpdate`): all but the owner is replaced, and the owner
when one is given. -/
structure Patch where
  featureId : Option String
  contextType : ContextType
  contextId : Option String
  state : Bool
deriving DecidableEq, Repr

/-! ## Fields -/

def idField : Field := .only "id"
def featureIdField : Field := ⟨"featureId", "feature_id"⟩
def featureKeyField : Field := ⟨"featureKey", "feature_key"⟩
def contextTypeField : Field := ⟨"contextType", "context_type"⟩
def contextIdField : Field := ⟨"contextId", "context_id"⟩
def stateField : Field := .only "state"

def fields : List Field :=
  [idField, featureIdField, featureKeyField, contextTypeField, contextIdField, stateField,
    Feature.createdAtField, Feature.updatedAtField]

def Draft.fields : List Field :=
  [featureIdField, featureKeyField, contextTypeField, contextIdField, stateField]

def Patch.fields : List Field := [featureIdField, contextTypeField, contextIdField, stateField]

/-- Reads a context type. -/
def contextTypeOf (v : Json) : Checked ContextType :=
  Checked.choice (.notMember ContextType.names) ContextType.ofName? v

/-- The lengths that the identifier of a context may have. -/
def contextIdBounds : Checked.Bounds := { most := some 255 }

/-! ## Reading -/

/-- Reads a stored feature state. -/
def ofJson (v : Json) : Checked FeatureState :=
  Checked.record "FeatureState" (fun o =>
    (idField.withDefault none (Checked.nullable Checked.string) o).map FeatureState.mk
      |>.ap (featureIdField.withDefault none (Checked.nullable Checked.string) o)
      |>.ap (featureKeyField.withDefault none (Checked.nullable Checked.string) o)
      |>.ap (contextTypeField.required contextTypeOf o)
      |>.ap (contextIdField.withDefault none (Checked.nullable Checked.string) o)
      |>.ap (stateField.required Checked.bool o)
      |>.ap (Feature.createdAtField.withDefault none (Checked.nullable Checked.timestamp) o)
      |>.ap (Feature.updatedAtField.withDefault none (Checked.nullable Checked.timestamp) o)) v

/-- Why a payload with good fields is no draft or patch. -/
inductive ShapeError where
  | noOwner
  | contextId (e : ContextType.ContextIdMissing)
deriving DecidableEq, Repr

def ShapeError.message : ShapeError → String
  | .noOwner => "featureId or featureKey is required"
  | .contextId e => e.message

/-- The payload with the context identifier that its context type asks for
(`FeatureStateUpdate._check_shape`). -/
def Patch.normalize (p : Patch) : Except ShapeError Patch :=
  match p.contextType.normalize p.contextId with
  | .ok id => .ok { p with contextId := id }
  | .error e => .error (.contextId e)

/-- The payload with an owner and with the context identifier that its context type asks for
(`FeatureStateCreate._check_shape`). -/
def Draft.normalize (d : Draft) : Except ShapeError Draft :=
  if (given d.featureId).isNone && (given d.featureKey).isNone then .error .noOwner
  else
    match d.contextType.normalize d.contextId with
    | .ok id => .ok { d with contextId := id }
    | .error e => .error (.contextId e)

/-- A shape error as an issue with the whole payload. -/
def shaped {α : Type} (o : List (String × Json)) (r : Except ShapeError α) : Checked α :=
  match r with
  | .ok a => .accepted a
  | .error e => .flawed (.refused e.message) (.object o)

/-- Reads the members of a draft. -/
def Draft.ofMembers (o : List (String × Json)) : Checked Draft :=
  ((featureIdField.withDefault none (Checked.nullable (Checked.text {})) o).map Draft.mk
    |>.ap (featureKeyField.withDefault none (Checked.nullable (Checked.text {})) o)
    |>.ap (contextTypeField.required contextTypeOf o)
    |>.ap (contextIdField.withDefault none (Checked.nullable (Checked.text contextIdBounds)) o)
    |>.ap (stateField.required Checked.bool o)).andThen fun d => shaped o d.normalize

/-- Reads a draft. -/
def Draft.ofJson (v : Json) : Checked Draft :=
  Checked.record "FeatureStateCreate" Draft.ofMembers v

/-- Reads the members of a patch. -/
def Patch.ofMembers (o : List (String × Json)) : Checked Patch :=
  ((featureIdField.withDefault none (Checked.nullable (Checked.text {})) o).map Patch.mk
    |>.ap (contextTypeField.required contextTypeOf o)
    |>.ap (contextIdField.withDefault none (Checked.nullable (Checked.text contextIdBounds)) o)
    |>.ap (stateField.required Checked.bool o)).andThen fun p => shaped o p.normalize

/-- Reads a patch. -/
def Patch.ofJson (v : Json) : Checked Patch :=
  Checked.record "FeatureStateUpdate" Patch.ofMembers v

/-! ## Writing -/

def toJson (s : FeatureState) : Json :=
  .object
    [("id", .ofOption s.id), ("featureId", .ofOption s.featureId),
      ("featureKey", .ofOption s.featureKey), ("contextType", .string s.contextType.name),
      ("contextId", .ofOption s.contextId), ("state", .bool s.state),
      ("createdAt", Feature.timestampJson s.createdAt),
      ("updatedAt", Feature.timestampJson s.updatedAt)]

def Draft.toJson (d : Draft) : Json :=
  .object
    [("featureId", .ofOption d.featureId), ("featureKey", .ofOption d.featureKey),
      ("contextType", .string d.contextType.name), ("contextId", .ofOption d.contextId),
      ("state", .bool d.state)]

def Patch.toJson (p : Patch) : Json :=
  .object
    [("featureId", .ofOption p.featureId), ("contextType", .string p.contextType.name),
      ("contextId", .ofOption p.contextId), ("state", .bool p.state)]

end FeatureState

end FeatureFlags
