import FeatureFlags.Clock
import FeatureFlags.Failure
import FeatureFlags.FeatureState
import FeatureFlags.Identifier
import FeatureFlags.Table

/-!
# The store in memory: `InMemoryFlagStore`

A store holds features and feature states under their identifiers, in the order in which they were
created. It counts the identifiers it has given out and the readings it has taken of its clock.

No two features have one key, no two states of a feature are for one context, and a feature that
states refer to keeps its key and cannot be deleted. An operation that would break a rule fails
and gives no new store.
-/

namespace FeatureFlags

/-- Features and feature states (`InMemoryFlagStore`), and what has been drawn to make them. -/
structure Store where
  features : Table String Feature
  states : Table String FeatureState
  issued : Nat
  readings : Nat

namespace Store

def empty : Store := ⟨.empty, .empty, 0, 0⟩

/-- The reading that the clock gives next (`_now`). -/
def now (s : Store) : Timestamp := Clock.reading (s.readings + 1)

/-! ## Reading -/

/-- All features, by key (`list_features`). -/
def listFeatures (s : Store) : List Feature :=
  s.features.values.mergeSort fun a b => decide (a.key ≤ b.key)

/-- A state with the key of its owner, if the owner is stored (`_joined`). -/
def joined (s : Store) (state : FeatureState) : FeatureState :=
  { state with featureKey := (s.features.get? (state.featureId.getD "")).map Feature.key }

/-- All states, each with the key of its owner (`list_feature_states`). -/
def listStates (s : Store) : List FeatureState := s.states.values.map s.joined

/-- The feature with an identifier (`get_feature`). -/
def feature? (s : Store) (id : String) : Option Feature := s.features.get? id

/-- The first feature with a key (`get_feature_by_key`). -/
def featureByKey? (s : Store) (key : String) : Option Feature :=
  s.features.values.find? fun f => f.key == key

/-- Does a state refer to the feature with this identifier (`_is_referenced`)? -/
def isReferenced (s : Store) (id : String) : Bool :=
  s.states.values.any fun state => state.featureId == some id

/-- Does a state, other than the one with the identifier `except`, have this owner and context? It
is what `_ensure_unique` refuses. -/
def hasState (s : Store) (except : Option String) (owner : String) (type : ContextType)
    (contextId : Option String) : Bool :=
  s.states.entries.any fun (id, state) =>
    some id != except && state.featureId == some owner && state.contextType == type &&
      state.contextId == contextId

/-! ## Features -/

/-- Creates a feature (`create_feature`). -/
def createFeature (s : Store) (d : Feature.Draft) : Except ServiceError (Feature × Store) :=
  if (s.featureByKey? d.key).isSome then .error (.keyConflict d.key)
  else
    let f : Feature :=
      { id := Identifier.next .feature s.issued
        key := d.key
        name := d.name
        description := d.description
        createdAt := some s.now
        updatedAt := some s.now }
    .ok (f,
      { s with
        features := s.features.put f.id f
        issued := s.issued + 1
        readings := s.readings + 1 })

/-- The key that a patch gives a feature, when it is another than the feature has. -/
def newKey? (f : Feature) (p : Feature.Patch) : Option String :=
  p.key.filter fun key => key != f.key

/-- A feature after a patch. -/
def patched (f : Feature) (p : Feature.Patch) (at_ : Timestamp) : Feature :=
  { f with
    key := p.key.getD f.key
    name := p.name.getD f.name
    description := p.description.getD f.description
    updatedAt := some at_ }

/-- Why a feature may not get a new key, as `update_feature` checks it: first the states that refer
to it, then the other features. -/
def keyError? (s : Store) (f : Feature) (id key : String) : Option ServiceError :=
  if s.isReferenced id then some (.keyLocked f.key)
  else if (s.featureByKey? key).isSome then some (.keyConflict key)
  else none

/-- Changes a feature (`update_feature`). -/
def updateFeature (s : Store) (id : String) (p : Feature.Patch) :
    Except ServiceError (Feature × Store) :=
  match s.feature? id with
  | none => .error .noFeature
  | some f =>
    match (newKey? f p).bind (s.keyError? f id) with
    | some e => .error e
    | none =>
      let f := patched f p s.now
      .ok (f, { s with features := s.features.put id f, readings := s.readings + 1 })

/-- Deletes a feature that no state refers to (`delete_feature`). -/
def deleteFeature (s : Store) (id : String) : Except ServiceError (Feature × Store) :=
  match s.feature? id with
  | none => .error .noFeature
  | some f =>
    if s.isReferenced id then .error (.featureInUse id)
    else .ok (f, { s with features := s.features.erase id })

/-! ## Feature states -/

/-- The feature that a draft names (`_resolve_feature`): by identifier when it has one, else by
key. -/
def ownerOf? (s : Store) (d : FeatureState.Draft) : Option Feature :=
  match given d.featureId with
  | some id => s.feature? id
  | none => (given d.featureKey).bind s.featureByKey?

/-- Creates a feature state (`create_feature_state`). -/
def createState (s : Store) (d : FeatureState.Draft) :
    Except ServiceError (FeatureState × Store) :=
  match s.ownerOf? d with
  | none => .error .noFeature
  | some owner =>
    if s.hasState none owner.id d.contextType d.contextId then .error .duplicate
    else
      let id := Identifier.next .featureState s.issued
      let state : FeatureState :=
        { id := some id
          featureId := some owner.id
          featureKey := none
          contextType := d.contextType
          contextId := d.contextId
          state := d.state
          createdAt := some s.now
          updatedAt := some s.now }
      .ok (s.joined state,
        { s with
          states := s.states.put id state
          issued := s.issued + 1
          readings := s.readings + 1 })

/-- A state after a patch that makes `owner` its owner. -/
def moved (state : FeatureState) (p : FeatureState.Patch) (owner : String) (at_ : Timestamp) :
    FeatureState :=
  { state with
    featureId := some owner
    contextType := p.contextType
    contextId := p.contextId
    state := p.state
    updatedAt := some at_ }

/-- The owner of a state after a patch: the one the patch gives, else the one it has. -/
def newOwner? (state : FeatureState) (p : FeatureState.Patch) : Option String :=
  (given p.featureId).or state.featureId

/-- Changes a feature state (`update_feature_state`). -/
def updateState (s : Store) (id : String) (p : FeatureState.Patch) :
    Except ServiceError (FeatureState × Store) :=
  match s.states.get? id with
  | none => .error .noState
  | some state =>
    match (newOwner? state p).filter fun owner => (s.feature? owner).isSome with
    | none => .error .noFeature
    | some owner =>
      if s.hasState (some id) owner p.contextType p.contextId then .error .duplicate
      else
        let state := moved state p owner s.now
        .ok (s.joined state,
          { s with states := s.states.put id state, readings := s.readings + 1 })

/-- Deletes a feature state (`delete_feature_state`). -/
def deleteState (s : Store) (id : String) : Except ServiceError (FeatureState × Store) :=
  match s.states.get? id with
  | none => .error .noState
  | some state => .ok (s.joined state, { s with states := s.states.erase id })

end Store

end FeatureFlags
