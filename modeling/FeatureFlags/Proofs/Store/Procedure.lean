import FeatureFlags.Store.Operation

/-!
# Store operations step by step

The operations of the store in memory as work on a store that is changed in place: records are
read, the clock is read, an identifier is drawn, a record is put or taken out. Work may give up, and
what it has done by then stays done.
-/

namespace FeatureFlags.Store

/-- Work on a store; giving up does not undo what was done. -/
abbrev Work (α : Type) := ExceptT ServiceError (StateM Store) α

namespace Work

/-! ## Steps -/

def readClock : Work Timestamp := modifyGet fun s => (s.now, { s with readings := s.readings + 1 })

def drawId (e : Entity) : Work String :=
  modifyGet fun s => (Identifier.next e s.issued, { s with issued := s.issued + 1 })

def putFeature (id : String) (f : Feature) : Work Unit :=
  modify fun s => { s with features := s.features.put id f }

def putState (id : String) (state : FeatureState) : Work Unit :=
  modify fun s => { s with states := s.states.put id state }

def removeFeature (id : String) : Work Unit :=
  modify fun s => { s with features := s.features.erase id }

/-- Takes a state out, if it is there, and gives it. -/
def popState? (id : String) : Work (Option FeatureState) :=
  modifyGet fun s => (s.states.get? id, { s with states := s.states.erase id })

/-- Another state than the one with the identifier `except` must not have this owner and context
(`_ensure_unique`). -/
def ensureUnique (except : Option String) (owner : String) (type : ContextType)
    (contextId : Option String) : Work Unit := do
  if (← get).hasState except owner type contextId then throw .duplicate

/-! ## Features -/

/-- Creates a feature, in the order of `create_feature`: the clock is read before an identifier is
drawn. -/
def createFeature (d : Feature.Draft) : Work Feature := do
  if ((← get).featureByKey? d.key).isSome then throw (.keyConflict d.key)
  let now ← readClock
  let id ← drawId .feature
  let f : Feature :=
    { id
      key := d.key
      name := d.name
      description := d.description
      createdAt := some now
      updatedAt := some now }
  putFeature f.id f
  return f

/-- Changes a feature, in the order of `update_feature`. -/
def updateFeature (id : String) (p : Feature.Patch) : Work Feature := do
  let some f := (← get).feature? id | throw .noFeature
  if let some key := newKey? f p then
    if (← get).isReferenced id then throw (.keyLocked f.key)
    if ((← get).featureByKey? key).isSome then throw (.keyConflict key)
  let updated := patched f p (← readClock)
  putFeature id updated
  return updated

/-- Deletes a feature, in the order of `delete_feature`. -/
def deleteFeature (id : String) : Work Feature := do
  let some f := (← get).feature? id | throw .noFeature
  if (← get).isReferenced id then throw (.featureInUse id)
  removeFeature id
  return f

/-! ## Feature states -/

/-- Creates a feature state, in the order of `create_feature_state`. -/
def createState (d : FeatureState.Draft) : Work FeatureState := do
  let some owner := (← get).ownerOf? d | throw .noFeature
  ensureUnique none owner.id d.contextType d.contextId
  let now ← readClock
  let id ← drawId .featureState
  let state : FeatureState :=
    { id := some id
      featureId := some owner.id
      featureKey := none
      contextType := d.contextType
      contextId := d.contextId
      state := d.state
      createdAt := some now
      updatedAt := some now }
  putState id state
  return (← get).joined state

/-- Changes a feature state, in the order of `update_feature_state`. -/
def updateState (id : String) (p : FeatureState.Patch) : Work FeatureState := do
  let some state := (← get).states.get? id | throw .noState
  let some owner := newOwner? state p | throw .noFeature
  if ((← get).feature? owner).isNone then throw .noFeature
  ensureUnique (some id) owner p.contextType p.contextId
  let updated := moved state p owner (← readClock)
  putState id updated
  return (← get).joined updated

/-- Deletes a feature state, in the order of `delete_feature_state`: the state is taken out before
anyone asks whether it was there. -/
def deleteState (id : String) : Work FeatureState := do
  let some state ← popState? id | throw .noState
  return (← get).joined state

end Work

/-- The work that an operation is. -/
def perform : Operation → Work Reply
  | .listFeatures => return .features (← get).listFeatures
  | .listStates => return .states (← get).listStates
  | .getFeature id => return .ofFeature? ((← get).feature? id)
  | .getFeatureByKey key => return .ofFeature? ((← get).featureByKey? key)
  | .createFeature d => .feature <$> Work.createFeature d
  | .updateFeature id p => .feature <$> Work.updateFeature id p
  | .deleteFeature id => .feature <$> Work.deleteFeature id
  | .createState d => .state <$> Work.createState d
  | .updateState id p => .state <$> Work.updateState id p
  | .deleteState id => .state <$> Work.deleteState id

/-- What every operation gave, one performed after the other, failed ones included. -/
abbrev Outcomes := List (Operation × Except ServiceError Reply)

/-- Performs operations one after the other on one store. -/
def performAll (s : Store) : List Operation → Outcomes × Store
  | [] => ([], s)
  | op :: ops =>
    let (r, s) := (perform op).run.run s
    let (outcomes, s) := performAll s ops
    ((op, r) :: outcomes, s)

end FeatureFlags.Store
