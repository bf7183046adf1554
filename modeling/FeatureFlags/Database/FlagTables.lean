import FeatureFlags.Database.Program
import FeatureFlags.Json.Display
import FeatureFlags.Number.Reader
import FeatureFlags.Store.Operation

/-!
# The store in a database: `PostgresFlagStore`

The operations of a store as programs over the tables of a database. The database keeps the rules
of a store: a key is given once, a context once for every feature, and a state has a feature that
is there. What it refuses is told in the words of a store.

A feature is changed or deleted in a transaction that locks its row first, so that no state can be
added for it between the count of its states and the change. A row without columns is no row.
-/

namespace FeatureFlags.Database

/-- The logger of the store in a database. -/
def storeLogger : String := "app.flags.pg_store"

/-! ## Rows -/

/-- The columns of a row, by name. -/
abbrev Row := List (String × Json)

/-- The columns of an answer that has to be a row. -/
def rowOf (v : Json) : Program Row :=
  match v with
  | .object columns => .give columns
  | _ => .fail (.shape ("'" ++ v.kindName ++ "' object is not iterable"))

/-- The columns of an answer that may be no row at all. -/
def rowOf? (v : Json) : Program (Option Row) :=
  if v.isTruthy then some <$> rowOf v else .give none

/-- The items of an answer that has to be a list. -/
def rowsOf (v : Json) : Program (List Json) :=
  match v with
  | .array items => .give items
  | _ => .fail (.shape ("'" ++ v.kindName ++ "' object is not iterable"))

/-- The value of a column that has to be there. -/
def column (row : Row) (name : String) : Program Json :=
  match Json.member? row name with
  | some v => .give v
  | none => .fail (.lookup (.string name))

variable {α : Type}

/-- A value that passed its checks. -/
def checked (c : Checked α) : Program α :=
  match c with
  | .accepted a => .give a
  | .rejected issues => .fail (.invalid issues)

/-- The record that a row holds (`_feature`, `_feature_state`). -/
def record (read : Json → Checked α) (row : Row) : Program α := checked (read (.object row))

/-- The record of a row, or the failure that says there is none. -/
def recordOr (missing : ServiceError) (read : Json → Checked α) (row : Option Row) : Program α :=
  match row with
  | some row => record read row
  | none => .fail (.service missing)

/-- The records of all rows; that each is a row is checked before any record is. -/
def records (read : Json → Checked α) (rows : List Json) : Program (List α) := do
  let rows ← rows.mapM rowOf
  rows.mapM (record read)

/-! ## Counts -/

/-- Does an answer count something? Nothing at all counts as zero. -/
def countsSome (v : Json) : Except Failure Bool :=
  match v with
  | .string s =>
    if s.isEmpty then .ok false
    else
      match Number.wholeText? s with
      | some n => .ok (n != 0)
      | none =>
        .error (.value ("invalid literal for int() with base 10: " ++ Text.quoted s))
  | .real x =>
    match x.truncate? with
    | some n => .ok (n != 0)
    | none => .error (.value "cannot convert float NaN to integer")
  | .array (_ :: _) | .object (_ :: _) =>
    .error (.shape ("int() argument must be a string, a bytes-like object or a real number, " ++
      "not '" ++ v.kindName ++ "'"))
  | v => .ok v.isTruthy

/-- Has a feature states (`count_feature_states`)? -/
def isReferenced (id : String) : Program Bool := do
  .ofExcept (countsSome (← .query (.countStates id)))

/-! ## Reading -/

/-- All features (`PostgresFlagStore.list_features`). -/
def listFeatures : Program (List Feature) := do
  records Feature.ofJson (← rowsOf (← .query .selectFeatures))

/-- All states (`PostgresFlagStore.list_feature_states`). -/
def listStates : Program (List FeatureState) := do
  records FeatureState.ofJson (← rowsOf (← .query .selectStates))

/-- The record of one row that may not be there. -/
def find? (read : Json → Checked α) (s : Statement) : Program (Option α) := do
  match ← rowOf? (← .query s) with
  | some row => some <$> record read row
  | none => return none

/-- The feature with an identifier (`PostgresFlagStore.get_feature`). -/
def feature? (id : String) : Program (Option Feature) :=
  find? Feature.ofJson (.selectFeature id)

/-- The feature with a key (`PostgresFlagStore.get_feature_by_key`). -/
def featureByKey? (key : String) : Program (Option Feature) :=
  find? Feature.ofJson (.selectFeatureByKey key)

/-! ## Features -/

/-- A value given twice, told as `e`. -/
def onDuplicate (e : ServiceError) : Failure → Failure
  | .database .uniqueViolation _ => .service e
  | f => f

/-- A reference to or from a row that forbids the change, told as `e`. -/
def onBrokenReference (e : ServiceError) : Failure → Failure
  | .database .foreignKeyViolation _ => .service e
  | f => f

/-- Creates a feature (`PostgresFlagStore.create_feature`). -/
def createFeature (d : Feature.Draft) : Program Feature := do
  let id ← .freshId .feature
  let row ← .mapFailure (onDuplicate (.keyConflict d.key)) do
    rowOf (← .query (.insertFeature id d.key d.name d.description))
  .log ⟨.info, storeLogger, "Feature created", [("feature_key", .string d.key)]⟩
  record Feature.ofJson row

/-- The text that a patch gives, else the value that the row has. -/
def givenOr (text : Option String) (row : Row) (name : String) : Program Json :=
  match given text with
  | some s => .give (.string s)
  | none => column row name

/-- Does a patch give a key other than the one that the row has? -/
def changesKey (new : Option String) (old : Json) : Bool :=
  match given new, old with
  | none, _ => false
  | some new, .string old => new != old
  | some _, _ => true

/-- Changes a feature in a transaction that locks its row (`PostgresFlagStore.update_feature`). -/
def updateFeature (id : String) (p : Feature.Patch) : Program Feature := do
  let row ← .withConnection <| .transaction do
    match ← rowOf? (← .query (.lockFeature id)) with
    | none => .fail (.service .noFeature)
    | some current =>
      let key ← givenOr p.key current "key"
      let old ← column current "key"
      if changesKey p.key old then
        if ← isReferenced id then .fail (.service (.keyLocked old.display))
      let name ← givenOr p.name current "name"
      let description ← column current "description"
      let description := (p.description.map Json.ofOption).getD description
      .mapFailure (onDuplicate (.keyConflict key.display)) do
        rowOf? (← .query (.updateFeature id key name description))
  recordOr .noFeature Feature.ofJson row

/-- Deletes a feature in a transaction that locks its row (`PostgresFlagStore.delete_feature`). -/
def deleteFeature (id : String) : Program Feature := do
  let row ← .withConnection <| .transaction do
    match ← rowOf? (← .query (.lockFeature id)) with
    | none => .fail (.service .noFeature)
    | some _ =>
      if ← isReferenced id then .fail (.service (.featureInUse id))
      else
        .mapFailure (onBrokenReference (.featureInUse id)) do
          rowOf? (← .query (.deleteFeature id))
  recordOr .noFeature Feature.ofJson row

/-! ## Feature states -/

/-- The feature that a draft names (`PostgresFlagStore._resolve_feature`): by identifier when it has
one, else by key. -/
def ownerOf (d : FeatureState.Draft) : Program Feature := do
  let owner ←
    match given d.featureId, given d.featureKey with
    | some id, _ => feature? id
    | none, some key => featureByKey? key
    | none, none => .give none
  match owner with
  | some f => return f
  | none => .fail (.service .noFeature)

/-- A state with the key of its owner, read back (`PostgresFlagStore._joined_state`). -/
def readState (id : String) : Program FeatureState := do
  recordOr .noState FeatureState.ofJson (← rowOf? (← .query (.selectState id)))

/-- What the database refuses of a written state, in the words of a store. -/
def refusedState (f : Failure) : Failure :=
  onBrokenReference .noFeature (onDuplicate .duplicate f)

/-- Creates a feature state and reads it back (`PostgresFlagStore.create_feature_state`). -/
def createState (d : FeatureState.Draft) : Program FeatureState := do
  let owner ← ownerOf d
  let id ← .freshId .featureState
  let _ ← .mapFailure refusedState <|
    .query (.insertState id owner.id d.contextType d.contextId d.state)
  readState id

/-- Does the status of an update say that there was no row? -/
def updatedNothing : Json → Bool
  | .string s => s == "UPDATE 0"
  | _ => false

/-- Changes a feature state and reads it back (`PostgresFlagStore.update_feature_state`). -/
def updateState (id : String) (p : FeatureState.Patch) : Program FeatureState := do
  let status ← .mapFailure refusedState <|
    .query (.updateState id p.featureId p.contextType p.contextId p.state)
  if updatedNothing status then .fail (.service .noState) else readState id

/-- Deletes a feature state and gives the row that was read before
(`PostgresFlagStore.delete_feature_state`). -/
def deleteState (id : String) : Program FeatureState := do
  let row ← .withConnection <| .transaction do
    match ← rowOf? (← .query (.selectState id)) with
    | none => .fail (.service .noState)
    | some row =>
      let _ ← .query (.deleteState id)
      return row
  record FeatureState.ofJson row

/-! ## Operations -/

/-- The program of an operation, a method of `PostgresFlagStore`. -/
def program : Operation → Program Reply
  | .listFeatures => .features <$> listFeatures
  | .listStates => .states <$> listStates
  | .getFeature id => .ofFeature? <$> feature? id
  | .getFeatureByKey key => .ofFeature? <$> featureByKey? key
  | .createFeature d => .feature <$> createFeature d
  | .updateFeature id p => .feature <$> updateFeature id p
  | .deleteFeature id => .feature <$> deleteFeature id
  | .createState d => .state <$> createState d
  | .updateState id p => .state <$> updateState id p
  | .deleteState id => .state <$> deleteState id

end FeatureFlags.Database
