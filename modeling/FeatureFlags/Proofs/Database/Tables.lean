import FeatureFlags.Database.FlagTables
import FeatureFlags.Database.Session
import FeatureFlags.Proofs.Validation
import Mathlib.Logic.Function.Basic

/-!
# The two tables

A database is not part of this library, so what is proved of the store in a database rests on what
SQL prescribes. `Prescribed` says what a statement answers and how it changes the tables under the
constraints that the migrations declare: primary keys, one feature per key, owners that are there,
and one state per feature and context, where a missing context identifier counts as the empty one.
`Engine.FollowsSql` says that an engine answers so, with tables that are seen through a view, and
that it rolls a transaction back to where it was started.
-/

namespace FeatureFlags.Database

/-! ## Rows -/

/-- A point in time as the database gives it. -/
structure Stamp where
  json : Json
  time : Timestamp
  reads : Checked.timestamp json = .accepted time

/-- A row of the table of features, but for its primary key. -/
structure FeatureRow where
  key : String
  name : String
  description : Option String
  createdAt : Stamp
  updatedAt : Stamp

/-- A row of the table of feature states, but for its primary key. -/
structure StateRow where
  featureId : String
  contextType : ContextType
  contextId : Option String
  state : Bool
  createdAt : Stamp
  updatedAt : Stamp

/-- The columns of a feature. -/
def FeatureRow.columns (id : String) (row : FeatureRow) : Row :=
  [("id", .string id), ("key", .string row.key), ("name", .string row.name),
    ("description", .ofOption row.description), ("created_at", row.createdAt.json),
    ("updated_at", row.updatedAt.json)]

/-- The columns of a state that is joined with its owner, which has this key. -/
def StateRow.columns (id key : String) (row : StateRow) : Row :=
  [("id", .string id), ("feature_id", .string row.featureId), ("feature_key", .string key),
    ("context_type", .string row.contextType.name), ("context_id", .ofOption row.contextId),
    ("state", .bool row.state), ("created_at", row.createdAt.json),
    ("updated_at", row.updatedAt.json)]

/-- The feature in a row. -/
def FeatureRow.record (id : String) (row : FeatureRow) : Feature where
  id := id
  key := row.key
  name := row.name
  description := row.description
  createdAt := some row.createdAt.time
  updatedAt := some row.updatedAt.time

/-- The state in a row. -/
def StateRow.record (id : String) (key : Option String) (row : StateRow) : FeatureState where
  id := some id
  featureId := some row.featureId
  featureKey := key
  contextType := row.contextType
  contextId := row.contextId
  state := row.state
  createdAt := some row.createdAt.time
  updatedAt := some row.updatedAt.time

theorem nullable_stamp (stamp : Stamp) :
    Checked.nullable Checked.timestamp stamp.json = .accepted (some stamp.time) := by
  obtain ⟨json, time, reads⟩ := stamp
  cases json <;> first | cases reads | simp [Checked.nullable, Checked.map, reads]

/-- The columns of a feature are read as the feature. -/
theorem FeatureRow.ofJson_columns (id : String) (row : FeatureRow) :
    Feature.ofJson (.object (row.columns id)) = .accepted (row.record id) := by
  have hdescription : Feature.descriptionField.withDefault none (Checked.nullable Checked.string)
      (row.columns id) = .accepted row.description :=
    Field.string_of_find? rfl
  have hcreated : Feature.createdAtField.withDefault none (Checked.nullable Checked.timestamp)
      (row.columns id) = .accepted (some row.createdAt.time) :=
    Field.withDefault_of_find? rfl (nullable_stamp _)
  have hupdated : Feature.updatedAtField.withDefault none (Checked.nullable Checked.timestamp)
      (row.columns id) = .accepted (some row.updatedAt.time) :=
    Field.withDefault_of_find? rfl (nullable_stamp _)
  simp only [Feature.ofJson, Checked.record, hdescription, hcreated, hupdated]
  rfl

/-- The columns of a joined state are read as the state with the key of its owner. -/
theorem StateRow.ofJson_columns (id key : String) (row : StateRow) :
    FeatureState.ofJson (.object (row.columns id key)) = .accepted (row.record id (some key)) := by
  have htype : FeatureState.contextTypeField.required FeatureState.contextTypeOf
      (row.columns id key) = .accepted row.contextType :=
    Field.required_of_find? rfl (by
      simp only [FeatureState.contextTypeOf, Checked.choice, ContextType.ofName?_name])
  have hcontextId : FeatureState.contextIdField.withDefault none (Checked.nullable Checked.string)
      (row.columns id key) = .accepted row.contextId :=
    Field.string_of_find? rfl
  have hcreated : Feature.createdAtField.withDefault none (Checked.nullable Checked.timestamp)
      (row.columns id key) = .accepted (some row.createdAt.time) :=
    Field.withDefault_of_find? rfl (nullable_stamp _)
  have hupdated : Feature.updatedAtField.withDefault none (Checked.nullable Checked.timestamp)
      (row.columns id key) = .accepted (some row.updatedAt.time) :=
    Field.withDefault_of_find? rfl (nullable_stamp _)
  simp only [FeatureState.ofJson, Checked.record, htype, hcontextId, hcreated, hupdated]
  rfl

/-- The row of a feature after its data are changed. -/
def FeatureRow.changed (row : FeatureRow) (key name : String) (description : Option String)
    (updated : Stamp) : FeatureRow :=
  { row with key, name, description, updatedAt := updated }

/-- The row of a state after its data are changed; without a new owner it keeps the one it has. -/
def StateRow.changed (row : StateRow) (featureId : Option String) (type : ContextType)
    (contextId : Option String) (state : Bool) (updated : Stamp) : StateRow :=
  { row with
    featureId := featureId.getD row.featureId
    contextType := type
    contextId
    state
    updatedAt := updated }

/-! ## Tables -/

/-- The rows of both tables by primary key. -/
structure Tables where
  features : String → Option FeatureRow
  states : String → Option StateRow

namespace Tables

def empty : Tables := ⟨fun _ => none, fun _ => none⟩

def putFeature (t : Tables) (id : String) (row : FeatureRow) : Tables :=
  { t with features := Function.update t.features id (some row) }

def putState (t : Tables) (id : String) (row : StateRow) : Tables :=
  { t with states := Function.update t.states id (some row) }

def eraseFeature (t : Tables) (id : String) : Tables :=
  { t with features := Function.update t.features id none }

def eraseState (t : Tables) (id : String) : Tables :=
  { t with states := Function.update t.states id none }

/-- Does a feature other than the one with this identifier have the key? -/
def KeyTaken (t : Tables) (id key : String) : Prop :=
  ∃ other row, other ≠ id ∧ t.features other = some row ∧ row.key = key

/-- Does a state other than the one with this identifier have the owner and the context? -/
def ContextTaken (t : Tables) (id featureId : String) (type : ContextType)
    (contextId : Option String) : Prop :=
  ∃ other row, other ≠ id ∧ t.states other = some row ∧ row.featureId = featureId ∧
    row.contextType = type ∧ row.contextId.getD "" = contextId.getD ""

/-- Are the features with these identifiers in the order of their keys, character by character? -/
def InKeyOrder (t : Tables) (ids : List String) : Prop :=
  ids.Pairwise fun a b => ∀ row row', t.features a = some row → t.features b = some row' →
    row.key ≤ row'.key

/-- Does a state refer to the feature? -/
def Referenced (t : Tables) (id : String) : Prop :=
  ∃ sid row, t.states sid = some row ∧ row.featureId = id

/-- A state with the key of its owner. -/
def joined? (t : Tables) (id : String) : Option (StateRow × String) := do
  let row ← t.states id
  let owner ← t.features row.featureId
  return (row, owner.key)

/-- The row of a feature; null when there is none. -/
def featureJson (t : Tables) (id : String) : Json :=
  ((t.features id).map fun row => .object (row.columns id)).getD .null

/-- The row of a state with the key of its owner; null when there is none. -/
def stateJson (t : Tables) (id : String) : Json :=
  ((t.joined? id).map fun (row, key) => .object (row.columns id key)).getD .null

end Tables

/-- The identifiers under which a table has rows, each once. -/
structure Lists {α : Type} (table : String → Option α) (ids : List String) : Prop where
  nodup : ids.Nodup
  mem_iff : ∀ id, id ∈ ids ↔ (table id).isSome

/-! ## Answers -/

/-- The most characters that a column of names or identifiers holds. -/
def columnWidth : Nat := 255

/-- The arguments have the types of the columns they are written to. -/
def Statement.WellTyped : Statement → Prop
  | .insertFeature id key name _ =>
    id.length ≤ columnWidth ∧ key.length ≤ columnWidth ∧ name.length ≤ columnWidth
  | .updateFeature _ key name description =>
    ∃ k n d, key = .string k ∧ name = .string n ∧ description = .ofOption d ∧
      k.length ≤ columnWidth ∧ n.length ≤ columnWidth
  | .insertState id featureId _ contextId _ =>
    id.length ≤ columnWidth ∧ featureId.length ≤ columnWidth ∧
      ∀ c, contextId = some c → c.length ≤ columnWidth
  | .updateState _ featureId _ contextId _ =>
    (∀ f, featureId = some f → f.length ≤ columnWidth) ∧
      ∀ c, contextId = some c → c.length ≤ columnWidth
  | .createVersions | .selectVersions | .recordVersion _ | .define _ => False
  | _ => True

/-- The answer `r` and the tables `t'` that SQL prescribes for a statement on the tables `t`. A
refused statement changes nothing, and uniqueness is looked at before references are. -/
inductive Prescribed (t : Tables) : Statement → Except Failure Json → Tables → Prop
  | selectFeatures {ids : List String} (hids : Lists t.features ids) (hkeys : t.InKeyOrder ids) :
      Prescribed t .selectFeatures (.ok (.array (ids.map t.featureJson))) t
  | selectFeature (id : String) : Prescribed t (.selectFeature id) (.ok (t.featureJson id)) t
  | lockFeature (id : String) : Prescribed t (.lockFeature id) (.ok (t.featureJson id)) t
  | featureOfKey {id key : String} {row : FeatureRow} (h : t.features id = some row)
      (hkey : row.key = key) :
      Prescribed t (.selectFeatureByKey key) (.ok (.object (row.columns id))) t
  | noFeatureOfKey {key : String} (h : ∀ id row, t.features id = some row → row.key ≠ key) :
      Prescribed t (.selectFeatureByKey key) (.ok .null) t
  | insertFeature {id key name : String} {description : Option String} (created updated : Stamp)
      (hid : t.features id = none) (hkey : ¬ t.KeyTaken id key) :
      Prescribed t (.insertFeature id key name description)
        (.ok (.object (FeatureRow.columns id ⟨key, name, description, created, updated⟩)))
        (t.putFeature id ⟨key, name, description, created, updated⟩)
  | insertFeatureTaken {id key name : String} {description : Option String} (message : String)
      (h : t.features id ≠ none ∨ t.KeyTaken id key) :
      Prescribed t (.insertFeature id key name description)
        (.error (.database .uniqueViolation message)) t
  | updateFeature {id k n : String} {d : Option String} {key name description : Json}
      {row : FeatureRow} (updated : Stamp) (hk : key = .string k) (hn : name = .string n)
      (hd : description = .ofOption d) (h : t.features id = some row) (hkey : ¬ t.KeyTaken id k) :
      Prescribed t (.updateFeature id key name description)
        (.ok (.object ((row.changed k n d updated).columns id)))
        (t.putFeature id (row.changed k n d updated))
  | updateFeatureTaken {id k : String} {key name description : Json} (message : String)
      (hk : key = .string k) (h : t.features id ≠ none) (hkey : t.KeyTaken id k) :
      Prescribed t (.updateFeature id key name description)
        (.error (.database .uniqueViolation message)) t
  | updateNoFeature {id : String} {key name description : Json} (h : t.features id = none) :
      Prescribed t (.updateFeature id key name description) (.ok .null) t
  | deleteFeature {id : String} (h : ¬ t.Referenced id) :
      Prescribed t (.deleteFeature id) (.ok (t.featureJson id)) (t.eraseFeature id)
  | deleteFeatureReferenced {id : String} (message : String) (h : t.Referenced id) :
      Prescribed t (.deleteFeature id) (.error (.database .foreignKeyViolation message)) t
  | countStates {featureId : String} {ids : List String} (hids : Lists t.states ids) :
      Prescribed t (.countStates featureId)
        (.ok (.int (ids.countP fun id => (t.states id).any fun row => row.featureId == featureId))) t
  | selectStates {ids : List String} (hids : Lists t.joined? ids) :
      Prescribed t .selectStates (.ok (.array (ids.map t.stateJson))) t
  | selectState (id : String) : Prescribed t (.selectState id) (.ok (t.stateJson id)) t
  | insertState {id featureId : String} {type : ContextType} {contextId : Option String}
      {state : Bool} (created updated : Stamp) (hid : t.states id = none)
      (hfree : ¬ t.ContextTaken id featureId type contextId) (howner : t.features featureId ≠ none) :
      Prescribed t (.insertState id featureId type contextId state) (.ok (.string "INSERT 0 1"))
        (t.putState id ⟨featureId, type, contextId, state, created, updated⟩)
  | insertStateTaken {id featureId : String} {type : ContextType} {contextId : Option String}
      {state : Bool} (message : String)
      (h : t.states id ≠ none ∨ t.ContextTaken id featureId type contextId) :
      Prescribed t (.insertState id featureId type contextId state)
        (.error (.database .uniqueViolation message)) t
  | insertStateOrphan {id featureId : String} {type : ContextType} {contextId : Option String}
      {state : Bool} (message : String) (hid : t.states id = none)
      (hfree : ¬ t.ContextTaken id featureId type contextId) (h : t.features featureId = none) :
      Prescribed t (.insertState id featureId type contextId state)
        (.error (.database .foreignKeyViolation message)) t
  | updateState {id : String} {featureId contextId : Option String} {type : ContextType}
      {state : Bool} {row : StateRow} (updated : Stamp) (h : t.states id = some row)
      (hfree : ¬ t.ContextTaken id (featureId.getD row.featureId) type contextId)
      (howner : t.features (featureId.getD row.featureId) ≠ none) :
      Prescribed t (.updateState id featureId type contextId state) (.ok (.string "UPDATE 1"))
        (t.putState id (row.changed featureId type contextId state updated))
  | updateStateTaken {id : String} {featureId contextId : Option String} {type : ContextType}
      {state : Bool} {row : StateRow} (message : String) (h : t.states id = some row)
      (htaken : t.ContextTaken id (featureId.getD row.featureId) type contextId) :
      Prescribed t (.updateState id featureId type contextId state)
        (.error (.database .uniqueViolation message)) t
  | updateStateOrphan {id : String} {featureId contextId : Option String} {type : ContextType}
      {state : Bool} {row : StateRow} (message : String) (h : t.states id = some row)
      (hfree : ¬ t.ContextTaken id (featureId.getD row.featureId) type contextId)
      (howner : t.features (featureId.getD row.featureId) = none) :
      Prescribed t (.updateState id featureId type contextId state)
        (.error (.database .foreignKeyViolation message)) t
  | updateNoState {id : String} {featureId contextId : Option String} {type : ContextType}
      {state : Bool} (h : t.states id = none) :
      Prescribed t (.updateState id featureId type contextId state) (.ok (.string "UPDATE 0")) t
  | deleteState {id : String} (h : t.states id ≠ none) :
      Prescribed t (.deleteState id) (.ok (.string "DELETE 1")) (t.eraseState id)
  | deleteNoState {id : String} (h : t.states id = none) :
      Prescribed t (.deleteState id) (.ok (.string "DELETE 0")) t

/-! ## Transactions -/

/-- Where a connection stands: outside of transactions, in one that goes back to the tables `saved`
when it is rolled back, or in one in which a statement was refused. -/
inductive Stage where
  | idle
  | started (saved : Tables)
  | broken (saved : Tables)

namespace Stage

/-- Statements are answered unless one was refused in the same transaction. -/
def answers : Stage → Prop
  | .broken _ => False
  | _ => True

/-- The stage after an answer. -/
def afterAnswer : Stage → Except Failure Json → Stage
  | .started saved, .error _ => .broken saved
  | stage, _ => stage

end Stage

/-- What is seen of a database. -/
structure View where
  tables : Tables
  stage : Stage

/-- What is seen after a control; nothing is prescribed for one that is out of place. -/
def View.controlled? : View → Control → Option View
  | ⟨t, .idle⟩, .acquire => some ⟨t, .idle⟩
  | ⟨t, .idle⟩, .release => some ⟨t, .idle⟩
  | ⟨t, .idle⟩, .start => some ⟨t, .started t⟩
  | ⟨t, .started _⟩, .commit => some ⟨t, .idle⟩
  | ⟨_, .started saved⟩, .rollback => some ⟨saved, .idle⟩
  | ⟨_, .broken saved⟩, .rollback => some ⟨saved, .idle⟩
  | _, _ => none

/-- The engine answers as SQL prescribes, and nobody else changes the tables. -/
structure Engine.FollowsSql {σ : Type} (engine : Engine σ) (view : σ → View) : Prop where
  answers : ∀ w s, s.WellTyped → (view w).stage.answers →
    Prescribed (view w).tables s (engine.answer w s).1 (view (engine.answer w s).2).tables
  stages : ∀ w s, s.WellTyped → (view w).stage.answers →
    (view (engine.answer w s).2).stage = (view w).stage.afterAnswer (engine.answer w s).1
  controls : ∀ w c v, (view w).controlled? c = some v → view (engine.control w c) = v

/-- The engine answers this statement as SQL prescribes. -/
def Engine.Executes {σ : Type} (engine : Engine σ) (view : σ → View) (s : Statement) : Prop :=
  ∀ w, (view w).stage.answers →
    Prescribed (view w).tables s (engine.answer w s).1 (view (engine.answer w s).2).tables ∧
      (view (engine.answer w s).2).stage = (view w).stage.afterAnswer (engine.answer w s).1

theorem Engine.FollowsSql.executes {σ : Type} {engine : Engine σ} {view : σ → View}
    (sql : engine.FollowsSql view) {s : Statement} (hs : s.WellTyped) : engine.Executes view s :=
  fun w hstage => ⟨sql.answers w s hs hstage, sql.stages w s hs hstage⟩

end FeatureFlags.Database
