import FeatureFlags.Proofs.Database.Tables
import FeatureFlags.Proofs.Table
import FeatureFlags.Proofs.Text

/-!
# A database that follows SQL

What is asked of an engine by `Engine.FollowsSql` can be had: here is a database that keeps the rows
of both tables in the order in which they were written, and that answers every statement by looking
through them (`Reference.followsSql`). Its clock stands still.
-/

namespace FeatureFlags.Database

/-- The rows of both tables, in the order in which they were written. -/
structure Contents where
  features : Table String FeatureRow
  states : Table String StateRow

namespace Contents

def empty : Contents := ⟨.empty, .empty⟩

def tables (c : Contents) : Tables := ⟨c.features.get?, c.states.get?⟩

/-! ## Looking through the rows -/

def isKeyTaken (c : Contents) (id key : String) : Bool :=
  c.features.entries.any fun e => e.1 != id && e.2.key == key

def isContextTaken (c : Contents) (id featureId : String) (type : ContextType)
    (contextId : Option String) : Bool :=
  c.states.entries.any fun e => e.1 != id && e.2.featureId == featureId &&
    e.2.contextType == type && e.2.contextId.getD "" == contextId.getD ""

def isReferenced (c : Contents) (id : String) : Bool :=
  c.states.entries.any fun e => e.2.featureId == id

/-- The features in the order of their keys. -/
def sortedFeatures (c : Contents) : List (String × FeatureRow) :=
  c.features.entries.mergeSort fun e e' => e.2.key ≤ e'.2.key

/-- The states that have an owner. -/
def ownedStates (c : Contents) : List String :=
  c.states.keys.filter fun id => (c.tables.joined? id).isSome

variable {c : Contents}

theorem isKeyTaken_iff {id key : String} :
    c.isKeyTaken id key = true ↔ c.tables.KeyTaken id key := by
  simp [isKeyTaken, Tables.KeyTaken, tables, Table.get?_eq_some_iff, List.any_eq_true, and_left_comm]

theorem isContextTaken_iff {id featureId : String} {type : ContextType}
    {contextId : Option String} :
    c.isContextTaken id featureId type contextId = true ↔
      c.tables.ContextTaken id featureId type contextId := by
  simp [isContextTaken, Tables.ContextTaken, tables, Table.get?_eq_some_iff, List.any_eq_true,
    and_assoc, and_left_comm]

theorem isReferenced_iff {id : String} : c.isReferenced id = true ↔ c.tables.Referenced id := by
  simp [isReferenced, Tables.Referenced, tables, Table.get?_eq_some_iff, List.any_eq_true]

theorem lists_sortedFeatures : Lists c.tables.features (c.sortedFeatures.map Prod.fst) := by
  have hperm : (c.sortedFeatures.map Prod.fst).Perm c.features.keys :=
    (List.mergeSort_perm _ _).map Prod.fst
  refine ⟨hperm.nodup_iff.2 c.features.nodup_keys, fun id => ?_⟩
  rw [hperm.mem_iff, Table.mem_keys]
  rfl

theorem inKeyOrder_sortedFeatures : c.tables.InKeyOrder (c.sortedFeatures.map Prod.fst) := by
  have hsorted : c.sortedFeatures.Pairwise fun e e' => e.2.key ≤ e'.2.key :=
    Text.pairwise_mergeSort (fun e => e.2.key) c.features.entries
  refine List.pairwise_map.2 (hsorted.imp_of_mem fun {e e'} he he' hle row row' hrow hrow' => ?_)
  have stored : ∀ e ∈ c.sortedFeatures, c.features.get? e.1 = some e.2 := fun e he =>
    Table.get?_eq_some_iff.2 ((List.mergeSort_perm _ _).mem_iff.1 he)
  obtain rfl := Option.some.inj ((stored e he).symm.trans hrow)
  obtain rfl := Option.some.inj ((stored e' he').symm.trans hrow')
  exact hle

theorem lists_ownedStates : Lists c.tables.joined? c.ownedStates := by
  refine ⟨c.states.nodup_keys.filter _, fun id => ?_⟩
  rw [ownedStates, List.mem_filter, and_iff_right_iff_imp, Table.mem_keys]
  intro h
  obtain ⟨joined, hjoined⟩ := Option.isSome_iff_exists.1 h
  obtain ⟨row, hrow, -⟩ := Option.bind_eq_some_iff.1 hjoined
  exact Option.isSome_of_eq_some hrow

theorem lists_states : Lists c.tables.states c.states.keys :=
  ⟨c.states.nodup_keys, fun _ => Table.mem_keys⟩

/-! ## Writing rows -/

theorem tables_putFeature {id : String} {row : FeatureRow} :
    tables { c with features := c.features.put id row } = c.tables.putFeature id row := by
  unfold tables Tables.putFeature
  congr 1
  funext id'
  simp [Function.update_apply]

theorem tables_putState {id : String} {row : StateRow} :
    tables { c with states := c.states.put id row } = c.tables.putState id row := by
  unfold tables Tables.putState
  congr 1
  funext id'
  simp [Function.update_apply]

theorem tables_eraseFeature {id : String} :
    tables { c with features := c.features.erase id } = c.tables.eraseFeature id := by
  unfold tables Tables.eraseFeature
  congr 1
  funext id'
  simp [Function.update_apply]

theorem tables_eraseState {id : String} :
    tables { c with states := c.states.erase id } = c.tables.eraseState id := by
  unfold tables Tables.eraseState
  congr 1
  funext id'
  simp [Function.update_apply]

/-! ## Answers -/

/-- A refused statement. -/
def refusal (kind : DatabaseError) : Except Failure Json :=
  .error (.database kind "constraint violated")

/-- The row of a feature with the key; null when there is none. -/
def featureOfKey (c : Contents) (key : String) : Json :=
  match c.features.entries.find? fun e => e.2.key == key with
  | some (id, row) => .object (row.columns id)
  | none => .null

def insertFeature (c : Contents) (now : Stamp) (id key name : String)
    (description : Option String) : Except Failure Json × Contents :=
  if (c.features.get? id).isSome || c.isKeyTaken id key then (refusal .uniqueViolation, c)
  else
    let row : FeatureRow := ⟨key, name, description, now, now⟩
    (.ok (.object (row.columns id)), { c with features := c.features.put id row })

def updateFeature (c : Contents) (now : Stamp) (id key name : String)
    (description : Option String) : Except Failure Json × Contents :=
  match c.features.get? id with
  | none => (.ok .null, c)
  | some row =>
    if c.isKeyTaken id key then (refusal .uniqueViolation, c)
    else
      let row := row.changed key name description now
      (.ok (.object (row.columns id)), { c with features := c.features.put id row })

def deleteFeature (c : Contents) (id : String) : Except Failure Json × Contents :=
  if c.isReferenced id then (refusal .foreignKeyViolation, c)
  else (.ok (c.tables.featureJson id), { c with features := c.features.erase id })

def insertState (c : Contents) (now : Stamp) (id featureId : String) (type : ContextType)
    (contextId : Option String) (state : Bool) : Except Failure Json × Contents :=
  if (c.states.get? id).isSome || c.isContextTaken id featureId type contextId then
    (refusal .uniqueViolation, c)
  else if (c.features.get? featureId).isNone then (refusal .foreignKeyViolation, c)
  else
    (.ok (.string "INSERT 0 1"),
      { c with states := c.states.put id ⟨featureId, type, contextId, state, now, now⟩ })

def updateState (c : Contents) (now : Stamp) (id : String) (featureId : Option String)
    (type : ContextType) (contextId : Option String) (state : Bool) :
    Except Failure Json × Contents :=
  match c.states.get? id with
  | none => (.ok (.string "UPDATE 0"), c)
  | some row =>
    if c.isContextTaken id (featureId.getD row.featureId) type contextId then
      (refusal .uniqueViolation, c)
    else if (c.features.get? (featureId.getD row.featureId)).isNone then
      (refusal .foreignKeyViolation, c)
    else
      (.ok (.string "UPDATE 1"),
        { c with states := c.states.put id (row.changed featureId type contextId state now) })

def deleteState (c : Contents) (id : String) : Except Failure Json × Contents :=
  if (c.states.get? id).isSome then
    (.ok (.string "DELETE 1"), { c with states := c.states.erase id })
  else (.ok (.string "DELETE 0"), c)

/-- The text of an argument; null is no text. -/
def textOf? : Json → Option String
  | .string s => some s
  | _ => none

/-- The answer to a statement that changes the tables at the time `now`, if it does. -/
def answer (c : Contents) (now : Stamp) : Statement → Except Failure Json × Contents
  | .selectFeatures => (.ok (.array ((c.sortedFeatures.map Prod.fst).map c.tables.featureJson)), c)
  | .selectFeature id | .lockFeature id => (.ok (c.tables.featureJson id), c)
  | .selectFeatureByKey key => (.ok (c.featureOfKey key), c)
  | .insertFeature id key name description => c.insertFeature now id key name description
  | .updateFeature id key name description =>
    c.updateFeature now id ((textOf? key).getD "") ((textOf? name).getD "") (textOf? description)
  | .deleteFeature id => c.deleteFeature id
  | .countStates featureId =>
    (.ok (.int (c.states.keys.countP fun id =>
      (c.states.get? id).any fun row => row.featureId == featureId)), c)
  | .selectStates => (.ok (.array (c.ownedStates.map c.tables.stateJson)), c)
  | .selectState id => (.ok (c.tables.stateJson id), c)
  | .insertState id featureId type contextId state =>
    c.insertState now id featureId type contextId state
  | .updateState id featureId type contextId state =>
    c.updateState now id featureId type contextId state
  | .deleteState id => c.deleteState id
  | .createVersions | .selectVersions | .recordVersion _ | .define _ => (.ok .null, c)

theorem featureOfKey_prescribed (key : String) :
    Prescribed c.tables (.selectFeatureByKey key) (.ok (c.featureOfKey key)) c.tables := by
  unfold featureOfKey
  split
  · rename_i id row hfound
    have hkey := List.find?_some hfound
    exact .featureOfKey (Table.get?_eq_some_iff.2 (List.mem_of_find?_eq_some hfound))
      (beq_iff_eq.1 hkey)
  · rename_i hnone
    rw [List.find?_eq_none] at hnone
    refine .noFeatureOfKey fun id row hrow hkey => ?_
    exact hnone (id, row) (Table.get?_eq_some_iff.1 hrow) (beq_iff_eq.2 hkey)

theorem insertFeature_prescribed (now : Stamp) (id key name : String)
    (description : Option String) :
    Prescribed c.tables (.insertFeature id key name description)
      (c.insertFeature now id key name description).1
      (c.insertFeature now id key name description).2.tables := by
  unfold insertFeature
  split
  · rename_i htaken
    rw [Bool.or_eq_true, isKeyTaken_iff, Option.isSome_iff_ne_none] at htaken
    exact .insertFeatureTaken _ htaken
  · rename_i hfree
    rw [Bool.or_eq_true, isKeyTaken_iff, Option.isSome_iff_ne_none, not_or, not_not] at hfree
    rw [tables_putFeature]
    exact .insertFeature now now hfree.1 hfree.2

theorem updateFeature_prescribed (now : Stamp) (id k n : String) (d : Option String) :
    Prescribed c.tables (.updateFeature id (.string k) (.string n) (.ofOption d))
      (c.updateFeature now id k n d).1 (c.updateFeature now id k n d).2.tables := by
  unfold updateFeature
  split
  · rename_i hrow
    exact .updateNoFeature hrow
  · rename_i row hrow
    have hrow' : c.tables.features id = some row := hrow
    split
    · rename_i htaken
      exact .updateFeatureTaken _ rfl (hrow' ▸ nofun) (isKeyTaken_iff.1 htaken)
    · rename_i hfree
      rw [isKeyTaken_iff] at hfree
      rw [tables_putFeature]
      exact .updateFeature now rfl rfl rfl hrow' hfree

theorem deleteFeature_prescribed (id : String) :
    Prescribed c.tables (.deleteFeature id) (c.deleteFeature id).1
      (c.deleteFeature id).2.tables := by
  unfold deleteFeature
  split
  · rename_i href
    exact .deleteFeatureReferenced _ (isReferenced_iff.1 href)
  · rename_i href
    rw [isReferenced_iff] at href
    rw [tables_eraseFeature]
    exact .deleteFeature href

theorem insertState_prescribed (now : Stamp) (id featureId : String) (type : ContextType)
    (contextId : Option String) (state : Bool) :
    Prescribed c.tables (.insertState id featureId type contextId state)
      (c.insertState now id featureId type contextId state).1
      (c.insertState now id featureId type contextId state).2.tables := by
  unfold insertState
  split
  · rename_i htaken
    rw [Bool.or_eq_true, isContextTaken_iff, Option.isSome_iff_ne_none] at htaken
    exact .insertStateTaken _ htaken
  · rename_i hfree
    rw [Bool.or_eq_true, isContextTaken_iff, Option.isSome_iff_ne_none, not_or, not_not] at hfree
    split
    · rename_i howner
      exact .insertStateOrphan _ hfree.1 hfree.2 (Option.isNone_iff_eq_none.1 howner)
    · rename_i howner
      rw [Option.isNone_iff_eq_none] at howner
      rw [tables_putState]
      exact .insertState now now hfree.1 hfree.2 howner

theorem updateState_prescribed (now : Stamp) (id : String) (featureId : Option String)
    (type : ContextType) (contextId : Option String) (state : Bool) :
    Prescribed c.tables (.updateState id featureId type contextId state)
      (c.updateState now id featureId type contextId state).1
      (c.updateState now id featureId type contextId state).2.tables := by
  unfold updateState
  split
  · rename_i hrow
    exact .updateNoState hrow
  · rename_i row hrow
    split
    · rename_i htaken
      exact .updateStateTaken _ hrow (isContextTaken_iff.1 htaken)
    · rename_i hfree
      rw [isContextTaken_iff] at hfree
      split
      · rename_i howner
        exact .updateStateOrphan _ hrow hfree (Option.isNone_iff_eq_none.1 howner)
      · rename_i howner
        rw [Option.isNone_iff_eq_none] at howner
        rw [tables_putState]
        exact .updateState now hrow hfree howner

theorem deleteState_prescribed (id : String) :
    Prescribed c.tables (.deleteState id) (c.deleteState id).1 (c.deleteState id).2.tables := by
  unfold deleteState
  split
  · rename_i h
    rw [tables_eraseState]
    exact .deleteState (Option.isSome_iff_ne_none.1 h)
  · rename_i h
    rw [Option.not_isSome_iff_eq_none] at h
    exact .deleteNoState h

theorem textOf?_ofOption (o : Option String) : textOf? (.ofOption o) = o := by
  cases o <;> rfl

/-- Every statement is answered as SQL prescribes. -/
theorem answer_prescribed (c : Contents) (now : Stamp) {s : Statement} (hs : s.WellTyped) :
    Prescribed c.tables s (c.answer now s).1 (c.answer now s).2.tables := by
  cases s with
  | selectFeatures => exact .selectFeatures lists_sortedFeatures inKeyOrder_sortedFeatures
  | selectFeature id => exact .selectFeature id
  | lockFeature id => exact .lockFeature id
  | selectFeatureByKey key => exact featureOfKey_prescribed key
  | insertFeature id key name description =>
    exact insertFeature_prescribed now id key name description
  | updateFeature id key name description =>
    obtain ⟨k, n, d, rfl, rfl, rfl, -⟩ := hs
    show Prescribed c.tables _ (c.updateFeature now id k n (textOf? (.ofOption d))).1
      (c.updateFeature now id k n (textOf? (.ofOption d))).2.tables
    rw [textOf?_ofOption]
    exact updateFeature_prescribed now id k n d
  | deleteFeature id => exact deleteFeature_prescribed id
  | countStates featureId => exact .countStates lists_states
  | selectStates => exact .selectStates lists_ownedStates
  | selectState id => exact .selectState id
  | insertState id featureId type contextId state =>
    exact insertState_prescribed now id featureId type contextId state
  | updateState id featureId type contextId state =>
    exact updateState_prescribed now id featureId type contextId state
  | deleteState id => exact deleteState_prescribed id
  | createVersions | selectVersions | recordVersion | define => exact hs.elim

end Contents

/-! ## Transactions -/

/-- Where a transaction stands, with the rows that it goes back to. -/
inductive Progress where
  | idle
  | started (saved : Contents)
  | broken (saved : Contents)

def Progress.stage : Progress → Stage
  | .idle => .idle
  | .started saved => .started saved.tables
  | .broken saved => .broken saved.tables

/-- A refused statement breaks the transaction that it is part of. -/
def Progress.afterAnswer : Progress → Except Failure Json → Progress
  | .started saved, .error _ => .broken saved
  | progress, _ => progress

theorem Progress.stage_afterAnswer (p : Progress) (r : Except Failure Json) :
    (p.afterAnswer r).stage = p.stage.afterAnswer r := by
  cases p <;> cases r <;> rfl

/-- A database in memory. -/
structure Reference where
  contents : Contents
  progress : Progress

namespace Reference

/-- The database before anything is written. -/
def empty : Reference := ⟨.empty, .idle⟩

def view (w : Reference) : View := ⟨w.contents.tables, w.progress.stage⟩

/-- In a broken transaction nothing is answered. -/
def answer (now : Stamp) (w : Reference) (s : Statement) : Except Failure Json × Reference :=
  match w.progress with
  | .broken _ => (.error (.database .general "current transaction is aborted"), w)
  | progress =>
    ((w.contents.answer now s).1,
      ⟨(w.contents.answer now s).2, progress.afterAnswer (w.contents.answer now s).1⟩)

/-- A broken transaction that is committed is rolled back. -/
def control (w : Reference) : Control → Reference
  | .start => ⟨w.contents, .started w.contents⟩
  | .commit =>
    match w.progress with
    | .broken saved => ⟨saved, .idle⟩
    | _ => ⟨w.contents, .idle⟩
  | .rollback =>
    match w.progress with
    | .idle => w
    | .started saved | .broken saved => ⟨saved, .idle⟩
  | .acquire | .release | .close => w

/-- The engine whose clock stands still at `now`. -/
def engine (now : Stamp) : Engine Reference := ⟨answer now, control⟩

/-- A statement that is answered as SQL prescribes is executed, unless the transaction is broken. -/
theorem executes_of_prescribed {now : Stamp} {s : Statement}
    (hs : ∀ c : Contents, Prescribed c.tables s (c.answer now s).1 (c.answer now s).2.tables) :
    (engine now).Executes view s := by
  rintro ⟨c, progress⟩ hanswers
  cases progress with
  | broken saved => exact hanswers.elim
  | idle => exact ⟨hs c, rfl⟩
  | started saved => exact ⟨hs c, Progress.stage_afterAnswer (.started saved) (c.answer now s).1⟩

/-- An update of a state is executed whatever its arguments are. -/
theorem executes_updateState (now : Stamp) (id : String) (featureId : Option String)
    (type : ContextType) (contextId : Option String) (state : Bool) :
    (engine now).Executes view (.updateState id featureId type contextId state) :=
  executes_of_prescribed fun _ =>
    Contents.updateState_prescribed now id featureId type contextId state

/-- **There is a database that follows SQL.** -/
theorem followsSql (now : Stamp) : (engine now).FollowsSql view where
  answers w _ hs hanswers :=
    (executes_of_prescribed (fun c => c.answer_prescribed now hs) w hanswers).1
  stages w _ hs hanswers :=
    (executes_of_prescribed (fun c => c.answer_prescribed now hs) w hanswers).2
  controls := by
    rintro ⟨c, progress⟩ control v hv
    cases progress <;> cases control <;> cases hv <;> rfl

end Reference

end FeatureFlags.Database
