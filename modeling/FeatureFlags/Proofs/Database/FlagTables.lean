import FeatureFlags.Proofs.Database.Contract
import FeatureFlags.Proofs.Identifier
import FeatureFlags.Proofs.Payload
import FeatureFlags.Proofs.Text

/-!
# What operations do to the tables

`Performed` says what an operation of the store in a database answers and how it changes the
tables, with every case in which it is refused. `program_ensures` is the contract of all the
operations: on a database that follows SQL, the program of an operation performs it, outside of
transactions before and after.

The database is asked before rows are written, and the constraints are there besides; that the two
never disagree is part of the contract: a feature that no state refers to can be deleted, and a
feature that was found can be given a state.
-/

namespace FeatureFlags.Database

/-! ## Operations over tables -/

namespace Tables

def feature? (t : Tables) (id : String) : Option Feature :=
  (t.features id).map fun row => row.record id

def state? (t : Tables) (id : String) : Option FeatureState :=
  (t.joined? id).map fun (row, key) => row.record id (some key)

/-- Does the draft name the feature in this row as the owner? By identifier when it gives one, else
by key. -/
def Names (t : Tables) (d : FeatureState.Draft) (id : String) (row : FeatureRow) : Prop :=
  t.features id = some row ∧
    match given d.featureId with
    | some given => given = id
    | none => given d.featureKey = some row.key

/-- The texts of features are no longer than their columns are wide. -/
structure Typed (t : Tables) : Prop where
  id_length : ∀ id row, t.features id = some row → id.length ≤ columnWidth
  key_length : ∀ id row, t.features id = some row → row.key.length ≤ columnWidth
  name_length : ∀ id row, t.features id = some row → row.name.length ≤ columnWidth

end Tables

/-- A text of a patch is as short as the one it replaces. -/
theorem length_getD_le {text : Option String} {old : String}
    (htext : ∀ s, text = some s → Text.Tidy s) (hold : old.length ≤ columnWidth) :
    (text.getD old).length ≤ columnWidth := by
  cases htext' : text with
  | none => exact hold
  | some s => exact (htext s htext').length_le

/-- The row that a draft of a feature is written to. -/
def draftRow (d : Feature.Draft) (created updated : Stamp) : FeatureRow :=
  ⟨d.key, d.name, d.description, created, updated⟩

/-- The row that a draft of a state is written to. -/
def draftStateRow (owner : String) (d : FeatureState.Draft) (created updated : Stamp) : StateRow :=
  ⟨owner, d.contextType, d.contextId, d.state, created, updated⟩

/-- The row of a feature after a patch. -/
def patchedRow (p : Feature.Patch) (row : FeatureRow) (updated : Stamp) : FeatureRow :=
  row.changed (p.key.getD row.key) (p.name.getD row.name) (p.description.getD row.description)
    updated

/-- What an operation answers and which tables it leaves, when `n` identifiers were drawn before. -/
inductive Performed (t : Tables) (n : Nat) : Operation → Except Failure Reply → Tables → Prop
  | listFeatures {ids : List String} (hids : Lists t.features ids) (hkeys : t.InKeyOrder ids) :
      Performed t n .listFeatures (.ok (.features (ids.filterMap t.feature?))) t
  | listStates {ids : List String} (hids : Lists t.joined? ids) :
      Performed t n .listStates (.ok (.states (ids.filterMap t.state?))) t
  | getFeature (id : String) :
      Performed t n (.getFeature id) (.ok (.ofFeature? (t.feature? id))) t
  | featureOfKey {id key : String} {row : FeatureRow} (h : t.features id = some row)
      (hkey : row.key = key) :
      Performed t n (.getFeatureByKey key) (.ok (.feature (row.record id))) t
  | noFeatureOfKey {key : String} (h : ∀ id row, t.features id = some row → row.key ≠ key) :
      Performed t n (.getFeatureByKey key) (.ok .noFeature) t
  | createFeature {d : Feature.Draft} (created updated : Stamp)
      (hkey : ¬ t.KeyTaken (Identifier.next .feature n) d.key) :
      Performed t n (.createFeature d)
        (.ok (.feature ((draftRow d created updated).record (Identifier.next .feature n))))
        (t.putFeature (Identifier.next .feature n) (draftRow d created updated))
  | createFeatureTaken {d : Feature.Draft}
      (hkey : t.KeyTaken (Identifier.next .feature n) d.key) :
      Performed t n (.createFeature d) (.error (.service (.keyConflict d.key))) t
  | updateFeature {id : String} {p : Feature.Patch} {row : FeatureRow} (updated : Stamp)
      (h : t.features id = some row) (hfree : p.key.getD row.key = row.key ∨ ¬ t.Referenced id)
      (hkey : ¬ t.KeyTaken id (p.key.getD row.key)) :
      Performed t n (.updateFeature id p) (.ok (.feature ((patchedRow p row updated).record id)))
        (t.putFeature id (patchedRow p row updated))
  | updateFeatureLocked {id : String} {p : Feature.Patch} {row : FeatureRow}
      (h : t.features id = some row) (hnew : p.key.getD row.key ≠ row.key)
      (href : t.Referenced id) :
      Performed t n (.updateFeature id p) (.error (.service (.keyLocked row.key))) t
  | updateFeatureTaken {id : String} {p : Feature.Patch} {row : FeatureRow}
      (h : t.features id = some row) (hfree : p.key.getD row.key = row.key ∨ ¬ t.Referenced id)
      (hkey : t.KeyTaken id (p.key.getD row.key)) :
      Performed t n (.updateFeature id p)
        (.error (.service (.keyConflict (p.key.getD row.key)))) t
  | updateNoFeature {id : String} {p : Feature.Patch} (h : t.features id = none) :
      Performed t n (.updateFeature id p) (.error (.service .noFeature)) t
  | deleteFeature {id : String} {row : FeatureRow} (h : t.features id = some row)
      (href : ¬ t.Referenced id) :
      Performed t n (.deleteFeature id) (.ok (.feature (row.record id))) (t.eraseFeature id)
  | deleteFeatureReferenced {id : String} (h : t.features id ≠ none) (href : t.Referenced id) :
      Performed t n (.deleteFeature id) (.error (.service (.featureInUse id))) t
  | deleteNoFeature {id : String} (h : t.features id = none) :
      Performed t n (.deleteFeature id) (.error (.service .noFeature)) t
  | createState {d : FeatureState.Draft} {id : String} {row : FeatureRow} (created updated : Stamp)
      (howner : t.Names d id row)
      (hfree : ¬ t.ContextTaken (Identifier.next .featureState n) id d.contextType d.contextId) :
      Performed t n (.createState d)
        (.ok (.state ((draftStateRow id d created updated).record
          (Identifier.next .featureState n) (some row.key))))
        (t.putState (Identifier.next .featureState n) (draftStateRow id d created updated))
  | createStateTaken {d : FeatureState.Draft} {id : String} {row : FeatureRow}
      (howner : t.Names d id row)
      (htaken : t.ContextTaken (Identifier.next .featureState n) id d.contextType d.contextId) :
      Performed t n (.createState d) (.error (.service .duplicate)) t
  | createStateOfNone {d : FeatureState.Draft} (h : ∀ id row, ¬ t.Names d id row) :
      Performed t n (.createState d) (.error (.service .noFeature)) t
  | deleteState {id key : String} {row : StateRow} (h : t.joined? id = some (row, key)) :
      Performed t n (.deleteState id) (.ok (.state (row.record id (some key)))) (t.eraseState id)
  | deleteNoState {id : String} (h : t.joined? id = none) :
      Performed t n (.deleteState id) (.error (.service .noState)) t

/-! ## Rows that were answered -/

theorem rowOf?_featureJson (t : Tables) (id : String) :
    rowOf? (t.featureJson id) = .give ((t.features id).map fun row => row.columns id) := by
  unfold Tables.featureJson
  cases t.features id <;> rfl

theorem rowOf?_stateJson (t : Tables) (id : String) :
    rowOf? (t.stateJson id) =
      .give ((t.joined? id).map fun (row, key) => row.columns id key) := by
  unfold Tables.stateJson
  cases t.joined? id <;> rfl

theorem record_feature (id : String) (row : FeatureRow) :
    record Feature.ofJson (row.columns id) = .give (row.record id) := by
  rw [record, row.ofJson_columns]
  rfl

theorem record_state (id key : String) (row : StateRow) :
    record FeatureState.ofJson (row.columns id key) = .give (row.record id (some key)) := by
  rw [record, row.ofJson_columns]
  rfl

theorem ofOption_injective {o o' : Option String} (h : Json.ofOption o = Json.ofOption o') :
    o = o' := by
  cases o <;> cases o' <;> simp_all [Json.ofOption]

theorem givenOr_eq_give {text : Option String} {row : Row} {name old : String}
    (htext : ∀ s, text = some s → s ≠ "") (hrow : column row name = .give (.string old)) :
    givenOr text row name = .give (.string (text.getD old)) := by
  rw [givenOr, given_eq_self htext]
  cases text with
  | none => exact hrow
  | some s => rfl

theorem changesKey_iff {new : Option String} {old : String} (hnew : ∀ s, new = some s → s ≠ "") :
    changesKey new (.string old) = true ↔ new.getD old ≠ old := by
  unfold changesKey
  rw [given_eq_self hnew]
  cases new <;> simp

/-- Rows that are read one by one are read as a list. -/
theorem records_eq_give {α : Type} {read : Json → Checked α} {json : String → Json}
    {record? : String → Option α} {ids : List String}
    (h : ∀ id ∈ ids, ∃ row a, json id = .object row ∧ read (.object row) = .accepted a ∧
      record? id = some a) :
    records read (ids.map json) = .give (ids.filterMap record?) := by
  have key : ∃ rows, (ids.map json).mapM rowOf = .give rows ∧
      rows.mapM (record read) = .give (ids.filterMap record?) := by
    induction ids with
    | nil => exact ⟨[], rfl, rfl⟩
    | cons id ids ih =>
      obtain ⟨rows, hrows, hrecords⟩ := ih fun id' hid => h id' (by simp [hid])
      obtain ⟨row, a, hjson, hread, ha⟩ := h id (by simp)
      have hrecord : record read row = .give a := by rw [record, hread]; rfl
      refine ⟨row :: rows, ?_, ?_⟩
      · rw [List.map_cons, List.mapM_cons, hrows, hjson]
        rfl
      · rw [List.mapM_cons, hrecord, hrecords, List.filterMap_cons_some ha]
        rfl
  obtain ⟨rows, hrows, hrecords⟩ := key
  rw [records, hrows]
  exact hrecords

/-! ## Contracts -/

section
variable {σ : Type} {engine : Engine σ} {view : σ → View} (sql : engine.FollowsSql view)
  {t : Tables} {stage : Stage} {n : Nat}

include sql

/-- The count says whether a state refers to the feature. -/
theorem isReferenced_ensures {id : String} {post : Except Failure Bool → Seen → Prop}
    (hstage : stage.answers)
    (h : ∀ b : Bool, (b = true ↔ t.Referenced id) → post (.ok b) ⟨t, stage, n⟩) :
    (isReferenced id).Ensures engine view ⟨t, stage, n⟩ post := by
  refine .bind (.query sql trivial hstage fun r t' hr => ?_)
  cases hr with
  | @countStates _ ids hids =>
    have hstage' : ∀ r, stage.afterAnswer (.ok r) = stage := fun r => by cases stage <;> rfl
    rw [hstage']
    refine .give (h _ ?_)
    rw [Json.isTruthy, bne_iff_ne, Ne, Int.natCast_eq_zero, List.countP_eq_zero]
    simp only [not_forall, not_not, Tables.Referenced, hids.mem_iff]
    constructor
    · rintro ⟨sid, hsid, href⟩
      obtain ⟨row, hrow⟩ := Option.isSome_iff_exists.1 hsid
      exact ⟨sid, row, hrow, by simpa [hrow] using href⟩
    · rintro ⟨sid, row, hrow, href⟩
      exact ⟨sid, by simp [hrow], by simp [hrow, href]⟩

theorem feature?_ensures {id : String} {post : Except Failure (Option Feature) → Seen → Prop}
    (h : post (.ok (t.feature? id)) ⟨t, .idle, n⟩) :
    (feature? id).Ensures engine view ⟨t, .idle, n⟩ post := by
  refine .bind (.query sql trivial trivial fun r t' hr => ?_)
  cases hr
  show Program.Ensures engine view (rowOf? (t.featureJson id) >>= _) _ post
  rw [rowOf?_featureJson]
  unfold Tables.feature? at h
  cases hrow : t.features id with
  | none => rw [hrow] at h; exact .give h
  | some row =>
    rw [hrow] at h
    show Program.Ensures engine view (some <$> record Feature.ofJson (row.columns id)) _ post
    rw [record_feature]
    exact .map (.give h)

theorem featureByKey?_ensures {key : String} {post : Except Failure (Option Feature) → Seen → Prop}
    (hsome : ∀ id row, t.features id = some row → row.key = key →
      post (.ok (some (row.record id))) ⟨t, .idle, n⟩)
    (hnone : (∀ id row, t.features id = some row → row.key ≠ key) →
      post (.ok none) ⟨t, .idle, n⟩) :
    (featureByKey? key).Ensures engine view ⟨t, .idle, n⟩ post := by
  refine .bind (.query sql trivial trivial fun r t' hr => ?_)
  cases hr with
  | @featureOfKey id _ row hrow hkey =>
    show Program.Ensures engine view (some <$> record Feature.ofJson (row.columns id)) _ post
    rw [record_feature]
    exact .map (.give (hsome id row hrow hkey))
  | noFeatureOfKey h => exact .give (hnone h)

theorem listFeatures_ensures :
    listFeatures.Ensures engine view ⟨t, .idle, n⟩ fun r x =>
      x.stage = .idle ∧ Performed t n .listFeatures (r.map .features) x.tables := by
  refine .bind (.query sql trivial trivial fun r t' hr => ?_)
  cases hr with
  | @selectFeatures ids hids hkeys =>
    have hrecords : records Feature.ofJson (ids.map t.featureJson) =
        .give (ids.filterMap t.feature?) := by
      refine records_eq_give fun id hid => ?_
      obtain ⟨row, hrow⟩ := Option.isSome_iff_exists.1 ((hids.mem_iff id).1 hid)
      exact ⟨row.columns id, row.record id, by simp [Tables.featureJson, hrow],
        row.ofJson_columns id, by simp [Tables.feature?, hrow]⟩
    show Program.Ensures engine view (records Feature.ofJson (ids.map t.featureJson)) _ _
    rw [hrecords]
    exact .give ⟨rfl, .listFeatures hids hkeys⟩

theorem listStates_ensures :
    listStates.Ensures engine view ⟨t, .idle, n⟩ fun r x =>
      x.stage = .idle ∧ Performed t n .listStates (r.map .states) x.tables := by
  refine .bind (.query sql trivial trivial fun r t' hr => ?_)
  cases hr with
  | @selectStates ids hids =>
    have hrecords : records FeatureState.ofJson (ids.map t.stateJson) =
        .give (ids.filterMap t.state?) := by
      refine records_eq_give fun id hid => ?_
      obtain ⟨⟨row, key⟩, hrow⟩ := Option.isSome_iff_exists.1 ((hids.mem_iff id).1 hid)
      exact ⟨row.columns id key, row.record id (some key), by simp [Tables.stateJson, hrow],
        row.ofJson_columns id key, by simp [Tables.state?, hrow]⟩
    show Program.Ensures engine view (records FeatureState.ofJson (ids.map t.stateJson)) _ _
    rw [hrecords]
    exact .give ⟨rfl, .listStates hids⟩

/-- The width of the columns is that of the texts of drafts. -/
theorem createFeature_ensures {d : Feature.Draft} (hkey : Text.Tidy d.key) (hname : Text.Tidy d.name)
    (hfresh : t.features (Identifier.next .feature n) = none) :
    (createFeature d).Ensures engine view ⟨t, .idle, n⟩ fun r x =>
      x.stage = .idle ∧ Performed t n (.createFeature d) (r.map .feature) x.tables := by
  have htyped : (Statement.insertFeature (Identifier.next .feature n) d.key d.name
      d.description).WellTyped :=
    ⟨by rw [Identifier.length_next]; decide, hkey.length_le, hname.length_le⟩
  refine .bind (.freshId ?_)
  refine .bind (.mapFailure (.bind (.query sql htyped trivial fun r t' hr => ?_)))
  cases hr with
  | insertFeature created updated hid hfree =>
    refine .give (.bind (.log ?_))
    show Program.Ensures engine view
      (record Feature.ofJson ((draftRow d created updated).columns _)) _ _
    rw [record_feature]
    exact .give ⟨rfl, .createFeature created updated hfree⟩
  | insertFeatureTaken message h =>
    exact ⟨rfl, .createFeatureTaken (h.resolve_left fun hid => hid hfresh)⟩

theorem deleteFeature_ensures {id : String} :
    (deleteFeature id).Ensures engine view ⟨t, .idle, n⟩ fun r x =>
      x.stage = .idle ∧ Performed t n (.deleteFeature id) (r.map .feature) x.tables := by
  refine .bind (.withConnection sql (.transaction sql (.bind ?_)))
  refine .query sql trivial trivial fun r t' hr => ?_
  cases hr
  show Program.Ensures engine view (rowOf? (t.featureJson id) >>= _) _ _
  rw [rowOf?_featureJson]
  cases hrow : t.features id with
  | none => exact .bind (.give (.fail ⟨.inl rfl, rfl, rfl, .deleteNoFeature hrow⟩))
  | some row =>
    refine .bind (.give (.bind ?_))
    refine isReferenced_ensures sql trivial fun b hb => ?_
    cases b with
    | true => exact .fail ⟨.inl rfl, rfl, rfl, .deleteFeatureReferenced (by simp [hrow]) (hb.1 rfl)⟩
    | false =>
      have hfree : ¬ t.Referenced id := fun h => by cases hb.2 h
      refine .mapFailure (.bind ?_)
      refine .query sql trivial trivial fun r t' hr => ?_
      cases hr with
      | deleteFeatureReferenced message h => exact absurd h hfree
      | deleteFeature =>
        show Program.Ensures engine view (rowOf? (t.featureJson id)) _ _
        rw [rowOf?_featureJson, hrow]
        refine .give ⟨rfl, rfl, ?_⟩
        show Program.Ensures engine view (record Feature.ofJson (row.columns id)) _ _
        rw [record_feature]
        exact .give ⟨rfl, .deleteFeature hrow hfree⟩

/-- A program behind the question whether states refer to the feature, when it is asked at all. -/
theorem unlessReferenced_ensures {α : Type} {id : String} {asked : Bool} {e : Failure}
    {p : Program α} {post : Except Failure α → Seen → Prop} (hstage : stage.answers)
    (href : asked = true → t.Referenced id → post (.error e) ⟨t, stage, n⟩)
    (hfree : asked = false ∨ ¬ t.Referenced id → p.Ensures engine view ⟨t, stage, n⟩ post) :
    Program.Ensures engine view
      (if asked = true then do
        if ← isReferenced id then
          (Program.fail e : Program Unit)
          p
        else p
      else p) ⟨t, stage, n⟩ post := by
  cases asked with
  | false => exact hfree (.inl rfl)
  | true =>
    refine .bind (isReferenced_ensures sql hstage fun b hb => ?_)
    cases b with
    | true => exact .bind (.fail (href rfl (hb.1 rfl)))
    | false => exact hfree (.inr fun h => by cases hb.2 h)

/-- The write of a feature that is there; a key that another feature has is told as taken. -/
theorem writeFeature_ensures {id key name : String} {description : Option String}
    {row : FeatureRow} {post : Except Failure (Option Row) → Seen → Prop}
    (hrow : t.features id = some row) (hkey : key.length ≤ columnWidth)
    (hname : name.length ≤ columnWidth)
    (hdone : ∀ updated, ¬ t.KeyTaken id key →
      post (.ok (some ((row.changed key name description updated).columns id)))
        ⟨t.putFeature id (row.changed key name description updated), .started t, n⟩)
    (htaken : t.KeyTaken id key →
      post (.error (.service (.keyConflict key))) ⟨t, .broken t, n⟩) :
    (Program.mapFailure (onDuplicate (.keyConflict key)) (Program.query
      (.updateFeature id (.string key) (.string name) (.ofOption description)) >>= rowOf?)).Ensures
      engine view ⟨t, .started t, n⟩ post := by
  have hwell : (Statement.updateFeature id (.string key) (.string name)
      (.ofOption description)).WellTyped := ⟨key, name, description, rfl, rfl, rfl, hkey, hname⟩
  refine .mapFailure (.bind (.query sql hwell trivial fun r t' hr => ?_))
  generalize hd : Json.ofOption description = d at hr
  cases hr with
  | updateFeature updated hk hn hd' hrow' hfree =>
    cases hk
    cases hn
    obtain rfl := ofOption_injective (hd.trans hd')
    obtain rfl := Option.some.inj (hrow.symm.trans hrow')
    exact .give (hdone updated hfree)
  | updateFeatureTaken message hk h hkey =>
    cases hk
    exact htaken hkey
  | updateNoFeature h => exact nomatch hrow.symm.trans h

theorem updateFeature_ensures {id : String} {p : Feature.Patch}
    (hkey : ∀ key, p.key = some key → Text.Tidy key)
    (hname : ∀ name, p.name = some name → Text.Tidy name) (htyped : t.Typed) :
    (updateFeature id p).Ensures engine view ⟨t, .idle, n⟩ fun r x =>
      x.stage = .idle ∧ Performed t n (.updateFeature id p) (r.map .feature) x.tables := by
  refine .bind (.withConnection sql (.transaction sql (.bind ?_)))
  refine .query sql trivial trivial fun r t' hr => ?_
  cases hr
  show Program.Ensures engine view (rowOf? (t.featureJson id) >>= _) _ _
  rw [rowOf?_featureJson]
  cases hrow : t.features id with
  | none => exact .bind (.give (.fail ⟨.inl rfl, rfl, rfl, .updateNoFeature hrow⟩))
  | some row =>
    refine .bind (.give ?_)
    -- what the program reads off the row and the patch
    have hnewKey : givenOr p.key (row.columns id) "key" = .give (.string (p.key.getD row.key)) :=
      givenOr_eq_give (fun key h => (hkey key h).nonempty) rfl
    have hnewName : givenOr p.name (row.columns id) "name" =
        .give (.string (p.name.getD row.name)) :=
      givenOr_eq_give (fun name h => (hname name h).nonempty) rfl
    have holdKey : column (row.columns id) "key" = .give (.string row.key) := rfl
    have hdescription : column (row.columns id) "description" =
        .give (.ofOption row.description) := rfl
    have hnewDescription : (p.description.map Json.ofOption).getD (.ofOption row.description) =
        .ofOption (p.description.getD row.description) := by
      cases p.description <;> rfl
    have hchanges : changesKey p.key (.string row.key) = true ↔ p.key.getD row.key ≠ row.key :=
      changesKey_iff fun key h => (hkey key h).nonempty
    have hkeyWidth := length_getD_le hkey (htyped.key_length id row hrow)
    have hnameWidth := length_getD_le hname (htyped.name_length id row hrow)
    simp only [Option.map_some, hnewKey, holdKey, hnewName, hdescription, hnewDescription,
      Program.give_bind]
    refine unlessReferenced_ensures sql trivial (fun hnew href => ?_) fun hfree => ?_
    · exact ⟨.inl rfl, trivial, trivial, .updateFeatureLocked hrow (hchanges.1 hnew) href⟩
    · have hfree : p.key.getD row.key = row.key ∨ ¬ t.Referenced id :=
        hfree.imp_left fun h => by_contra fun hne => by rw [hchanges.2 hne] at h; cases h
      refine writeFeature_ensures sql hrow hkeyWidth hnameWidth (fun updated hkey => ?_)
        fun hkey => ?_
      · refine ⟨rfl, trivial, ?_⟩
        show Program.Ensures engine view
          (record Feature.ofJson ((patchedRow p row updated).columns id)) _ _
        rw [record_feature]
        exact .give ⟨rfl, .updateFeature updated hrow hfree hkey⟩
      · exact ⟨.inr rfl, trivial, trivial, .updateFeatureTaken hrow hfree hkey⟩

theorem readState_ensures {id key : String} {row : StateRow}
    {post : Except Failure FeatureState → Seen → Prop} (h : t.joined? id = some (row, key))
    (hpost : post (.ok (row.record id (some key))) ⟨t, .idle, n⟩) :
    (readState id).Ensures engine view ⟨t, .idle, n⟩ post := by
  refine .bind (.query sql trivial trivial fun r t' hr => ?_)
  cases hr
  show Program.Ensures engine view (rowOf? (t.stateJson id) >>= _) _ _
  rw [rowOf?_stateJson, h]
  refine .bind (.give ?_)
  show Program.Ensures engine view (record FeatureState.ofJson (row.columns id key)) _ _
  rw [record_state]
  exact .give hpost

/-- An owner that is not there is told as a missing feature. -/
theorem ownerOf_ensures {d : FeatureState.Draft} {post : Except Failure Feature → Seen → Prop}
    (hsome : ∀ id row, t.Names d id row → post (.ok (row.record id)) ⟨t, .idle, n⟩)
    (hnone : (∀ id row, ¬ t.Names d id row) →
      post (.error (.service .noFeature)) ⟨t, .idle, n⟩) :
    (ownerOf d).Ensures engine view ⟨t, .idle, n⟩ post := by
  unfold ownerOf
  unfold Tables.Names at hsome hnone
  dsimp only
  cases hid : given d.featureId with
  | some id =>
    rw [hid] at hsome hnone
    refine .bind (feature?_ensures sql ?_)
    unfold Tables.feature?
    cases hrow : t.features id with
    | none => exact .fail (hnone fun id' row h => by rw [← h.2, hrow] at h; cases h.1)
    | some row => exact .give (hsome id row ⟨hrow, rfl⟩)
  | none =>
    rw [hid] at hsome hnone
    cases hkey : given d.featureKey with
    | none =>
      rw [hkey] at hnone
      exact .bind (.give (.fail (hnone fun id row h => by cases h.2)))
    | some key =>
      rw [hkey] at hsome hnone
      refine .bind (featureByKey?_ensures sql (fun id row hrow hk => ?_) fun h => ?_)
      · exact .give (hsome id row ⟨hrow, congrArg some hk.symm⟩)
      · exact .fail (hnone fun id row hn => h id row hn.1 (Option.some.inj hn.2).symm)

theorem createState_ensures {d : FeatureState.Draft} (hfits : d.contextType.Fits d.contextId)
    (htyped : t.Typed) (hfresh : t.states (Identifier.next .featureState n) = none) :
    (createState d).Ensures engine view ⟨t, .idle, n⟩ fun r x =>
      x.stage = .idle ∧ Performed t n (.createState d) (r.map .state) x.tables := by
  refine .bind (ownerOf_ensures sql (fun id row howner => ?_) fun h => ⟨rfl, .createStateOfNone h⟩)
  refine .bind (.freshId (.bind (.mapFailure ?_)))
  have hwell : (Statement.insertState (Identifier.next .featureState n) id d.contextType d.contextId
      d.state).WellTyped := by
    refine ⟨by rw [Identifier.length_next]; decide, htyped.id_length id row howner.1, fun c hc => ?_⟩
    rcases ContextType.fits_iff.1 hfits with ⟨-, hnone⟩ | ⟨-, c', hc', htidy⟩
    · rw [hnone] at hc; cases hc
    · rw [hc'] at hc; cases hc; exact htidy.length_le
  refine .query sql hwell trivial fun r t' hr => ?_
  cases hr with
  | insertState created updated hid hfree hstored =>
    refine readState_ensures sql ?_ ⟨rfl, .createState created updated howner hfree⟩
    simp [Tables.joined?, Tables.putState, draftStateRow, FeatureRow.record, howner.1]
  | insertStateTaken message h =>
    exact ⟨rfl, .createStateTaken howner (h.resolve_left fun hid => hid hfresh)⟩
  | insertStateOrphan message hid hfree h =>
    exact nomatch howner.1.symm.trans h

theorem deleteState_ensures {id : String} :
    (deleteState id).Ensures engine view ⟨t, .idle, n⟩ fun r x =>
      x.stage = .idle ∧ Performed t n (.deleteState id) (r.map .state) x.tables := by
  refine .bind (.withConnection sql (.transaction sql (.bind ?_)))
  refine .query sql trivial trivial fun r t' hr => ?_
  cases hr
  show Program.Ensures engine view (rowOf? (t.stateJson id) >>= _) _ _
  rw [rowOf?_stateJson]
  cases hrow : t.joined? id with
  | none => exact .bind (.give (.fail ⟨.inl rfl, rfl, rfl, .deleteNoState hrow⟩))
  | some joined =>
    obtain ⟨row, key⟩ := joined
    refine .bind (.give (.bind ?_))
    refine .query sql trivial trivial fun r t' hr => ?_
    cases hr with
    | deleteState h =>
      refine .give ⟨rfl, rfl, ?_⟩
      show Program.Ensures engine view (record FeatureState.ofJson (row.columns id key)) _ _
      rw [record_state]
      exact .give ⟨rfl, .deleteState hrow⟩
    | deleteNoState h => simp [Tables.joined?, h] at hrow

/-- **The programs of the operations perform them.** -/
theorem program_ensures {op : Operation} (htidy : op.Tidy) (hop : op.method ≠ .updateState)
    (htyped : t.Typed)
    (hfeature : op.method = .createFeature → t.features (Identifier.next .feature n) = none)
    (hstate : op.method = .createState → t.states (Identifier.next .featureState n) = none) :
    (program op).Ensures engine view ⟨t, .idle, n⟩ fun r x =>
      x.stage = .idle ∧ Performed t n op r x.tables := by
  cases op with
  | listFeatures => exact .map (listFeatures_ensures sql)
  | listStates => exact .map (listStates_ensures sql)
  | getFeature id => exact .map (feature?_ensures sql ⟨rfl, .getFeature id⟩)
  | getFeatureByKey key =>
    exact .map (featureByKey?_ensures sql (fun id row h hkey => ⟨rfl, .featureOfKey h hkey⟩)
      fun h => ⟨rfl, .noFeatureOfKey h⟩)
  | createFeature d => exact .map (createFeature_ensures sql htidy.1 htidy.2 (hfeature rfl))
  | updateFeature id p => exact .map (updateFeature_ensures sql htidy.1 htidy.2 htyped)
  | deleteFeature id => exact .map (deleteFeature_ensures sql)
  | createState d => exact .map (createState_ensures sql htidy htyped (hstate rfl))
  | updateState id p => exact absurd rfl hop
  | deleteState id => exact .map (deleteState_ensures sql)

end

end FeatureFlags.Database
