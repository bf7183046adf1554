import FeatureFlags.Proofs.Payload
import FeatureFlags.Proofs.Store.Refusal

/-!
# What a write leaves as it was

A write that succeeds touches one entry of one table: it puts a new entry at the end, or replaces
one where it stands, or takes one out. The other entries and the order of all of them stay, and so
does the other table. `Touches` says for every operation which entry that is, what becomes of the
record in it, and that the reply is this record; an update keeps every field of the record that it
is not about (`Feature.Patch.Changes`, `FeatureState.Patch.Changes`).
-/

namespace FeatureFlags

/-- What a patch makes of a feature. -/
structure Feature.Patch.Changes (p : Feature.Patch) (at_ : Timestamp) (old new : Feature) : Prop where
  id : new.id = old.id
  createdAt : new.createdAt = old.createdAt
  updatedAt : new.updatedAt = some at_
  key : new.key = p.key.getD old.key
  name : new.name = p.name.getD old.name
  description : new.description = p.description.getD old.description

/-- What a patch makes of a feature state. -/
structure FeatureState.Patch.Changes (p : FeatureState.Patch) (at_ : Timestamp)
    (old new : FeatureState) : Prop where
  id : new.id = old.id
  featureKey : new.featureKey = old.featureKey
  createdAt : new.createdAt = old.createdAt
  updatedAt : new.updatedAt = some at_
  contextType : new.contextType = p.contextType
  contextId : new.contextId = p.contextId
  state : new.state = p.state
  /-- The owner is another one only when the patch gives an identifier that is not empty. -/
  featureId : ∃ owner, Store.LeavesWith old p owner ∧ new.featureId = some owner

namespace Operation

/-- The operation changes nothing. -/
def IsRead : Operation → Prop
  | .listFeatures | .listStates | .getFeature _ | .getFeatureByKey _ => True
  | _ => False

/-- The number of identifiers that the operation draws when it succeeds. -/
def drawn : Operation → Nat
  | .createFeature _ | .createState _ => 1
  | _ => 0

/-- The number of times that the operation reads the clock when it succeeds. -/
def clockReadings : Operation → Nat
  | .createFeature _ | .createState _ | .updateFeature .. | .updateState .. => 1
  | _ => 0

end Operation

namespace Store

/-- A record that the operation creates gets an identifier that no stored one of its kind has. -/
def DrawsUnused (s : Store) : Operation → Prop
  | .createFeature _ => s.features.get? (Identifier.next .feature s.issued) = none
  | .createState _ => s.states.get? (Identifier.next .featureState s.issued) = none
  | _ => True

/-- What an operation that succeeds does to the tables, and what it replies. -/
inductive Touches (s s' : Store) : Operation → Reply → Prop
  | read {op : Operation} {reply : Reply} : op.IsRead → s' = s → Touches s s' op reply
  | createFeature {d : Feature.Draft} :
      s.features.Appends s'.features (Identifier.next .feature s.issued) (s.newFeature d) →
      s'.states = s.states → Touches s s' (.createFeature d) (.feature (s.newFeature d))
  | updateFeature {id : String} {p : Feature.Patch} {old new : Feature} :
      s.features.Replaces s'.features id old new → p.Changes s.now old new →
      s'.states = s.states → Touches s s' (.updateFeature id p) (.feature new)
  | deleteFeature {id : String} {old : Feature} : s.features.Removes s'.features id old →
      s'.states = s.states → Touches s s' (.deleteFeature id) (.feature old)
  | createState {d : FeatureState.Draft} {owner : Feature} : s.Names d owner →
      s.states.Appends s'.states (Identifier.next .featureState s.issued) (s.newState owner d) →
      s'.features = s.features →
      Touches s s' (.createState d) (.state (s'.joined (s.newState owner d)))
  | updateState {id : String} {p : FeatureState.Patch} {old new : FeatureState} :
      s.states.Replaces s'.states id old new → p.Changes s.now old new →
      s'.features = s.features → Touches s s' (.updateState id p) (.state (s'.joined new))
  | deleteState {id : String} {old : FeatureState} : s.states.Removes s'.states id old →
      s'.features = s.features → Touches s s' (.deleteState id) (.state (s'.joined old))

variable {s s' : Store}

/-! ## Records after an update -/

theorem changes_patched (old : Feature) (p : Feature.Patch) (at_ : Timestamp) :
    p.Changes at_ old (patched old p at_) where
  id := rfl
  createdAt := rfl
  updatedAt := rfl
  key := rfl
  name := rfl
  description := rfl

theorem changes_moved {old : FeatureState} {p : FeatureState.Patch} {owner : String}
    (h : newOwner? old p = some owner) (at_ : Timestamp) :
    p.Changes at_ old (moved old p owner at_) where
  id := rfl
  featureKey := rfl
  createdAt := rfl
  updatedAt := rfl
  contextType := rfl
  contextId := rfl
  state := rfl
  featureId := ⟨owner, newOwner?_eq_some_iff.1 h, rfl⟩

/-- The key of an owner is read off the features alone. -/
theorem joined_congr (h : s'.features = s.features) (state : FeatureState) :
    s.joined state = s'.joined state := by
  rw [joined, joined, h]

/-! ## Identifiers and the clock -/

theorem run_draws {op : Operation} {reply : Reply} (h : s.run op = .ok (reply, s')) :
    s'.issued = s.issued + op.drawn ∧ s'.readings = s.readings + op.clockReadings := by
  cases op with
  | listFeatures | listStates | getFeature | getFeatureByKey =>
    cases h
    exact ⟨rfl, rfl⟩
  | createFeature d =>
    obtain ⟨f, hok, -⟩ := answer_eq_ok.1 h
    unfold createFeature at hok
    split at hok <;> cases hok
    exact ⟨rfl, rfl⟩
  | updateFeature id p =>
    obtain ⟨f, hok, -⟩ := answer_eq_ok.1 h
    unfold updateFeature at hok
    split at hok
    · cases hok
    · split at hok <;> cases hok
      exact ⟨rfl, rfl⟩
  | deleteFeature id =>
    obtain ⟨f, hok, -⟩ := answer_eq_ok.1 h
    unfold deleteFeature at hok
    split at hok
    · cases hok
    · split at hok <;> cases hok
      exact ⟨rfl, rfl⟩
  | createState d =>
    obtain ⟨r, hok, -⟩ := answer_eq_ok.1 h
    unfold createState at hok
    split at hok
    · cases hok
    · split at hok <;> cases hok
      exact ⟨rfl, rfl⟩
  | updateState id p =>
    obtain ⟨r, hok, -⟩ := answer_eq_ok.1 h
    unfold updateState at hok
    split at hok
    · cases hok
    · split at hok
      · cases hok
      · split at hok <;> cases hok
        exact ⟨rfl, rfl⟩
  | deleteState id =>
    obtain ⟨r, hok, -⟩ := answer_eq_ok.1 h
    unfold deleteState at hok
    split at hok <;> cases hok
    exact ⟨rfl, rfl⟩

/-! ## Tables -/

theorem run_touches {op : Operation} {reply : Reply} (hfresh : s.DrawsUnused op)
    (h : s.run op = .ok (reply, s')) : Touches s s' op reply := by
  cases op with
  | listFeatures | listStates | getFeature | getFeatureByKey =>
    cases h
    exact .read trivial rfl
  | createFeature d =>
    obtain ⟨f, hok, rfl⟩ := answer_eq_ok.1 h
    obtain ⟨-, rfl, hfeatures, hstates⟩ := createFeature_eq_ok hok
    refine .createFeature ?_ hstates
    rw [hfeatures]
    exact Table.appends_put hfresh _
  | updateFeature id p =>
    obtain ⟨f, hok, rfl⟩ := answer_eq_ok.1 h
    obtain ⟨old, hold, -, rfl, hfeatures, hstates⟩ := updateFeature_eq_ok hok
    refine .updateFeature ?_ (changes_patched old p s.now) hstates
    rw [hfeatures]
    exact Table.replaces_put hold _
  | deleteFeature id =>
    obtain ⟨f, hok, rfl⟩ := answer_eq_ok.1 h
    obtain ⟨hold, -, hfeatures, hstates⟩ := deleteFeature_eq_ok hok
    refine .deleteFeature ?_ hstates
    rw [hfeatures]
    exact Table.removes_erase hold
  | createState d =>
    obtain ⟨r, hok, rfl⟩ := answer_eq_ok.1 h
    obtain ⟨owner, howner, -, rfl, hfeatures, hstates⟩ := createState_eq_ok hok
    rw [joined_congr hfeatures]
    refine .createState (ownerOf?_eq_some_iff.1 howner) ?_ hfeatures
    rw [hstates]
    exact Table.appends_put hfresh _
  | updateState id p =>
    obtain ⟨r, hok, rfl⟩ := answer_eq_ok.1 h
    obtain ⟨old, owner, hold, howner, -, -, rfl, hfeatures, hstates⟩ := updateState_eq_ok hok
    rw [joined_congr hfeatures]
    refine .updateState ?_ (changes_moved howner s.now) hfeatures
    rw [hstates]
    exact Table.replaces_put hold _
  | deleteState id =>
    obtain ⟨r, hok, rfl⟩ := answer_eq_ok.1 h
    obtain ⟨old, hold, rfl, hfeatures, hstates⟩ := deleteState_eq_ok hok
    rw [joined_congr hfeatures]
    refine .deleteState ?_ hfeatures
    rw [hstates]
    exact Table.removes_erase hold

/-! ## Writes -/

/-- The feature that an update replies, in terms of the object that its payload was read from. -/
theorem updateFeature_of_object {id : String} {p : Feature.Patch} {o : List (String × Json)}
    {new : Feature} (hread : Feature.Patch.ofJson (.object o) = .accepted p)
    (hok : s.updateFeature id p = .ok (new, s')) :
    ∃ old key name description, s.features.get? id = some old ∧
      Feature.keyField.Gives o key ∧ Feature.nameField.Gives o name ∧
      Feature.descriptionField.Gives o description ∧
      new = { old with
        key := key.join.getD old.key
        name := name.join.getD old.name
        description := description.getD old.description
        updatedAt := some s.now } := by
  obtain ⟨old, hold, -, rfl, -, -⟩ := updateFeature_eq_ok hok
  obtain ⟨⟨key, hkey, hkey'⟩, ⟨name, hname, hname'⟩, hdescription⟩ :=
    Feature.Patch.takenFrom_of_ofJson hread
  refine ⟨old, key, name, p.description, hold, hkey, hname, hdescription, ?_⟩
  rw [patched, hkey', hname']

/-- **A write touches one record, and of that only what it is about.** An operation that succeeds
does to the tables just what `Touches` says. It draws an identifier for a record that it creates,
and reads the clock once, unless it reads or deletes. A feature that is updated with the object `o`
gets the key and the name of `o` if `o` has them and they are not null, and the description of `o`
if `o` has one, null included. -/
theorem write_touches_one {op : Operation} {reply : Reply} (hfresh : s.DrawsUnused op)
    (hrun : s.run op = .ok (reply, s')) :
    Touches s s' op reply ∧ s'.issued = s.issued + op.drawn ∧
      s'.readings = s.readings + op.clockReadings ∧
      ∀ id p o new, op = .updateFeature id p → reply = .feature new →
        Feature.Patch.ofJson (.object o) = .accepted p →
        ∃ old key name description, s.features.get? id = some old ∧
          Feature.keyField.Gives o key ∧ Feature.nameField.Gives o name ∧
          Feature.descriptionField.Gives o description ∧
          new = { old with
            key := key.join.getD old.key
            name := name.join.getD old.name
            description := description.getD old.description
            updatedAt := some s.now } := by
  obtain ⟨hissued, hreadings⟩ := run_draws hrun
  refine ⟨run_touches hfresh hrun, hissued, hreadings, ?_⟩
  rintro id p o new rfl rfl hread
  obtain ⟨f, hok, hreply⟩ := answer_eq_ok.1 hrun
  obtain rfl : f = new := Reply.feature.inj hreply
  exact updateFeature_of_object hread hok

/-- Two features, the first of them with a description. -/
def described : Store :=
  empty.afterAll [.createFeature ⟨"checkout", "Checkout", some "The cart"⟩,
    .createFeature ⟨"search", "Search", none⟩]

/-- An update that is given a null key, a name and a null description takes the description away,
and a state that names its owner by key gets the identifier of the first feature. -/
theorem write_touches_one_described :
    let cleared : Feature.Patch := ⟨none, some "Pay", some none⟩
    let o : List (String × Json) :=
      [("key", .null), ("name", .string " Pay "), ("description", .null)]
    let update := Operation.updateFeature "ftr_000000000001" cleared
    let create := Operation.createState ⟨some "", some "checkout", .global, none, true⟩
    Feature.Patch.ofJson (.object o) = .accepted cleared ∧
      (∃ f s', described.DrawsUnused update ∧ described.run update = .ok (.feature f, s') ∧
        Touches described s' update (.feature f) ∧ s'.readings = 3 ∧
        f = ⟨"ftr_000000000001", "checkout", "Pay", none, some (Clock.reading 1),
          some (Clock.reading 3)⟩) ∧
      ∃ reply s', described.DrawsUnused create ∧ described.run create = .ok (reply, s') ∧
        Touches described s' create reply ∧ s'.issued = 3 := by
  intro cleared o update create
  have hread : Feature.Patch.ofJson (.object o) = .accepted cleared := by rfl
  have hdraws : described.DrawsUnused update := trivial
  have hunused : described.DrawsUnused create := by
    show described.states.get? _ = none
    decide +kernel
  refine ⟨hread, ?_, ?_⟩
  · obtain ⟨s', hok⟩ : ∃ s', described.run update = .ok (.feature ⟨"ftr_000000000001", "checkout",
        "Pay", none, some (Clock.reading 1), some (Clock.reading 3)⟩, s') := ⟨_, rfl⟩
    obtain ⟨htouches, -, hreadings, -⟩ := write_touches_one hdraws hok
    exact ⟨_, s', hdraws, hok, htouches, hreadings, rfl⟩
  · obtain ⟨reply, s', hok⟩ : ∃ reply s', described.run create = .ok (reply, s') := ⟨_, _, rfl⟩
    obtain ⟨htouches, hissued, -⟩ := write_touches_one hunused hok
    exact ⟨reply, s', hunused, hok, htouches, hissued⟩

end Store

end FeatureFlags
