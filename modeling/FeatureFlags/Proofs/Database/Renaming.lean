import FeatureFlags.Proofs.Database.FlagTables
import FeatureFlags.Proofs.Store.Invariant
import Mathlib.Logic.Equiv.Basic

/-!
# One store under two names

Two stores that are asked the same draw identifiers of their own and read clocks of their own. A
`Renaming` says which identifier of the one is which of the other; `Matches` says that a store in
memory and the tables of a database have the same contents but for names and times. What a store
looks for before it writes, the constraints of the tables look for as well: under matching contents
the two ask the same question (`Matches.keyTaken_iff`, `Matches.referenced_iff`,
`Matches.contextTaken_iff`, `Matches.names_iff`).
-/

namespace FeatureFlags

/-- Which identifier of one store is which of another. -/
structure Renaming where
  features : Equiv.Perm String
  states : Equiv.Perm String

namespace Renaming

/-- Every identifier is the same in both stores. -/
def same : Renaming := ⟨Equiv.refl String, Equiv.refl String⟩

/-- The renaming after a feature was found under these two identifiers. -/
def learnFeature (φ : Renaming) (id id' : String) : Renaming :=
  { φ with features := φ.features.trans (Equiv.swap (φ.features id) id') }

/-- The renaming after a state was found under these two identifiers. -/
def learnState (φ : Renaming) (id id' : String) : Renaming :=
  { φ with states := φ.states.trans (Equiv.swap (φ.states id) id') }

end Renaming

/-! ## Records under other names -/

def Feature.renamed (φ : Renaming) (f : Feature) : Feature := { f with id := φ.features f.id }

def FeatureState.renamed (φ : Renaming) (st : FeatureState) : FeatureState :=
  { st with id := st.id.map φ.states, featureId := st.featureId.map φ.features }

/-- A feature without its times. -/
def Feature.timeless (f : Feature) : Feature := { f with createdAt := none, updatedAt := none }

/-- A state without its times. -/
def FeatureState.timeless (st : FeatureState) : FeatureState :=
  { st with createdAt := none, updatedAt := none }

theorem Feature.timeless_eq {f f' : Feature} (hid : f.id = f'.id) (hkey : f.key = f'.key)
    (hname : f.name = f'.name) (hdescription : f.description = f'.description) :
    f.timeless = f'.timeless := by
  simp only [timeless, hid, hkey, hname, hdescription]

theorem FeatureState.timeless_eq {st st' : FeatureState} (hid : st.id = st'.id)
    (howner : st.featureId = st'.featureId) (hkey : st.featureKey = st'.featureKey)
    (htype : st.contextType = st'.contextType) (hcontext : st.contextId = st'.contextId)
    (hstate : st.state = st'.state) : st.timeless = st'.timeless := by
  simp only [timeless, hid, howner, hkey, htype, hcontext, hstate]

/-- The operation that asks of the other store what this one asks of the one. -/
def Operation.renamed (φ : Renaming) : Operation → Operation
  | .getFeature id => .getFeature (φ.features id)
  | .updateFeature id p => .updateFeature (φ.features id) p
  | .deleteFeature id => .deleteFeature (φ.features id)
  | .createState d => .createState { d with featureId := d.featureId.map φ.features }
  | .updateState id p =>
    .updateState (φ.states id) { p with featureId := p.featureId.map φ.features }
  | .deleteState id => .deleteState (φ.states id)
  | op => op

theorem Operation.method_renamed (φ : Renaming) (op : Operation) :
    (op.renamed φ).method = op.method := by
  cases op <;> rfl

theorem Operation.Tidy.renamed {op : Operation} (h : op.Tidy) (φ : Renaming) :
    (op.renamed φ).Tidy := by
  cases op <;> exact h

def ServiceError.renamed (φ : Renaming) : ServiceError → ServiceError
  | .featureInUse id => .featureInUse (φ.features id)
  | e => e

def Failure.renamed (φ : Renaming) : Failure → Failure
  | .service e => .service (e.renamed φ)
  | f => f

/-- Are two replies the same but for names and times, and states in any order? -/
def Reply.Alike (φ : Renaming) : Reply → Reply → Prop
  | .features fs, .features fs' =>
    fs'.map Feature.timeless = fs.map fun f => (f.renamed φ).timeless
  | .states ss, .states ss' =>
    (ss'.map FeatureState.timeless).Perm (ss.map fun st => (st.renamed φ).timeless)
  | .feature f, .feature f' => f'.timeless = (f.renamed φ).timeless
  | .state st, .state st' => st'.timeless = (st.renamed φ).timeless
  | .noFeature, .noFeature => True
  | _, _ => False

/-! ## Matching contents -/

open Database

/-- The contents of a store and of tables are the same but for names and times. -/
structure Matches (φ : Renaming) (s : Store) (t : Tables) : Prop where
  features : ∀ id, (t.features (φ.features id)).map
      (fun row => (row.record (φ.features id)).timeless) =
    (s.features.get? id).map fun f => (f.renamed φ).timeless
  states : ∀ id, (t.states (φ.states id)).map
      (fun row => (row.record (φ.states id) none).timeless) =
    (s.states.get? id).map fun st => (st.renamed φ).timeless

namespace Matches

variable {φ : Renaming} {s s' : Store} {t : Tables}

theorem empty : Matches .same Store.empty Tables.empty :=
  ⟨fun _ => rfl, fun _ => rfl⟩

theorem feature_isSome (h : Matches φ s t) (id : String) :
    (t.features (φ.features id)).isSome = (s.features.get? id).isSome := by
  simpa using congrArg Option.isSome (h.features id)

theorem state_isSome (h : Matches φ s t) (id : String) :
    (t.states (φ.states id)).isSome = (s.states.get? id).isSome := by
  simpa using congrArg Option.isSome (h.states id)

/-- A stored feature has its row. -/
theorem row (h : Matches φ s t) {id : String} {f : Feature} (hf : s.features.get? id = some f) :
    ∃ row, t.features (φ.features id) = some row ∧
      (row.record (φ.features id)).timeless = (f.renamed φ).timeless := by
  have := h.features id
  rw [hf] at this
  simpa using this

/-- A row of a feature has its stored feature. -/
theorem feature (h : Matches φ s t) {id : String} {row : FeatureRow}
    (hrow : t.features (φ.features id) = some row) :
    ∃ f, s.features.get? id = some f ∧
      (row.record (φ.features id)).timeless = (f.renamed φ).timeless := by
  have := h.features id
  rw [hrow] at this
  obtain ⟨f, hf, he⟩ := Option.map_eq_some_iff.1 this.symm
  exact ⟨f, hf, he.symm⟩

theorem stateRow (h : Matches φ s t) {id : String} {st : FeatureState}
    (hst : s.states.get? id = some st) :
    ∃ row, t.states (φ.states id) = some row ∧
      (row.record (φ.states id) none).timeless = (st.renamed φ).timeless := by
  have := h.states id
  rw [hst] at this
  simpa using this

theorem state (h : Matches φ s t) {id : String} {row : StateRow}
    (hrow : t.states (φ.states id) = some row) :
    ∃ st, s.states.get? id = some st ∧
      (row.record (φ.states id) none).timeless = (st.renamed φ).timeless := by
  have := h.states id
  rw [hrow] at this
  obtain ⟨st, hst, he⟩ := Option.map_eq_some_iff.1 this.symm
  exact ⟨st, hst, he.symm⟩

/-! ## The same questions -/

theorem keyTaken_iff (h : Matches φ s t) {id' key : String} :
    t.KeyTaken id' key ↔
      ∃ id f, φ.features id ≠ id' ∧ s.features.get? id = some f ∧ f.key = key := by
  constructor
  · rintro ⟨other, row, hne, hrow, hkey⟩
    obtain ⟨id, rfl⟩ := φ.features.surjective other
    obtain ⟨f, hf, he⟩ := h.feature hrow
    exact ⟨id, f, hne, hf, (congrArg Feature.key he).symm.trans hkey⟩
  · rintro ⟨id, f, hne, hf, hkey⟩
    obtain ⟨row, hrow, he⟩ := h.row hf
    exact ⟨_, row, hne, hrow, (congrArg Feature.key he).trans hkey⟩

/-- A state refers to the row of a feature when one refers to the feature. -/
theorem referenced_iff (h : Matches φ s t) {id : String} :
    t.Referenced (φ.features id) ↔ s.isReferenced id = true := by
  rw [Store.isReferenced_iff]
  constructor
  · rintro ⟨other, row, hrow, howner⟩
    obtain ⟨sid, rfl⟩ := φ.states.surjective other
    obtain ⟨st, hst, he⟩ := h.state hrow
    have hid : some row.featureId = st.featureId.map φ.features := congrArg FeatureState.featureId he
    rw [howner, ← Option.map_some] at hid
    exact ⟨sid, st, hst, (Option.map_injective φ.features.injective hid).symm⟩
  · rintro ⟨sid, st, hst, howner⟩
    obtain ⟨row, hrow, he⟩ := h.stateRow hst
    have hid : some row.featureId = st.featureId.map φ.features := congrArg FeatureState.featureId he
    rw [howner] at hid
    exact ⟨_, row, hrow, Option.some.inj hid⟩

theorem contextTaken_iff (h : Matches φ s t) (hs : s.Coherent) {id' owner : String}
    {type : ContextType} {contextId : Option String} (hgiven : contextId ≠ some "") :
    t.ContextTaken id' (φ.features owner) type contextId ↔
      ∃ sid st, φ.states sid ≠ id' ∧ s.states.get? sid = some st ∧ st.featureId = some owner ∧
        st.contextType = type ∧ st.contextId = contextId := by
  constructor
  · rintro ⟨other, row, hne, hrow, howner, htype, hcontext⟩
    obtain ⟨sid, rfl⟩ := φ.states.surjective other
    obtain ⟨st, hst, he⟩ := h.state hrow
    have hid : some row.featureId = st.featureId.map φ.features := congrArg FeatureState.featureId he
    rw [howner, ← Option.map_some] at hid
    have htype' : st.contextType = type := (congrArg FeatureState.contextType he).symm.trans htype
    have hcontext' : row.contextId = st.contextId := congrArg FeatureState.contextId he
    refine ⟨sid, st, hne, hst, (Option.map_injective φ.features.injective hid).symm, htype', ?_⟩
    exact eq_of_getD_blank (hs.context_given sid st hst) hgiven (hcontext' ▸ hcontext)
  · rintro ⟨sid, st, hne, hst, howner, htype, hcontext⟩
    obtain ⟨row, hrow, he⟩ := h.stateRow hst
    have hid : some row.featureId = st.featureId.map φ.features := congrArg FeatureState.featureId he
    rw [howner] at hid
    refine ⟨_, row, hne, hrow, Option.some.inj hid,
      (congrArg FeatureState.contextType he).trans htype, ?_⟩
    exact congrArg (Option.getD · "") ((congrArg FeatureState.contextId he).trans hcontext)

/-- The row that a draft names is that of the feature which it names. -/
theorem names_iff (h : Matches φ s t) (hs : s.Sound) (hblank : φ.features "" = "")
    {d : FeatureState.Draft} {id : String} :
    (∃ row, t.Names { d with featureId := d.featureId.map φ.features } (φ.features id) row) ↔
      ∃ f, s.ownerOf? d = some f ∧ f.id = id := by
  have hgiven : given (d.featureId.map φ.features) = (given d.featureId).map φ.features :=
    given_map (fun id => ⟨fun e => φ.features.injective (e.trans hblank.symm), fun e => e ▸ hblank⟩) _
  unfold Tables.Names Store.ownerOf?
  simp only [hgiven]
  cases hid : given d.featureId with
  | some i =>
    simp only [Option.map_some, φ.features.injective.eq_iff]
    constructor
    · rintro ⟨row, hrow, rfl⟩
      obtain ⟨f, hf, -⟩ := h.feature hrow
      exact ⟨f, hf, hs.feature_id i f hf⟩
    · rintro ⟨f, hf, rfl⟩
      obtain ⟨row, hrow, -⟩ := h.row hf
      have := hs.feature_id i f hf
      exact ⟨row, this ▸ hrow, this.symm⟩
  | none =>
    simp only [Option.map_none, Option.bind_eq_some_iff, hs.featureByKey?_eq_some_iff]
    constructor
    · rintro ⟨row, hrow, hkey⟩
      obtain ⟨f, hf, he⟩ := h.feature hrow
      exact ⟨f, ⟨row.key, hkey, id, hf, (congrArg Feature.key he).symm⟩, hs.feature_id id f hf⟩
    · rintro ⟨f, ⟨key, hkey, id', hf, rfl⟩, rfl⟩
      rw [hs.feature_id id' f hf]
      obtain ⟨row, hrow, he⟩ := h.row hf
      exact ⟨row, hrow, hkey.trans (congrArg some (congrArg Feature.key he).symm)⟩

/-! ## Writes on both sides -/

theorem putFeature (h : Matches φ s t) {id : String} {f : Feature} {row : FeatureRow}
    (hf : s'.features = s.features.put id f) (hs : s'.states = s.states)
    (he : (row.record (φ.features id)).timeless = (f.renamed φ).timeless) :
    Matches φ s' (t.putFeature (φ.features id) row) := by
  refine ⟨fun id' => ?_, by rw [hs]; exact h.states⟩
  rw [hf, Table.get?_put]
  by_cases hid : id' = id
  · subst hid
    simpa [Tables.putFeature] using he
  · have hne : φ.features id' ≠ φ.features id := φ.features.injective.ne hid
    simpa [Tables.putFeature, Function.update_of_ne hne, hid] using h.features id'

theorem eraseFeature (h : Matches φ s t) {id : String} (hf : s'.features = s.features.erase id)
    (hs : s'.states = s.states) : Matches φ s' (t.eraseFeature (φ.features id)) := by
  refine ⟨fun id' => ?_, by rw [hs]; exact h.states⟩
  rw [hf, Table.get?_erase]
  by_cases hid : id' = id
  · subst hid
    simp [Tables.eraseFeature]
  · have hne : φ.features id' ≠ φ.features id := φ.features.injective.ne hid
    simpa [Tables.eraseFeature, Function.update_of_ne hne, hid] using h.features id'

theorem putState (h : Matches φ s t) {id : String} {st : FeatureState} {row : StateRow}
    (hs : s'.states = s.states.put id st) (hf : s'.features = s.features)
    (he : (row.record (φ.states id) none).timeless = (st.renamed φ).timeless) :
    Matches φ s' (t.putState (φ.states id) row) := by
  refine ⟨by rw [hf]; exact h.features, fun id' => ?_⟩
  rw [hs, Table.get?_put]
  by_cases hid : id' = id
  · subst hid
    simpa [Tables.putState] using he
  · have hne : φ.states id' ≠ φ.states id := φ.states.injective.ne hid
    simpa [Tables.putState, Function.update_of_ne hne, hid] using h.states id'

theorem eraseState (h : Matches φ s t) {id : String} (hs : s'.states = s.states.erase id)
    (hf : s'.features = s.features) : Matches φ s' (t.eraseState (φ.states id)) := by
  refine ⟨by rw [hf]; exact h.features, fun id' => ?_⟩
  rw [hs, Table.get?_erase]
  by_cases hid : id' = id
  · subst hid
    simp [Tables.eraseState]
  · have hne : φ.states id' ≠ φ.states id := φ.states.injective.ne hid
    simpa [Tables.eraseState, Function.update_of_ne hne, hid] using h.states id'

/-! ## Learning new names -/

/-- Exchanging two unused names leaves the used ones where they were. -/
theorem swap_of_used {e : Equiv.Perm String} {id id' other : String} {p : String → Prop}
    (hid : ¬ p (e id)) (hid' : ¬ p id') (hused : p (e other)) :
    e.trans (Equiv.swap (e id) id') other = e other := by
  refine Equiv.swap_apply_of_ne_of_ne ?_ ?_
  · rintro he
    exact hid (he ▸ hused)
  · rintro rfl
    exact hid' hused

theorem swap_of_unused {e : Equiv.Perm String} {id id' other : String} {p : String → Prop}
    (hid : ¬ p (e id)) (hid' : ¬ p id') (hunused : ¬ p (e other)) :
    ¬ p (e.trans (Equiv.swap (e id) id') other) := by
  rw [Equiv.trans_apply, Equiv.swap_apply_def]
  split
  · exact hid'
  · split
    · exact hid
    · exact hunused

@[simp] theorem learnFeature_apply (φ : Renaming) (id id' : String) :
    (φ.learnFeature id id').features id = id' := by
  simp [Renaming.learnFeature]

@[simp] theorem learnState_apply (φ : Renaming) (id id' : String) :
    (φ.learnState id id').states id = id' := by
  simp [Renaming.learnState]

/-- The empty text stays what it is as long as it names no record. -/
theorem learnFeature_blank (hblank : φ.features "" = "") {id id' : String} (hid : id ≠ "")
    (hid' : id' ≠ "") : (φ.learnFeature id id').features "" = "" := by
  have hne : "" ≠ φ.features id := fun he => hid (φ.features.injective (he.symm.trans hblank.symm))
  rw [Renaming.learnFeature, Equiv.trans_apply, hblank]
  exact Equiv.swap_apply_of_ne_of_ne hne hid'.symm

/-- Identifiers that neither side uses may be taken for one another. -/
theorem learnFeature (h : Matches φ s t) (hs : s.Sound) {id id' : String}
    (hid : s.features.get? id = none) (hid' : t.features id' = none) :
    Matches (φ.learnFeature id id') s t := by
  have hunused : ¬ (t.features (φ.features id)).isSome := by simp [h.feature_isSome, hid]
  have hunused' : ¬ (t.features id').isSome := by simp [hid']
  -- features that are stored keep their names
  have hstored : ∀ other f, s.features.get? other = some f →
      (φ.learnFeature id id').features other = φ.features other := fun other f hf =>
    swap_of_used (p := fun i => (t.features i).isSome) hunused hunused'
      (by simp [h.feature_isSome, hf])
  constructor
  · intro other
    cases hf : s.features.get? other with
    | some f =>
      have hfid := hs.feature_id other f hf
      have hrenamed : f.renamed (φ.learnFeature id id') = f.renamed φ := by
        simp only [Feature.renamed, hfid, hstored other f hf]
      rw [hstored other f hf, h.features, hf, Option.map_some, Option.map_some, hrenamed]
    | none =>
      have hnone : ¬ (t.features ((φ.learnFeature id id').features other)).isSome :=
        swap_of_unused (p := fun i => (t.features i).isSome) hunused hunused'
          (by simp [h.feature_isSome, hf])
      rw [Option.not_isSome_iff_eq_none] at hnone
      rw [hnone]
      rfl
  · intro other
    refine (h.states other).trans ?_
    cases hst : s.states.get? other with
    | none => rfl
    | some st =>
      obtain ⟨owner, f, howner, hf⟩ := hs.owner_stored other st hst
      simp only [Option.map_some, FeatureState.renamed, howner, hstored owner f hf]
      rfl

theorem learnState (h : Matches φ s t) (hs : s.Sound) {id id' : String}
    (hid : s.states.get? id = none) (hid' : t.states id' = none) :
    Matches (φ.learnState id id') s t := by
  have hunused : ¬ (t.states (φ.states id)).isSome := by simp [h.state_isSome, hid]
  have hunused' : ¬ (t.states id').isSome := by simp [hid']
  refine ⟨h.features, fun other => ?_⟩
  cases hst : s.states.get? other with
  | some st =>
    have hstored : (φ.learnState id id').states other = φ.states other :=
      swap_of_used (p := fun i => (t.states i).isSome) hunused hunused'
        (by simp [h.state_isSome, hst])
    have hrenamed : st.renamed (φ.learnState id id') = st.renamed φ := by
      simp only [FeatureState.renamed, hs.state_id other st hst, Option.map_some, hstored]
      rfl
    rw [hstored, h.states, hst, Option.map_some, Option.map_some, hrenamed]
  | none =>
    have hnone : ¬ (t.states ((φ.learnState id id').states other)).isSome :=
      swap_of_unused (p := fun i => (t.states i).isSome) hunused hunused'
        (by simp [h.state_isSome, hst])
    rw [Option.not_isSome_iff_eq_none] at hnone
    rw [hnone]
    rfl

/-- A feature that both sides create gets a name in each. -/
theorem createFeature (h : Matches φ s t) (hs : s.Sound) {id id' : String} {f : Feature}
    {row : FeatureRow} (hid : s.features.get? id = none) (hid' : t.features id' = none)
    (hf : s'.features = s.features.put id f) (hstates : s'.states = s.states)
    (he : (row.record id').timeless = (f.renamed (φ.learnFeature id id')).timeless) :
    Matches (φ.learnFeature id id') s' (t.putFeature id' row) := by
  have he' : (row.record ((φ.learnFeature id id').features id)).timeless =
      (f.renamed (φ.learnFeature id id')).timeless := by rwa [learnFeature_apply]
  have hput := (h.learnFeature hs hid hid').putFeature hf hstates he'
  rwa [learnFeature_apply] at hput

theorem createState (h : Matches φ s t) (hs : s.Sound) {id id' : String} {st : FeatureState}
    {row : StateRow} (hid : s.states.get? id = none) (hid' : t.states id' = none)
    (hst : s'.states = s.states.put id st) (hf : s'.features = s.features)
    (he : (row.record id' none).timeless = (st.renamed (φ.learnState id id')).timeless) :
    Matches (φ.learnState id id') s' (t.putState id' row) := by
  have he' : (row.record ((φ.learnState id id').states id) none).timeless =
      (st.renamed (φ.learnState id id')).timeless := by rwa [learnState_apply]
  have hput := (h.learnState hs hid hid').putState hst hf he'
  rwa [learnState_apply] at hput

end Matches

end FeatureFlags
