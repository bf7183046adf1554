import FeatureFlags.Proofs.Store.Step
import FeatureFlags.Proofs.Text

/-!
# When a store refuses

Every error that an operation of the store in memory can end with, and just when it does
(`run_eq_error_iff_refuses`). Where several reasons hold at once, `Refuses` says which of them is
told: each of its cases asks that those which are looked at before do not hold.
-/

namespace FeatureFlags.Store

/-! ## What is looked up -/

/-- A stored feature has the key. -/
def KeyTaken (s : Store) (key : String) : Prop :=
  ∃ id f, s.features.get? id = some f ∧ f.key = key

/-- A stored state refers to the feature with the identifier. -/
def Referenced (s : Store) (id : String) : Prop :=
  ∃ sid state, s.states.get? sid = some state ∧ state.featureId = some id

/-- A stored state has this owner and this context; the one stored under `except` counts for
nothing. -/
def ContextTaken (s : Store) (except : Option String) (owner : String) (type : ContextType)
    (contextId : Option String) : Prop :=
  ∃ sid state, s.states.get? sid = some state ∧ some sid ≠ except ∧
    state.featureId = some owner ∧ state.contextType = type ∧ state.contextId = contextId

/-- The draft has no feature identifier, or an empty one. -/
def OwnedByKey (d : FeatureState.Draft) : Prop := d.featureId = none ∨ d.featureId = some ""

/-- The stored feature that a draft is for: the one under its feature identifier, or, for a draft
that has none, the first with its feature key. -/
inductive Names (s : Store) (d : FeatureState.Draft) : Feature → Prop
  | byId {id : String} {f : Feature} : d.featureId = some id → id ≠ "" →
      s.features.get? id = some f → Names s d f
  | byKey {key : String} {f : Feature} {before after : List Feature} : OwnedByKey d →
      d.featureKey = some key → key ≠ "" → s.features.values = before ++ f :: after →
      f.key = key → (∀ g ∈ before, g.key ≠ key) → Names s d f

/-- The patch leaves the state with this owner: the one it gives, or, if it gives none, the one that
the state has. -/
inductive LeavesWith (state : FeatureState) (p : FeatureState.Patch) : String → Prop
  | given {owner : String} : p.featureId = some owner → owner ≠ "" → LeavesWith state p owner
  | kept {owner : String} : p.featureId = none ∨ p.featureId = some "" →
      state.featureId = some owner → LeavesWith state p owner

/-- The patch gives the feature a key that it does not have. -/
def Renames (f : Feature) (p : Feature.Patch) (key : String) : Prop :=
  p.key = some key ∧ key ≠ f.key

/-- The errors of the operations, each with the condition under which it is told. -/
inductive Refuses (s : Store) : Operation → ServiceError → Prop
  | keyTaken {d : Feature.Draft} : s.KeyTaken d.key →
      Refuses s (.createFeature d) (.keyConflict d.key)
  | updateAbsent {id : String} {p : Feature.Patch} : s.features.get? id = none →
      Refuses s (.updateFeature id p) .noFeature
  | keyLocked {id key : String} {p : Feature.Patch} {f : Feature} :
      s.features.get? id = some f → Renames f p key → s.Referenced id →
      Refuses s (.updateFeature id p) (.keyLocked f.key)
  | newKeyTaken {id key : String} {p : Feature.Patch} {f : Feature} :
      s.features.get? id = some f → Renames f p key → ¬ s.Referenced id → s.KeyTaken key →
      Refuses s (.updateFeature id p) (.keyConflict key)
  | deleteAbsent {id : String} : s.features.get? id = none →
      Refuses s (.deleteFeature id) .noFeature
  | inUse {id : String} {f : Feature} : s.features.get? id = some f → s.Referenced id →
      Refuses s (.deleteFeature id) (.featureInUse id)
  | ownerIdAbsent {d : FeatureState.Draft} {id : String} : d.featureId = some id → id ≠ "" →
      s.features.get? id = none → Refuses s (.createState d) .noFeature
  | ownerKeyAbsent {d : FeatureState.Draft} : OwnedByKey d →
      (∀ key, d.featureKey = some key → key ≠ "" → ¬ s.KeyTaken key) →
      Refuses s (.createState d) .noFeature
  | contextTaken {d : FeatureState.Draft} {f : Feature} : s.Names d f →
      s.ContextTaken none f.id d.contextType d.contextId → Refuses s (.createState d) .duplicate
  | stateAbsent {id : String} {p : FeatureState.Patch} : s.states.get? id = none →
      Refuses s (.updateState id p) .noState
  | newOwnerAbsent {id : String} {p : FeatureState.Patch} {state : FeatureState} :
      s.states.get? id = some state →
      (∀ owner, LeavesWith state p owner → s.features.get? owner = none) →
      Refuses s (.updateState id p) .noFeature
  | newContextTaken {id owner : String} {p : FeatureState.Patch} {state : FeatureState}
      {f : Feature} : s.states.get? id = some state → LeavesWith state p owner →
      s.features.get? owner = some f →
      s.ContextTaken (some id) owner p.contextType p.contextId →
      Refuses s (.updateState id p) .duplicate
  | deleteStateAbsent {id : String} : s.states.get? id = none →
      Refuses s (.deleteState id) .noState

variable {s : Store} {e : ServiceError} {id : String}

/-! ## The scans -/

theorem isReferenced_eq_false_iff : s.isReferenced id = false ↔ ¬ s.Referenced id := by
  rw [← Bool.not_eq_true, isReferenced_iff, Referenced]

theorem hasState_eq_false_iff {except : Option String} {owner : String} {type : ContextType}
    {contextId : Option String} :
    s.hasState except owner type contextId = false ↔
      ¬ s.ContextTaken except owner type contextId := by
  rw [← Bool.not_eq_true, hasState_iff, ContextTaken]

theorem featureByKey?_isSome_iff {key : String} : (s.featureByKey? key).isSome ↔ s.KeyTaken key := by
  constructor
  · intro h
    obtain ⟨f, hf⟩ := Option.isSome_iff_exists.1 h
    obtain ⟨hkey, id, hget⟩ := featureByKey?_eq_some hf
    exact ⟨id, f, hget, hkey⟩
  · rintro ⟨id, f, hget, hkey⟩
    rw [Option.isSome_iff_ne_none]
    exact fun hnone => featureByKey?_eq_none_iff.1 hnone id f hget hkey

/-- The feature found for a key is the first that has it. -/
theorem featureByKey?_eq_some_iff_first {key : String} {f : Feature} :
    s.featureByKey? key = some f ↔ ∃ before after, s.features.values = before ++ f :: after ∧
      f.key = key ∧ ∀ g ∈ before, g.key ≠ key := by
  rw [featureByKey?, List.find?_eq_some_iff_append]
  simp only [beq_iff_eq, Bool.not_eq_true', beq_eq_false_iff_ne]
  constructor
  · rintro ⟨hkey, before, after, hsplit, hbefore⟩
    exact ⟨before, after, hsplit, hkey, hbefore⟩
  · rintro ⟨before, after, hsplit, hkey, hbefore⟩
    exact ⟨hkey, before, after, hsplit, hbefore⟩

theorem ownerOf?_eq_some_iff {d : FeatureState.Draft} {f : Feature} :
    s.ownerOf? d = some f ↔ s.Names d f := by
  unfold ownerOf?
  cases hid : given d.featureId with
  | some id =>
    obtain ⟨hsome, hne⟩ := given_eq_some_iff.1 hid
    constructor
    · exact fun hget => .byId hsome hne hget
    · rintro (⟨hsome', -, hget⟩ | ⟨hnone, -⟩)
      · obtain rfl : id = _ := Option.some.inj (hsome.symm.trans hsome')
        exact hget
      · rw [given_eq_none_iff.2 hnone] at hid
        cases hid
  | none =>
    have hnone : OwnedByKey d := given_eq_none_iff.1 hid
    simp only [Option.bind_eq_some_iff, given_eq_some_iff, featureByKey?_eq_some_iff_first]
    constructor
    · rintro ⟨key, ⟨hsome, hne⟩, before, after, hsplit, hkey, hbefore⟩
      exact .byKey hnone hsome hne hsplit hkey hbefore
    · rintro (⟨hsome, hne, -⟩ | ⟨-, hsome, hne, hsplit, hkey, hbefore⟩)
      · rw [given_eq_some_iff.2 ⟨hsome, hne⟩] at hid
        cases hid
      · exact ⟨_, ⟨hsome, hne⟩, _, _, hsplit, hkey, hbefore⟩

theorem ownerOf?_eq_none_iff {d : FeatureState.Draft} :
    s.ownerOf? d = none ↔
      (∃ id, d.featureId = some id ∧ id ≠ "" ∧ s.features.get? id = none) ∨
        OwnedByKey d ∧ ∀ key, d.featureKey = some key → key ≠ "" → ¬ s.KeyTaken key := by
  unfold ownerOf?
  cases hid : given d.featureId with
  | some id =>
    obtain ⟨hsome, hne⟩ := given_eq_some_iff.1 hid
    have hnot : ¬ OwnedByKey d := fun h => by
      rw [given_eq_none_iff.2 h] at hid
      cases hid
    simp [hsome, hne, hnot, feature?]
  | none =>
    have hnone : OwnedByKey d := given_eq_none_iff.1 hid
    have hnot : ¬ ∃ id, d.featureId = some id ∧ id ≠ "" ∧ s.features.get? id = none := by
      rintro ⟨id, hsome, hne, -⟩
      rw [given_eq_some_iff.2 ⟨hsome, hne⟩] at hid
      cases hid
    simp only [Option.bind_eq_none_iff, given_eq_some_iff, hnot, hnone, false_or, true_and, and_imp,
      ← featureByKey?_isSome_iff, Option.not_isSome_iff_eq_none]

theorem newOwner?_eq_some_iff {state : FeatureState} {p : FeatureState.Patch} {owner : String} :
    newOwner? state p = some owner ↔ LeavesWith state p owner := by
  rw [newOwner?, Option.or_eq_some_iff, given_eq_some_iff, given_eq_none_iff]
  constructor
  · rintro (⟨hsome, hne⟩ | ⟨hnone, hkept⟩)
    · exact .given hsome hne
    · exact .kept hnone hkept
  · rintro (⟨hsome, hne⟩ | ⟨hnone, hkept⟩)
    · exact .inl ⟨hsome, hne⟩
    · exact .inr ⟨hnone, hkept⟩

/-! ## Refused writes to features -/

theorem refuses_createFeature_iff {d : Feature.Draft} :
    s.Refuses (.createFeature d) e ↔ s.KeyTaken d.key ∧ e = .keyConflict d.key := by
  constructor
  · rintro ⟨htaken⟩
    exact ⟨htaken, rfl⟩
  · rintro ⟨htaken, rfl⟩
    exact .keyTaken htaken

theorem createFeature_eq_error_iff {d : Feature.Draft} :
    s.createFeature d = .error e ↔ s.Refuses (.createFeature d) e := by
  rw [refuses_createFeature_iff]
  unfold createFeature
  by_cases htaken : s.KeyTaken d.key
  · rw [if_pos (featureByKey?_isSome_iff.2 htaken)]
    simp [htaken, eq_comm]
  · rw [if_neg fun h => htaken (featureByKey?_isSome_iff.1 h)]
    simp [htaken]

theorem keyError?_eq_some_iff {f : Feature} {key : String} :
    s.keyError? f id key = some e ↔
      s.Referenced id ∧ e = .keyLocked f.key ∨
        ¬ s.Referenced id ∧ s.KeyTaken key ∧ e = .keyConflict key := by
  unfold keyError?
  by_cases href : s.Referenced id
  · rw [if_pos (isReferenced_iff.2 href)]
    simp [href, eq_comm]
  · rw [if_neg fun h => href (isReferenced_iff.1 h)]
    by_cases htaken : s.KeyTaken key
    · rw [if_pos (featureByKey?_isSome_iff.2 htaken)]
      simp [href, htaken, eq_comm]
    · rw [if_neg fun h => htaken (featureByKey?_isSome_iff.1 h)]
      simp [href, htaken]

theorem refuses_updateFeature_iff {p : Feature.Patch} :
    s.Refuses (.updateFeature id p) e ↔
      s.features.get? id = none ∧ e = .noFeature ∨
        ∃ f key, s.features.get? id = some f ∧ Renames f p key ∧ s.keyError? f id key = some e := by
  simp only [keyError?_eq_some_iff]
  constructor
  · intro h
    cases h with
    | updateAbsent habsent => exact .inl ⟨habsent, rfl⟩
    | keyLocked hget hnew href => exact .inr ⟨_, _, hget, hnew, .inl ⟨href, rfl⟩⟩
    | newKeyTaken hget hnew href htaken =>
      exact .inr ⟨_, _, hget, hnew, .inr ⟨href, htaken, rfl⟩⟩
  · rintro (⟨habsent, rfl⟩ | ⟨f, key, hget, hnew, ⟨href, rfl⟩ | ⟨href, htaken, rfl⟩⟩)
    · exact .updateAbsent habsent
    · exact .keyLocked hget hnew href
    · exact .newKeyTaken hget hnew href htaken

theorem updateFeature_eq_error_iff {p : Feature.Patch} :
    s.updateFeature id p = .error e ↔ s.Refuses (.updateFeature id p) e := by
  rw [refuses_updateFeature_iff]
  unfold updateFeature
  cases hget : s.features.get? id with
  | none => simp [feature?, hget, eq_comm]
  | some f =>
    simp only [feature?, hget, reduceCtorEq, false_and, false_or, Option.some.injEq,
      exists_eq_left', exists_and_left, Renames, ← newKey?_eq_some]
    cases hnew : (newKey? f p).bind (s.keyError? f id) with
    | none => simp_all [Option.bind_eq_none_iff]
    | some e' =>
      obtain ⟨key, hkey, herror⟩ := Option.bind_eq_some_iff.1 hnew
      simp [hkey, herror, Except.error.injEq]

theorem refuses_deleteFeature_iff :
    s.Refuses (.deleteFeature id) e ↔
      s.features.get? id = none ∧ e = .noFeature ∨
        (∃ f, s.features.get? id = some f) ∧ s.Referenced id ∧ e = .featureInUse id := by
  constructor
  · intro h
    cases h with
    | deleteAbsent habsent => exact .inl ⟨habsent, rfl⟩
    | inUse hget href => exact .inr ⟨⟨_, hget⟩, href, rfl⟩
  · rintro (⟨habsent, rfl⟩ | ⟨⟨f, hget⟩, href, rfl⟩)
    · exact .deleteAbsent habsent
    · exact .inUse hget href

theorem deleteFeature_eq_error_iff :
    s.deleteFeature id = .error e ↔ s.Refuses (.deleteFeature id) e := by
  rw [refuses_deleteFeature_iff]
  unfold deleteFeature
  cases hget : s.features.get? id with
  | none => simp [feature?, hget, eq_comm]
  | some f =>
    by_cases href : s.Referenced id
    · simp [feature?, hget, isReferenced_iff.2 href, href, eq_comm]
    · simp [feature?, hget, isReferenced_eq_false_iff.2 href, href]

/-! ## Refused writes to states -/

theorem refuses_createState_iff {d : FeatureState.Draft} :
    s.Refuses (.createState d) e ↔
      s.ownerOf? d = none ∧ e = .noFeature ∨
        ∃ f, s.ownerOf? d = some f ∧
          s.ContextTaken none f.id d.contextType d.contextId ∧ e = .duplicate := by
  simp only [ownerOf?_eq_none_iff, ownerOf?_eq_some_iff]
  constructor
  · intro h
    cases h with
    | ownerIdAbsent hsome hne habsent => exact .inl ⟨.inl ⟨_, hsome, hne, habsent⟩, rfl⟩
    | ownerKeyAbsent hnone hfree => exact .inl ⟨.inr ⟨hnone, hfree⟩, rfl⟩
    | contextTaken howner htaken => exact .inr ⟨_, howner, htaken, rfl⟩
  · rintro (⟨⟨id, hsome, hne, habsent⟩ | ⟨hnone, hfree⟩, rfl⟩ | ⟨f, howner, htaken, rfl⟩)
    · exact .ownerIdAbsent hsome hne habsent
    · exact .ownerKeyAbsent hnone hfree
    · exact .contextTaken howner htaken

theorem createState_eq_error_iff {d : FeatureState.Draft} :
    s.createState d = .error e ↔ s.Refuses (.createState d) e := by
  rw [refuses_createState_iff]
  unfold createState
  cases howner : s.ownerOf? d with
  | none => simp [eq_comm]
  | some f =>
    by_cases htaken : s.ContextTaken none f.id d.contextType d.contextId
    · simp [hasState_iff.2 htaken, htaken, eq_comm]
    · simp [hasState_eq_false_iff.2 htaken, htaken]

theorem refuses_updateState_iff {p : FeatureState.Patch} :
    s.Refuses (.updateState id p) e ↔
      s.states.get? id = none ∧ e = .noState ∨
        ∃ state, s.states.get? id = some state ∧
          ((∀ owner, newOwner? state p = some owner → s.features.get? owner = none) ∧
              e = .noFeature ∨
            ∃ owner f, newOwner? state p = some owner ∧ s.features.get? owner = some f ∧
              s.ContextTaken (some id) owner p.contextType p.contextId ∧ e = .duplicate) := by
  simp only [newOwner?_eq_some_iff]
  constructor
  · intro h
    cases h with
    | stateAbsent habsent => exact .inl ⟨habsent, rfl⟩
    | newOwnerAbsent hget hfree => exact .inr ⟨_, hget, .inl ⟨hfree, rfl⟩⟩
    | newContextTaken hget howner hf htaken =>
      exact .inr ⟨_, hget, .inr ⟨_, _, howner, hf, htaken, rfl⟩⟩
  · rintro (⟨habsent, rfl⟩ | ⟨state, hget, ⟨hfree, rfl⟩ | ⟨owner, f, howner, hf, htaken, rfl⟩⟩)
    · exact .stateAbsent habsent
    · exact .newOwnerAbsent hget hfree
    · exact .newContextTaken hget howner hf htaken

theorem updateState_eq_error_iff {p : FeatureState.Patch} :
    s.updateState id p = .error e ↔ s.Refuses (.updateState id p) e := by
  rw [refuses_updateState_iff]
  cases hget : s.states.get? id with
  | none => simp [updateState, hget, eq_comm]
  | some state =>
    cases howner : newOwner? state p with
    | none => simp [updateState, hget, howner, eq_comm]
    | some owner =>
      rw [updateState_of_stored hget howner, feature?]
      cases hstored : s.features.get? owner with
      | none => simp [howner, hstored, eq_comm]
      | some f =>
        by_cases htaken : s.ContextTaken (some id) owner p.contextType p.contextId
        · simp [howner, hstored, hasState_iff.2 htaken, htaken, eq_comm]
        · simp [howner, hstored, hasState_eq_false_iff.2 htaken, htaken]

theorem refuses_deleteState_iff :
    s.Refuses (.deleteState id) e ↔ s.states.get? id = none ∧ e = .noState := by
  constructor
  · intro h
    cases h with
    | deleteStateAbsent habsent => exact ⟨habsent, rfl⟩
  · rintro ⟨habsent, rfl⟩
    exact .deleteStateAbsent habsent

theorem deleteState_eq_error_iff :
    s.deleteState id = .error e ↔ s.Refuses (.deleteState id) e := by
  rw [refuses_deleteState_iff]
  unfold deleteState
  cases hget : s.states.get? id <;> simp [eq_comm]

/-! ## Refused operations -/

theorem answer_eq_error {α : Type} {reply : α → Reply} {r : Except ServiceError (α × Store)} :
    answer reply r = .error e ↔ r = .error e := by
  cases r <;> simp [answer, Except.map]

/-- **An operation fails for the reason that is told, and for no other.** A store refuses an
operation with an error just when the condition of that error holds and those of the errors that
come before it do not. -/
theorem run_eq_error_iff_refuses (s : Store) (op : Operation) (e : ServiceError) :
    s.run op = .error e ↔ s.Refuses op e := by
  cases op with
  | listFeatures | listStates | getFeature | getFeatureByKey => exact ⟨nofun, nofun⟩
  | createFeature d => rw [run, answer_eq_error, createFeature_eq_error_iff]
  | updateFeature id p => rw [run, answer_eq_error, updateFeature_eq_error_iff]
  | deleteFeature id => rw [run, answer_eq_error, deleteFeature_eq_error_iff]
  | createState d => rw [run, answer_eq_error, createState_eq_error_iff]
  | updateState id p => rw [run, answer_eq_error, updateState_eq_error_iff]
  | deleteState id => rw [run, answer_eq_error, deleteState_eq_error_iff]

end FeatureFlags.Store
