import FeatureFlags.Proofs.Table
import FeatureFlags.Store.Operation

/-!
# What an operation reads and writes

The scans of a store in terms of what its tables give for an identifier, and for every write the
one way in which it succeeds: what held before, which record it returns and which table changed at
which identifier. When that held before, it does succeed. Later proofs use these and leave the
operations folded.
-/

namespace FeatureFlags.Store

variable {s s' : Store}

/-! ## Scans -/

theorem listFeatures_perm (s : Store) : s.listFeatures.Perm s.features.values :=
  List.mergeSort_perm _ _

theorem featureByKey?_eq_some {key : String} {f : Feature} (h : s.featureByKey? key = some f) :
    f.key = key ∧ ∃ id, s.features.get? id = some f := by
  unfold featureByKey? at h
  exact ⟨by simpa using List.find?_some h, Table.mem_values.1 (List.mem_of_find?_eq_some h)⟩

theorem featureByKey?_eq_none_iff {key : String} :
    s.featureByKey? key = none ↔ ∀ id f, s.features.get? id = some f → f.key ≠ key := by
  simp only [featureByKey?, List.find?_eq_none, beq_iff_eq, Table.mem_values]
  constructor
  · exact fun h id f hf => h f ⟨id, hf⟩
  · rintro h f ⟨id, hf⟩
    exact h id f hf

theorem isReferenced_iff {id : String} :
    s.isReferenced id = true ↔
      ∃ sid state, s.states.get? sid = some state ∧ state.featureId = some id := by
  simp only [isReferenced, List.any_eq_true, beq_iff_eq, Table.mem_values]
  constructor
  · rintro ⟨state, ⟨sid, h⟩, hid⟩
    exact ⟨sid, state, h, hid⟩
  · rintro ⟨sid, state, h, hid⟩
    exact ⟨state, ⟨sid, h⟩, hid⟩

theorem hasState_iff {except : Option String} {owner : String} {type : ContextType}
    {contextId : Option String} :
    s.hasState except owner type contextId = true ↔
      ∃ sid state, s.states.get? sid = some state ∧ some sid ≠ except ∧
        state.featureId = some owner ∧ state.contextType = type ∧ state.contextId = contextId := by
  simp only [hasState, List.any_eq_true, Bool.and_eq_true, bne_iff_ne, beq_iff_eq,
    ← Table.get?_eq_some_iff, Prod.exists, and_assoc]

/-! ## Writes to features -/

/-- The feature that a draft makes. -/
def newFeature (s : Store) (d : Feature.Draft) : Feature where
  id := Identifier.next .feature s.issued
  key := d.key
  name := d.name
  description := d.description
  createdAt := some s.now
  updatedAt := some s.now

theorem createFeature_eq_ok {d : Feature.Draft} {f : Feature}
    (h : s.createFeature d = .ok (f, s')) :
    s.featureByKey? d.key = none ∧ f = s.newFeature d ∧
      s'.features = s.features.put f.id f ∧ s'.states = s.states := by
  unfold createFeature at h
  split at h
  · cases h
  · rename_i hkey
    cases h
    exact ⟨by simpa using hkey, rfl, rfl, rfl⟩

theorem createFeature_of_free {d : Feature.Draft} (h : s.featureByKey? d.key = none) :
    ∃ s', s.createFeature d = .ok (s.newFeature d, s') := by
  simp [createFeature, h, newFeature]

theorem keyError?_eq_none {f : Feature} {id key : String} (h : s.keyError? f id key = none) :
    s.isReferenced id = false ∧ s.featureByKey? key = none := by
  unfold keyError? at h
  split at h
  · cases h
  · split at h
    · cases h
    · rename_i hr hk
      exact ⟨by simpa using hr, by simpa using hk⟩

theorem newKey?_eq_some {f : Feature} {p : Feature.Patch} {key : String} :
    newKey? f p = some key ↔ p.key = some key ∧ key ≠ f.key := by
  simp [newKey?, Option.filter_eq_some_iff]

/-- A patch that leaves the key as it is gives no new one. -/
theorem newKey?_eq_none {f : Feature} {p : Feature.Patch} (h : p.key.getD f.key = f.key) :
    newKey? f p = none := by
  unfold newKey?
  cases hk : p.key with
  | none => rfl
  | some key => simp_all [Option.filter]

theorem newKey?_of_ne {f : Feature} {p : Feature.Patch} (h : p.key.getD f.key ≠ f.key) :
    newKey? f p = some (p.key.getD f.key) := by
  cases hk : p.key with
  | none => simp [hk] at h
  | some key => exact newKey?_eq_some.2 ⟨hk, by simpa [hk] using h⟩

theorem updateFeature_of_free {id : String} {p : Feature.Patch} {f : Feature}
    (hf : s.features.get? id = some f)
    (hkey : p.key.getD f.key ≠ f.key →
      s.isReferenced id = false ∧ s.featureByKey? (p.key.getD f.key) = none) :
    ∃ s', s.updateFeature id p = .ok (patched f p s.now, s') := by
  have hnone : (newKey? f p).bind (s.keyError? f id) = none := by
    by_cases h : p.key.getD f.key = f.key
    · rw [newKey?_eq_none h]
      rfl
    · obtain ⟨href, hfree⟩ := hkey h
      simp [newKey?_of_ne h, keyError?, href, hfree]
  simp [updateFeature, feature?, hf, hnone]

theorem updateFeature_eq_ok {id : String} {p : Feature.Patch} {f : Feature}
    (h : s.updateFeature id p = .ok (f, s')) :
    ∃ old, s.features.get? id = some old ∧
      (∀ key, newKey? old p = some key → s.isReferenced id = false ∧ s.featureByKey? key = none) ∧
      f = patched old p s.now ∧ s'.features = s.features.put id f ∧ s'.states = s.states := by
  unfold updateFeature at h
  split at h
  · cases h
  · rename_i old hold
    split at h
    · cases h
    · rename_i hkey
      cases h
      exact ⟨old, hold, fun key hk => keyError?_eq_none (by simpa [hk] using hkey), rfl, rfl, rfl⟩

theorem deleteFeature_of_free {id : String} {f : Feature} (hf : s.features.get? id = some f)
    (href : s.isReferenced id = false) : ∃ s', s.deleteFeature id = .ok (f, s') := by
  simp [deleteFeature, feature?, hf, href]

theorem deleteFeature_eq_ok {id : String} {f : Feature} (h : s.deleteFeature id = .ok (f, s')) :
    s.features.get? id = some f ∧ s.isReferenced id = false ∧
      s'.features = s.features.erase id ∧ s'.states = s.states := by
  unfold deleteFeature at h
  split at h
  · cases h
  · rename_i hold
    split at h
    · cases h
    · rename_i hr
      cases h
      exact ⟨hold, by simpa using hr, rfl, rfl⟩

/-! ## Writes to states -/

/-- The state that a draft makes for an owner. -/
def newState (s : Store) (owner : Feature) (d : FeatureState.Draft) : FeatureState where
  id := some (Identifier.next .featureState s.issued)
  featureId := some owner.id
  featureKey := none
  contextType := d.contextType
  contextId := d.contextId
  state := d.state
  createdAt := some s.now
  updatedAt := some s.now

/-- Where features stand under their own identifiers, the owner of a draft is a stored feature. -/
theorem ownerOf?_stored (hid : ∀ id f, s.features.get? id = some f → f.id = id)
    {d : FeatureState.Draft} {owner : Feature} (ho : s.ownerOf? d = some owner) :
    s.features.get? owner.id = some owner := by
  have stored : ∀ id, s.features.get? id = some owner → s.features.get? owner.id = some owner :=
    fun id h => by rw [hid id owner h]; exact h
  unfold ownerOf? at ho
  split at ho
  · exact stored _ ho
  · obtain ⟨key, -, hkey⟩ := Option.bind_eq_some_iff.1 ho
    obtain ⟨-, id, h⟩ := featureByKey?_eq_some hkey
    exact stored id h

theorem createState_eq_ok {d : FeatureState.Draft} {r : FeatureState}
    (h : s.createState d = .ok (r, s')) :
    ∃ owner, s.ownerOf? d = some owner ∧
      s.hasState none owner.id d.contextType d.contextId = false ∧ r = s.joined (s.newState owner d) ∧
      s'.features = s.features ∧
      s'.states = s.states.put (Identifier.next .featureState s.issued) (s.newState owner d) := by
  unfold createState at h
  split at h
  · cases h
  · rename_i owner howner
    split at h
    · cases h
    · rename_i hdup
      cases h
      exact ⟨owner, howner, by simpa using hdup, rfl, rfl, rfl⟩

theorem createState_of_free {d : FeatureState.Draft} {owner : Feature}
    (howner : s.ownerOf? d = some owner)
    (hfree : s.hasState none owner.id d.contextType d.contextId = false) :
    ∃ s', s.createState d = .ok (s.joined (s.newState owner d), s') := by
  simp [createState, howner, hfree, newState]

theorem updateState_eq_ok {id : String} {p : FeatureState.Patch} {r : FeatureState}
    (h : s.updateState id p = .ok (r, s')) :
    ∃ old owner, s.states.get? id = some old ∧ newOwner? old p = some owner ∧
      (s.feature? owner).isSome ∧ s.hasState (some id) owner p.contextType p.contextId = false ∧
      r = s.joined (moved old p owner s.now) ∧ s'.features = s.features ∧
      s'.states = s.states.put id (moved old p owner s.now) := by
  unfold updateState at h
  split at h
  · cases h
  · rename_i old hold
    split at h
    · cases h
    · rename_i owner howner
      split at h
      · cases h
      · rename_i hdup
        cases h
        obtain ⟨hnew, hstored⟩ := Option.filter_eq_some_iff.1 howner
        exact ⟨old, owner, hold, hnew, hstored, by simpa using hdup, rfl, rfl, rfl⟩

/-- The update of a stored state whose owner is known. -/
theorem updateState_of_stored {id owner : String} {p : FeatureState.Patch} {old : FeatureState}
    (hold : s.states.get? id = some old) (howner : newOwner? old p = some owner) :
    s.updateState id p =
      if (s.feature? owner).isSome then
        if s.hasState (some id) owner p.contextType p.contextId then .error .duplicate
        else .ok (s.joined (moved old p owner s.now),
          { s with
            states := s.states.put id (moved old p owner s.now)
            readings := s.readings + 1 })
      else .error .noFeature := by
  cases hstored : s.feature? owner with
  | none => simp [updateState, hold, howner, Option.filter, hstored]
  | some f => simp [updateState, hold, howner, Option.filter, hstored]

theorem deleteState_of_stored {id : String} {st : FeatureState}
    (hst : s.states.get? id = some st) : ∃ s', s.deleteState id = .ok (s.joined st, s') := by
  simp [deleteState, hst]

theorem deleteState_eq_ok {id : String} {r : FeatureState} (h : s.deleteState id = .ok (r, s')) :
    ∃ old, s.states.get? id = some old ∧ r = s.joined old ∧ s'.features = s.features ∧
      s'.states = s.states.erase id := by
  unfold deleteState at h
  split at h
  · cases h
  · rename_i old hold
    cases h
    exact ⟨old, hold, rfl, rfl, rfl⟩

/-! ## Steps -/

theorem answer_eq_ok {α : Type} {reply : α → Reply} {r : Except ServiceError (α × Store)}
    {a : Reply} : answer reply r = .ok (a, s') ↔ ∃ x, r = .ok (x, s') ∧ reply x = a := by
  unfold answer
  cases r with
  | error e => simp [Except.map]
  | ok x => simp only [Except.map, Except.ok.injEq, Prod.mk.injEq]; grind

theorem after_of_error {op : Operation} {e : ServiceError} (h : s.run op = .error e) :
    s.after op = s := by
  unfold after
  rw [h]

theorem after_of_ok {op : Operation} {reply : Reply} (h : s.run op = .ok (reply, s')) :
    s.after op = s' := by
  unfold after
  rw [h]

/-- **A step that changes a store is a write that succeeded.** -/
theorem after_cases (s : Store) (op : Operation) :
    s.after op = s ∨
      (∃ d f, op = .createFeature d ∧ s.createFeature d = .ok (f, s.after op)) ∨
      (∃ id p f, op = .updateFeature id p ∧ s.updateFeature id p = .ok (f, s.after op)) ∨
      (∃ id f, op = .deleteFeature id ∧ s.deleteFeature id = .ok (f, s.after op)) ∨
      (∃ d r, op = .createState d ∧ s.createState d = .ok (r, s.after op)) ∨
      (∃ id p r, op = .updateState id p ∧ s.updateState id p = .ok (r, s.after op)) ∨
      (∃ id r, op = .deleteState id ∧ s.deleteState id = .ok (r, s.after op)) := by
  unfold after
  cases hrun : s.run op with
  | error e => exact .inl rfl
  | ok x =>
    obtain ⟨reply, s'⟩ := x
    cases op with
    | listFeatures | listStates | getFeature | getFeatureByKey => cases hrun; exact .inl rfl
    | createFeature d =>
      obtain ⟨f, hok, -⟩ := answer_eq_ok.1 hrun
      exact .inr (.inl ⟨d, f, rfl, hok⟩)
    | updateFeature id p =>
      obtain ⟨f, hok, -⟩ := answer_eq_ok.1 hrun
      exact .inr (.inr (.inl ⟨id, p, f, rfl, hok⟩))
    | deleteFeature id =>
      obtain ⟨f, hok, -⟩ := answer_eq_ok.1 hrun
      exact .inr (.inr (.inr (.inl ⟨id, f, rfl, hok⟩)))
    | createState d =>
      obtain ⟨r, hok, -⟩ := answer_eq_ok.1 hrun
      exact .inr (.inr (.inr (.inr (.inl ⟨d, r, rfl, hok⟩))))
    | updateState id p =>
      obtain ⟨r, hok, -⟩ := answer_eq_ok.1 hrun
      exact .inr (.inr (.inr (.inr (.inr (.inl ⟨id, p, r, rfl, hok⟩)))))
    | deleteState id =>
      obtain ⟨r, hok, -⟩ := answer_eq_ok.1 hrun
      exact .inr (.inr (.inr (.inr (.inr (.inr ⟨id, r, rfl, hok⟩)))))

end FeatureFlags.Store
