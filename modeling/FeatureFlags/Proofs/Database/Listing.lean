import FeatureFlags.Proofs.Database.Renaming
import FeatureFlags.Proofs.Store.Published

/-!
# The same lists and the same document

When contents match, what the database lists is what the store lists but for names and times: the
features in one order, because their keys are distinct, and the states in some order
(`Matches.listFeatures_eq`, `Matches.listStates_perm`). Neither names nor times nor the order of
states get into a document, so both are compiled into one and the same (`Matches.compile_eq`).
-/

namespace FeatureFlags

open Database Targeting

/-- Two tables with rows under renamed identifiers have their rows under the same ones. -/
theorem Database.Lists.perm_keys {α β : Type} {table : String → Option α} {ids : List String}
    (hids : Lists table ids) {stored : Table String β} (e : Equiv.Perm String)
    (h : ∀ id, (table (e id)).isSome = (stored.get? id).isSome) : ids.Perm (stored.keys.map e) := by
  refine (List.perm_ext_iff_of_nodup hids.nodup (stored.nodup_keys.map e.injective)).2 fun id => ?_
  obtain ⟨id, rfl⟩ := e.surjective id
  rw [hids.mem_iff, h, ← Table.mem_keys, List.mem_map_of_injective e.injective]
  rfl

namespace Matches

variable {φ : Renaming} {s : Store} {t : Tables}

theorem feature?_eq (h : Matches φ s t) (id : String) :
    (t.feature? (φ.features id)).map Feature.timeless =
      (s.features.get? id).map fun f => (f.renamed φ).timeless := by
  rw [← h.features id, Tables.feature?, Option.map_map]
  rfl

/-- A state of the database, joined with its owner, is the listed one. -/
theorem state?_eq (h : Matches φ s t) (hs : s.Sound) (sid : String) :
    (t.state? (φ.states sid)).map FeatureState.timeless =
      (s.states.get? sid).map fun st => ((s.joined st).renamed φ).timeless := by
  cases hst : s.states.get? sid with
  | none =>
    have hnone : t.states (φ.states sid) = none := by
      simpa [hst] using h.state_isSome sid
    simp [Tables.state?, Tables.joined?, hnone]
  | some st =>
    obtain ⟨row, hrow, he⟩ := h.stateRow hst
    obtain ⟨owner, f, howner, hf, hjoined⟩ := hs.joined_eq hst
    obtain ⟨ownerRow, hownerRow, hef⟩ := h.row hf
    have hid : some row.featureId = st.featureId.map φ.features := congrArg FeatureState.featureId he
    have hkey : ownerRow.key = f.key := congrArg Feature.key hef
    rw [howner, Option.map_some, Option.some.injEq] at hid
    have hrecord : (row.record (φ.states sid) (some f.key)).timeless =
        (({ st with featureKey := some f.key } : FeatureState).renamed φ).timeless :=
      congrArg (fun st : FeatureState => { st with featureKey := some f.key }) he
    simp [Tables.state?, Tables.joined?, hrow, hid, hownerRow, hkey, hjoined, hrecord]

/-! ## Lists -/

theorem listFeatures_perm (h : Matches φ s t) {ids : List String} (hids : Lists t.features ids) :
    ((ids.filterMap t.feature?).map Feature.timeless).Perm
      (s.listFeatures.map fun f => (f.renamed φ).timeless) := by
  refine List.Perm.trans ?_ (s.listFeatures_perm.map _).symm
  rw [List.map_filterMap, Table.values_eq_filterMap, List.map_filterMap]
  refine ((hids.perm_keys φ.features h.feature_isSome).filterMap _).trans ?_
  rw [List.filterMap_map]
  exact .of_eq (congrArg (List.filterMap · _) (funext h.feature?_eq))

/-- Both list the features in the order of their keys, so they list them alike. -/
theorem listFeatures_eq (h : Matches φ s t) (hs : s.Sound) {ids : List String}
    (hids : Lists t.features ids) (hkeys : t.InKeyOrder ids) :
    (ids.filterMap t.feature?).map Feature.timeless =
      s.listFeatures.map fun f => (f.renamed φ).timeless := by
  have hlisted : ((ids.filterMap t.feature?).map Feature.timeless).Pairwise
      fun a b => a.key ≤ b.key := by
    rw [List.pairwise_map, List.pairwise_filterMap]
    refine hkeys.imp fun {id id'} hle f hf f' hf' => ?_
    obtain ⟨row, hrow, rfl⟩ := Option.map_eq_some_iff.1 hf
    obtain ⟨row', hrow', rfl⟩ := Option.map_eq_some_iff.1 hf'
    exact hle row row' hrow hrow'
  have hstored : (s.listFeatures.map fun f => (f.renamed φ).timeless).Pairwise
      fun a b => a.key ≤ b.key := by
    rw [List.pairwise_map]
    exact Text.pairwise_mergeSort Feature.key s.features.values
  refine (h.listFeatures_perm hids).eq_of_pairwise (fun a b ha hb hab hba => ?_) hlisted hstored
  obtain ⟨f, hf, rfl⟩ := List.mem_map.1 ((h.listFeatures_perm hids).mem_iff.1 ha)
  obtain ⟨f', hf', rfl⟩ := List.mem_map.1 hb
  rw [hs.eq_of_key hf' hf (String.le_antisymm hab hba)]

theorem listStates_perm (h : Matches φ s t) (hs : s.Sound) {ids : List String}
    (hids : Lists t.joined? ids) :
    ((ids.filterMap t.state?).map FeatureState.timeless).Perm
      (s.listStates.map fun st => (st.renamed φ).timeless) := by
  have hstored : ∀ sid, (t.joined? (φ.states sid)).isSome = (s.states.get? sid).isSome := by
    intro sid
    have := congrArg Option.isSome (h.state?_eq hs sid)
    simpa [Tables.state?] using this
  rw [List.map_filterMap, Store.listStates, List.map_map, Table.values_eq_filterMap,
    List.map_filterMap]
  refine ((hids.perm_keys φ.states hstored).filterMap _).trans ?_
  rw [List.filterMap_map]
  exact .of_eq (congrArg (List.filterMap · _) (funext (h.state?_eq hs)))

/-! ## Documents -/

theorem mem_feature? {ids : List String} (hids : Lists t.features ids) {f : Feature} :
    f ∈ ids.filterMap t.feature? ↔ ∃ id, t.feature? id = some f := by
  rw [List.mem_filterMap]
  refine ⟨fun ⟨id, _, hf⟩ => ⟨id, hf⟩, fun ⟨id, hf⟩ => ⟨id, (hids.mem_iff id).2 ?_, hf⟩⟩
  simpa [Tables.feature?] using congrArg Option.isSome hf

/-- A feature that the database lists is a stored one under another name. -/
theorem stored_of_feature? (h : Matches φ s t) {id : String} {f' : Feature}
    (hf' : t.feature? (φ.features id) = some f') :
    ∃ f, s.features.get? id = some f ∧ f'.timeless = (f.renamed φ).timeless := by
  have := h.feature?_eq id
  rw [hf'] at this
  obtain ⟨f, hf, he⟩ := Option.map_eq_some_iff.1 this.symm
  exact ⟨f, hf, he.symm⟩

/-- No two features that the database lists have one identifier, or one key. -/
theorem feature?_unique (h : Matches φ s t) (hs : s.Sound) {ids : List String}
    (hids : Lists t.features ids) {owner : String} {row : FeatureRow}
    (hrow : t.features (φ.features owner) = some row) {g : Feature}
    (hg : g ∈ ids.filterMap t.feature?) (hsame : g.id = φ.features owner ∨ g.key = row.key) :
    g = row.record (φ.features owner) := by
  obtain ⟨id', hg⟩ := (mem_feature? hids).1 hg
  obtain ⟨id, rfl⟩ := φ.features.surjective id'
  obtain ⟨f, hf, hef⟩ := h.feature hrow
  obtain ⟨f₀, hf₀, heg⟩ := h.stored_of_feature? hg
  have hid : id = owner := by
    rcases hsame with hid | hkey
    · have hid₀ : g.id = φ.features f₀.id := congrArg Feature.id heg
      rw [hs.feature_id id f₀ hf₀] at hid₀
      exact φ.features.injective (hid₀.symm.trans hid)
    · have hkey₀ : g.key = f₀.key := (congrArg Feature.key heg :)
      have hkey' : row.key = f.key := congrArg Feature.key hef
      exact hs.key_distinct id owner f₀ f hf₀ hf (hkey₀.symm.trans (hkey.trans hkey'))
  subst hid
  rw [Tables.feature?, hrow] at hg
  exact (Option.some.inj hg).symm

/-- A listed state is given to the row of its owner. -/
theorem owner?_eq (h : Matches φ s t) (hs : s.Sound) {ids : List String}
    (hids : Lists t.features ids) {owner : String} {st st' : FeatureState} {f : Feature}
    {row : FeatureRow} (howner : st.featureId = some owner)
    (hf : s.features.get? owner = some f) (hrow : t.features (φ.features owner) = some row)
    (hkey : row.key = f.key) (he : st'.timeless = ((s.joined st).renamed φ).timeless) :
    owner? (ids.filterMap t.feature?) st' = some (row.record (φ.features owner)) := by
  have hmem : row.record (φ.features owner) ∈ ids.filterMap t.feature? :=
    (mem_feature? hids).2 ⟨_, by rw [Tables.feature?, hrow]; rfl⟩
  have hjoined : (s.joined st).featureKey = some f.key := by
    simp [Store.joined, howner, hf]
  refine owner?_eq_some_of_mem hmem ?_ ?_ ?_ ?_ ?_
  · exact fun g hg hid => h.feature?_unique hs hids hrow hg (.inl hid)
  · exact fun g hg hkey => h.feature?_unique hs hids hrow hg (.inr hkey)
  · exact hkey.trans_ne (hs.key_tidy owner f hf).nonempty
  · refine (congrArg FeatureState.featureId he).trans ?_
    simp [FeatureState.timeless, FeatureState.renamed, Store.joined, howner, FeatureRow.record]
  · refine (congrArg FeatureState.featureKey he).trans ?_
    simp [FeatureState.timeless, FeatureState.renamed, hjoined, FeatureRow.record, hkey]

/-- What a state speaks about has no names or times in it. -/
theorem target?_eq (h : Matches φ s t) (hs : s.Sound) {ids : List String}
    (hids : Lists t.features ids) {sid : String} {st st' : FeatureState}
    (hst : s.states.get? sid = some st)
    (he : st'.timeless = ((s.joined st).renamed φ).timeless) :
    target? (ids.filterMap t.feature?) st' = target? s.listFeatures (s.joined st) := by
  obtain ⟨owner, f, howner, hf, -⟩ := hs.joined_eq hst
  obtain ⟨row, hrow, hef⟩ := h.row hf
  have hkey : row.key = f.key := congrArg Feature.key hef
  have hcontext : Context.ofState? st' = Context.ofState? (s.joined st) := by
    have htype : st'.contextType = st.contextType := (congrArg FeatureState.contextType he :)
    have hid : st'.contextId = st.contextId := (congrArg FeatureState.contextId he :)
    simp only [Context.ofState?, Store.joined, htype, hid]
  unfold target?
  rw [h.owner?_eq hs hids howner hf hrow hkey he, hs.owner?_joined howner hf, hcontext]
  show (Context.ofState? (s.joined st)).bind _ = (Context.ofState? (s.joined st)).bind _
  simp only [FeatureRow.record, hkey]

/-- **Matching contents have one document.** -/
theorem compile_eq (h : Matches φ s t) (hs : s.Sound) {ids sids : List String}
    (hids : Lists t.features ids) (hkeys : t.InKeyOrder ids) (hsids : Lists t.joined? sids) :
    compile (ids.filterMap t.feature?) (sids.filterMap t.state?) =
      compile s.listFeatures s.listStates := by
  refine (compile_congr ?_ fun key c => override?_congr ?_ ?_ ?_ key c).symm
  · have := congrArg (List.map Feature.key) (h.listFeatures_eq hs hids hkeys)
    simpa only [List.map_map, Function.comp_def, Feature.timeless, Feature.renamed] using this.symm
  · exact fun st hst st' hst' target => hs.ownsById.state_of_target? hs hs hst hst'
  · intro listed hmem
    obtain ⟨sid, st, hst, rfl⟩ := Store.mem_listStates.1 hmem
    have := h.state?_eq hs sid
    rw [hst] at this
    obtain ⟨st', hst', he⟩ := Option.map_eq_some_iff.1 this
    refine ⟨st', List.mem_filterMap.2 ⟨φ.states sid, (hsids.mem_iff _).2 ?_, hst'⟩,
      h.target?_eq hs hids hst he, (congrArg FeatureState.state he :)⟩
    simpa [Tables.state?] using congrArg Option.isSome hst'
  · intro st' hmem
    obtain ⟨sid', -, hst'⟩ := List.mem_filterMap.1 hmem
    obtain ⟨sid, rfl⟩ := φ.states.surjective sid'
    have := h.state?_eq hs sid
    rw [hst'] at this
    obtain ⟨st, hst, he⟩ := Option.map_eq_some_iff.1 this.symm
    exact ⟨s.joined st, Store.mem_listStates.2 ⟨sid, st, hst, rfl⟩,
      h.target?_eq hs hids hst he.symm, (congrArg FeatureState.state he.symm :)⟩

end Matches

end FeatureFlags
