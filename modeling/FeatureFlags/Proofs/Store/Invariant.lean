import FeatureFlags.Proofs.Payload
import FeatureFlags.Proofs.Store.Step
import Mathlib.Data.List.Forall2

/-!
# The rules of a store

`Sound` collects what holds of a store at any moment: every record stands under its identifier,
keys and contexts are given once, every state has an owner that is stored and exactly the context
identifier that its type asks for. One write keeps all of it (`Sound.after`), because a write puts
one record that clashes with no other (`Sound.putFeature`, `Sound.putState`) or takes out one that
nothing refers to; so a run keeps it, whatever is asked and whether it succeeds
(`sound_afterAll`).
-/

namespace FeatureFlags.Store

/-- The rules that a store keeps. -/
structure Sound (s : Store) : Prop where
  feature_id : ∀ id f, s.features.get? id = some f → f.id = id
  state_id : ∀ id st, s.states.get? id = some st → st.id = some id
  key_tidy : ∀ id f, s.features.get? id = some f → Text.Tidy f.key
  key_distinct : ∀ id id' f f', s.features.get? id = some f → s.features.get? id' = some f' →
    f.key = f'.key → id = id'
  owner_stored : ∀ id st, s.states.get? id = some st →
    ∃ owner f, st.featureId = some owner ∧ s.features.get? owner = some f
  context_distinct : ∀ id id' st st', s.states.get? id = some st → s.states.get? id' = some st' →
    st.featureId = st'.featureId → st.contextType = st'.contextType →
    st.contextId = st'.contextId → id = id'
  context_fits : ∀ id st, s.states.get? id = some st → st.contextType.Fits st.contextId
  unjoined : ∀ id st, s.states.get? id = some st → st.featureKey = none

/-- Every state has an owner that is stored, and no state has an empty context identifier. -/
structure Coherent (s : Store) : Prop where
  owner_stored : ∀ id st, s.states.get? id = some st →
    ∃ owner f, st.featureId = some owner ∧ s.features.get? owner = some f
  context_given : ∀ id st, s.states.get? id = some st → st.contextId ≠ some ""

theorem Sound.coherent {s : Store} (h : s.Sound) : s.Coherent :=
  ⟨h.owner_stored, fun id st hst => (h.context_fits id st hst).ne_blank⟩

theorem sound_empty : empty.Sound := by
  constructor
  case key_distinct => exact fun _ _ _ _ h => nomatch h
  case context_distinct => exact fun _ _ _ _ h => nomatch h
  all_goals exact fun _ _ h => nomatch h

namespace Sound

variable {s s' : Store}

/-! ## What one record changes -/

/-- A feature whose key no other feature has may be put. -/
theorem putFeature (h : s.Sound) {id : String} {f : Feature}
    (hf : s'.features = s.features.put id f) (hs : s'.states = s.states) (hid : f.id = id)
    (htidy : Text.Tidy f.key)
    (hkey : ∀ id' f', id' ≠ id → s.features.get? id' = some f' → f'.key ≠ f.key) : s'.Sound := by
  have get?_new : ∀ id' f', s'.features.get? id' = some f' →
      id' = id ∧ f' = f ∨ id' ≠ id ∧ s.features.get? id' = some f' :=
    fun id' f' h' => Table.eq_or_get?_of_put (hf ▸ h')
  constructor
  case feature_id =>
    intro id' f' h'
    rcases get?_new id' f' h' with ⟨rfl, rfl⟩ | ⟨-, h'⟩
    · exact hid
    · exact h.feature_id id' f' h'
  case key_tidy =>
    intro id' f' h'
    rcases get?_new id' f' h' with ⟨rfl, rfl⟩ | ⟨-, h'⟩
    · exact htidy
    · exact h.key_tidy id' f' h'
  case key_distinct =>
    intro id₁ id₂ f₁ f₂ h₁ h₂ hk
    rcases get?_new id₁ f₁ h₁ with ⟨rfl, rfl⟩ | ⟨ne₁, h₁⟩ <;>
      rcases get?_new id₂ f₂ h₂ with ⟨rfl, rfl⟩ | ⟨ne₂, h₂⟩
    · rfl
    · exact absurd hk.symm (hkey id₂ f₂ ne₂ h₂)
    · exact absurd hk (hkey id₁ f₁ ne₁ h₁)
    · exact h.key_distinct id₁ id₂ f₁ f₂ h₁ h₂ hk
  case owner_stored =>
    intro id' st h'
    rw [hs] at h'
    obtain ⟨owner, f', howner, hf'⟩ := h.owner_stored id' st h'
    by_cases e : owner = id
    · exact ⟨owner, f, howner, by rw [hf, Table.get?_put, if_pos e]⟩
    · exact ⟨owner, f', howner, by rw [hf, Table.get?_put, if_neg e, hf']⟩
  all_goals rw [hs]
  · exact h.state_id
  · exact h.context_distinct
  · exact h.context_fits
  · exact h.unjoined

/-- A state whose owner is stored and has no other state for the context may be put. -/
theorem putState (h : s.Sound) {id : String} {st : FeatureState} {owner : String} {f : Feature}
    (hs : s'.states = s.states.put id st) (hf : s'.features = s.features) (hid : st.id = some id)
    (howner : st.featureId = some owner) (hstored : s.features.get? owner = some f)
    (hfits : st.contextType.Fits st.contextId) (hkey : st.featureKey = none)
    (hfree : s.hasState (some id) owner st.contextType st.contextId = false) : s'.Sound := by
  have get?_new : ∀ id' st', s'.states.get? id' = some st' →
      id' = id ∧ st' = st ∨ id' ≠ id ∧ s.states.get? id' = some st' :=
    fun id' st' h' => Table.eq_or_get?_of_put (hs ▸ h')
  have noOther : ∀ id' st', id' ≠ id → s.states.get? id' = some st' →
      st'.featureId = st.featureId → st'.contextType = st.contextType →
      st'.contextId = st.contextId → False := by
    intro id' st' ne h' h₁ h₂ h₃
    have : s.hasState (some id) owner st.contextType st.contextId = true :=
      hasState_iff.2 ⟨id', st', h', by simpa using ne, h₁.trans howner, h₂, h₃⟩
    rw [hfree] at this
    cases this
  constructor
  case state_id =>
    intro id' st' h'
    rcases get?_new id' st' h' with ⟨rfl, rfl⟩ | ⟨-, h'⟩
    · exact hid
    · exact h.state_id id' st' h'
  case owner_stored =>
    intro id' st' h'
    rw [hf]
    rcases get?_new id' st' h' with ⟨rfl, rfl⟩ | ⟨-, h'⟩
    · exact ⟨owner, f, howner, hstored⟩
    · exact h.owner_stored id' st' h'
  case context_distinct =>
    intro id₁ id₂ st₁ st₂ h₁ h₂ ho ht hc
    rcases get?_new id₁ st₁ h₁ with ⟨rfl, rfl⟩ | ⟨ne₁, h₁⟩ <;>
      rcases get?_new id₂ st₂ h₂ with ⟨rfl, rfl⟩ | ⟨ne₂, h₂⟩
    · rfl
    · exact (noOther id₂ st₂ ne₂ h₂ ho.symm ht.symm hc.symm).elim
    · exact (noOther id₁ st₁ ne₁ h₁ ho ht hc).elim
    · exact h.context_distinct id₁ id₂ st₁ st₂ h₁ h₂ ho ht hc
  case context_fits =>
    intro id' st' h'
    rcases get?_new id' st' h' with ⟨rfl, rfl⟩ | ⟨-, h'⟩
    · exact hfits
    · exact h.context_fits id' st' h'
  case unjoined =>
    intro id' st' h'
    rcases get?_new id' st' h' with ⟨rfl, rfl⟩ | ⟨-, h'⟩
    · exact hkey
    · exact h.unjoined id' st' h'
  all_goals rw [hf]
  · exact h.feature_id
  · exact h.key_tidy
  · exact h.key_distinct

/-- A feature that no state refers to may be taken out. -/
theorem eraseFeature (h : s.Sound) {id : String} (hf : s'.features = s.features.erase id)
    (hs : s'.states = s.states) (hfree : s.isReferenced id = false) : s'.Sound := by
  have get?_old : ∀ id' f', s'.features.get? id' = some f' → s.features.get? id' = some f' :=
    fun id' f' h' => Table.get?_of_erase (hf ▸ h')
  constructor
  case feature_id => exact fun id' f' h' => h.feature_id id' f' (get?_old id' f' h')
  case key_tidy => exact fun id' f' h' => h.key_tidy id' f' (get?_old id' f' h')
  case key_distinct =>
    exact fun id₁ id₂ f₁ f₂ h₁ h₂ => h.key_distinct id₁ id₂ f₁ f₂ (get?_old id₁ f₁ h₁)
      (get?_old id₂ f₂ h₂)
  case owner_stored =>
    intro sid st h'
    rw [hs] at h'
    obtain ⟨owner, f, howner, hstored⟩ := h.owner_stored sid st h'
    have ne : owner ≠ id := by
      rintro rfl
      have := isReferenced_iff.2 ⟨sid, st, h', howner⟩
      rw [hfree] at this
      cases this
    exact ⟨owner, f, howner, by rw [hf, Table.get?_erase, if_neg ne, hstored]⟩
  all_goals rw [hs]
  · exact h.state_id
  · exact h.context_distinct
  · exact h.context_fits
  · exact h.unjoined

theorem eraseState (h : s.Sound) {id : String} (hs : s'.states = s.states.erase id)
    (hf : s'.features = s.features) : s'.Sound := by
  have get?_old : ∀ id' st, s'.states.get? id' = some st → s.states.get? id' = some st :=
    fun id' st h' => Table.get?_of_erase (hs ▸ h')
  constructor
  case state_id => exact fun id' st h' => h.state_id id' st (get?_old id' st h')
  case owner_stored =>
    intro id' st h'
    rw [hf]
    exact h.owner_stored id' st (get?_old id' st h')
  case context_distinct =>
    exact fun id₁ id₂ st₁ st₂ h₁ h₂ => h.context_distinct id₁ id₂ st₁ st₂ (get?_old id₁ st₁ h₁)
      (get?_old id₂ st₂ h₂)
  case context_fits => exact fun id' st h' => h.context_fits id' st (get?_old id' st h')
  case unjoined => exact fun id' st h' => h.unjoined id' st (get?_old id' st h')
  all_goals rw [hf]
  · exact h.feature_id
  · exact h.key_tidy
  · exact h.key_distinct

/-! ## One write -/

theorem createFeature (h : s.Sound) {d : Feature.Draft} {f : Feature} (hd : Text.Tidy d.key)
    (hok : s.createFeature d = .ok (f, s')) : s'.Sound := by
  obtain ⟨hkey, rfl, hf, hs⟩ := createFeature_eq_ok hok
  exact h.putFeature hf hs rfl hd fun id' f' _ hf' => featureByKey?_eq_none_iff.1 hkey id' f' hf'

theorem updateFeature (h : s.Sound) {id : String} {p : Feature.Patch} {f : Feature}
    (hp : ∀ key, p.key = some key → Text.Tidy key) (hok : s.updateFeature id p = .ok (f, s')) :
    s'.Sound := by
  obtain ⟨old, hold, hnew, rfl, hf, hs⟩ := updateFeature_eq_ok hok
  have hid : (patched old p s.now).id = id := h.feature_id id old hold
  rcases hpk : newKey? old p with _ | key
  · -- the feature keeps its key
    have hsame : (patched old p s.now).key = old.key := by
      rcases hk : p.key with _ | key
      · simp [patched, hk]
      · have : key = old.key := by
          by_contra ne
          rw [newKey?_eq_some.2 ⟨hk, ne⟩] at hpk
          cases hpk
        simp [patched, hk, this]
    refine h.putFeature hf hs hid (hsame ▸ h.key_tidy id old hold) fun id' f' ne hf' hkey => ?_
    exact ne (h.key_distinct id' id f' old hf' hold (hkey.trans hsame))
  · -- it gets a key that no feature has
    obtain ⟨hk, -⟩ := newKey?_eq_some.1 hpk
    obtain ⟨-, hfree⟩ := hnew key hpk
    have hnewKey : (patched old p s.now).key = key := by simp [patched, hk]
    rw [← hnewKey] at hfree
    exact h.putFeature hf hs hid (hnewKey ▸ hp key hk) fun id' f' _ hf' =>
      featureByKey?_eq_none_iff.1 hfree id' f' hf'

theorem deleteFeature (h : s.Sound) {id : String} {f : Feature}
    (hok : s.deleteFeature id = .ok (f, s')) : s'.Sound := by
  obtain ⟨-, hfree, hf, hs⟩ := deleteFeature_eq_ok hok
  exact h.eraseFeature hf hs hfree

theorem featureByKey?_eq_some_iff (h : s.Sound) {key : String} {f : Feature} :
    s.featureByKey? key = some f ↔ ∃ id, s.features.get? id = some f ∧ f.key = key := by
  constructor
  · intro hf
    obtain ⟨hkey, id, hid⟩ := featureByKey?_eq_some hf
    exact ⟨id, hid, hkey⟩
  · rintro ⟨id, hf, rfl⟩
    cases hfound : s.featureByKey? f.key with
    | none => exact absurd rfl (featureByKey?_eq_none_iff.1 hfound id f hf)
    | some f' =>
      obtain ⟨hkey, id', hf'⟩ := featureByKey?_eq_some hfound
      obtain rfl := h.key_distinct id' id f' f hf' hf hkey
      exact hf'.symm.trans hf

theorem createState (h : s.Sound) {d : FeatureState.Draft} {r : FeatureState}
    (hd : d.contextType.Fits d.contextId) (hok : s.createState d = .ok (r, s')) : s'.Sound := by
  obtain ⟨owner, howner, hfree, -, hf, hs⟩ := createState_eq_ok hok
  refine h.putState hs hf rfl rfl (ownerOf?_stored h.feature_id howner) hd rfl ?_
  -- no state at all has the context, so none other than the new one
  rw [Bool.eq_false_iff, Ne, hasState_iff] at hfree ⊢
  rintro ⟨sid, state, hstate, -, hrest⟩
  exact hfree ⟨sid, state, hstate, nofun, hrest⟩

theorem updateState (h : s.Sound) {id : String} {p : FeatureState.Patch} {r : FeatureState}
    (hp : p.contextType.Fits p.contextId) (hok : s.updateState id p = .ok (r, s')) : s'.Sound := by
  obtain ⟨old, owner, hold, -, hstored, hfree, -, hf, hs⟩ := updateState_eq_ok hok
  obtain ⟨f, hstored⟩ := Option.isSome_iff_exists.1 hstored
  exact h.putState hs hf (h.state_id id old hold) rfl hstored hp (h.unjoined id old hold) hfree

theorem deleteState (h : s.Sound) {id : String} {r : FeatureState}
    (hok : s.deleteState id = .ok (r, s')) : s'.Sound := by
  obtain ⟨_, -, -, hf, hs⟩ := deleteState_eq_ok hok
  exact h.eraseState hs hf

/-- **One operation keeps the rules.** -/
theorem after (h : s.Sound) {op : Operation} (hop : op.Tidy) : (s.after op).Sound := by
  rcases s.after_cases op with hsame | ⟨d, f, rfl, hok⟩ | ⟨id, p, f, rfl, hok⟩ | ⟨id, f, rfl, hok⟩ |
    ⟨d, r, rfl, hok⟩ | ⟨id, p, r, rfl, hok⟩ | ⟨id, r, rfl, hok⟩
  · rw [hsame]; exact h
  · exact h.createFeature hop.1 hok
  · exact h.updateFeature hop.1 hok
  · exact h.deleteFeature hok
  · exact h.createState hop hok
  · exact h.updateState hop hok
  · exact h.deleteState hok

/-- A run keeps the rules. -/
theorem afterAll (h : s.Sound) {ops : List Operation} (hv : ∀ op ∈ ops, op.Validated) :
    (s.afterAll ops).Sound := by
  induction ops generalizing s with
  | nil => exact h
  | cons op ops ih =>
    exact ih (h.after (hv op (by simp)).tidy) fun op' hop => hv op' (by simp [hop])

/-! ## The listed states -/

/-- A listed state is the stored one with the key that its owner has now. -/
theorem joined_eq (h : s.Sound) {id : String} {st : FeatureState}
    (hst : s.states.get? id = some st) :
    ∃ owner f, st.featureId = some owner ∧ s.features.get? owner = some f ∧
      s.joined st = { st with featureKey := some f.key } := by
  obtain ⟨owner, f, howner, hf⟩ := h.owner_stored id st hst
  exact ⟨owner, f, howner, hf, by simp [joined, howner, hf]⟩

end Sound

/-- The listed states are the stored ones, one for one, each with the key of its owner. -/
def ListsOwners (s : Store) : Prop :=
  List.Forall₂ (fun e listed => ∃ owner f, e.2.featureId = some owner ∧
      s.features.get? owner = some f ∧ listed = { e.2 with featureKey := some f.key })
    s.states.entries s.listStates

theorem Sound.listsOwners {s : Store} (h : s.Sound) : s.ListsOwners := by
  rw [ListsOwners, listStates, Table.values, List.map_map, List.forall₂_map_right_iff]
  exact List.forall₂_same.2 fun e he => h.joined_eq (Table.get?_eq_some_iff.2 he)

/-- **A store keeps its rules whatever it is asked.** In every store that a run of validated
operations leads to, the rules hold and the listed states are the stored ones with the keys that
their owners have then. -/
theorem sound_afterAll (ops : List Operation) (hv : ∀ op ∈ ops, op.Validated) :
    (empty.afterAll ops).Sound ∧ (empty.afterAll ops).ListsOwners :=
  have h := sound_empty.afterAll hv
  ⟨h, h.listsOwners⟩

/-- A feature is made, switched on for an organization, and asked to go. -/
theorem sound_afterAll_refusedDelete :
    let ops : List Operation :=
      [.createFeature ⟨"checkout", "Checkout", none⟩,
        .createState ⟨none, some "checkout", .organization, some "org-1", true⟩,
        .deleteFeature (Identifier.next .feature 0)]
    (∀ op ∈ ops, op.Validated) ∧ (empty.afterAll ops).Sound ∧ (empty.afterAll ops).ListsOwners := by
  intro ops
  have hv : ∀ op ∈ ops, op.Validated := by
    refine List.forall_mem_cons.2 ⟨?_, List.forall_mem_cons.2 ⟨?_, List.forall_mem_singleton.2 ?_⟩⟩
    · exact ⟨.object [("key", .string "checkout"), ("name", .string "Checkout")], rfl⟩
    · exact ⟨.object [("featureKey", .string "checkout"), ("contextType", .string "organization"),
        ("contextId", .string "org-1"), ("state", .bool true)], rfl⟩
    · exact trivial
  exact ⟨hv, sound_afterAll ops hv⟩

end FeatureFlags.Store
