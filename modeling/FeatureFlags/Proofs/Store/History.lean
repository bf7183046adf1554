import FeatureFlags.Proofs.Store.Published
import FeatureFlags.Proofs.Targeting.Effective

/-!
# Documents without a history

How a store came to hold what it holds does not show in its document. Identifiers, times, names,
the order in which records were created, and records that were renamed, moved or deleted on the way
all leave no trace: two stores with the same feature keys and the same states, each told by the key
of its owner, have one document (`document_of_sameOverrides`).
-/

namespace FeatureFlags.Store

open Targeting

/-- A store without records, however much was drawn from its sources of identifiers and times. -/
def blank (issued readings : Nat) : Store := { empty with issued := issued, readings := readings }

/-- A feature with the key is stored. -/
def HasFeature (s : Store) (key : String) : Prop :=
  ∃ id f, s.features.get? id = some f ∧ f.key = key

/-- A state with this context and value is stored, and its owner has the key. -/
def HasOverride (s : Store) (key : String) (type : ContextType) (contextId : Option String)
    (state : Bool) : Prop :=
  ∃ id f sid st, s.features.get? id = some f ∧ f.key = key ∧ s.states.get? sid = some st ∧
    st.featureId = some id ∧ st.contextType = type ∧ st.contextId = contextId ∧ st.state = state

/-- Two stores have the same feature keys and the same states under them. -/
structure SameOverrides (s s' : Store) : Prop where
  features : ∀ key, s.HasFeature key ↔ s'.HasFeature key
  overrides : ∀ key type contextId state,
    s.HasOverride key type contextId state ↔ s'.HasOverride key type contextId state

/-- A listed state as the key of its owner, its context and its value. -/
def listedOverride (st : FeatureState) : Option String × ContextType × Option String × Bool :=
  (st.featureKey, st.contextType, st.contextId, st.state)

theorem SameOverrides.symm {s s' : Store} (h : s.SameOverrides s') : s'.SameOverrides s :=
  ⟨fun key => (h.features key).symm, fun key type id state => (h.overrides key type id state).symm⟩

theorem sound_blank (issued readings : Nat) : (blank issued readings).Sound :=
  { sound_empty with }

theorem mem_keys_listFeatures {s : Store} {key : String} :
    key ∈ s.listFeatures.map Feature.key ↔ s.HasFeature key := by
  simp only [List.mem_map, mem_listFeatures, HasFeature]
  constructor
  · rintro ⟨f, ⟨id, hf⟩, hkey⟩
    exact ⟨id, f, hf, hkey⟩
  · rintro ⟨id, f, hf, hkey⟩
    exact ⟨f, ⟨id, hf⟩, hkey⟩

theorem isLost_congr {st st' : FeatureState} (htype : st'.contextType = st.contextType)
    (hid : st'.contextId = st.contextId) : isLost st' = isLost st := by
  rw [isLost, isLost, htype, hid]

theorem contextOf_congr {st st' : FeatureState} (htype : st'.contextType = st.contextType)
    (hid : st'.contextId = st.contextId) : contextOf st' = contextOf st := by
  rw [contextOf, contextOf, htype, hid]

namespace Sound

variable {s s' : Store}

/-- Stores with the same feature keys list them in the same order. -/
theorem keys_listFeatures_eq (h : s.Sound) (h' : s'.Sound)
    (hkeys : ∀ key, s.HasFeature key ↔ s'.HasFeature key) :
    s.listFeatures.map Feature.key = s'.listFeatures.map Feature.key := by
  have hperm : (s.listFeatures.map Feature.key).Perm (s'.listFeatures.map Feature.key) := by
    refine (List.perm_ext_iff_of_nodup h.nodup_keys h'.nodup_keys).2 fun key => ?_
    rw [mem_keys_listFeatures, mem_keys_listFeatures, hkeys]
  have hsorted : ∀ s : Store, (s.listFeatures.map Feature.key).Pairwise (· ≤ ·) := fun s =>
    List.pairwise_map.2 (Text.pairwise_mergeSort Feature.key s.features.values)
  exact hperm.eq_of_pairwise (fun _ _ _ _ => String.le_antisymm) (hsorted s) (hsorted s')

/-- What one store has as an override the other has, too. -/
theorem override?_of_sameOverrides (h : s.Sound) (h' : s'.Sound) (hsame : s.SameOverrides s')
    {key : String} {c : Context} {b : Bool}
    (hb : override? s.listFeatures s.listStates key c = some b) :
    override? s'.listFeatures s'.listStates key c = some b := by
  obtain ⟨id, f, hf, rfl⟩ := mem_keys_listFeatures.1 (proper_of_override? hb).1
  obtain ⟨st, hst, rfl, rfl⟩ := (h.ownsById.override?_iff h h hf).1 hb
  obtain ⟨⟨sid, hst⟩, howner, hkept⟩ := mem_statesOf.1 hst
  -- the other store has a state with the same context and value under the key
  have hoverride : s.HasOverride f.key st.contextType st.contextId st.state :=
    ⟨id, f, sid, st, hf, rfl, hst, howner, rfl, rfl, rfl⟩
  obtain ⟨id', f', sid', st', hf', hkey, hst', howner', htype, hid, hstate⟩ :=
    (hsame.overrides _ _ _ _).1 hoverride
  rw [← hkey]
  refine (h'.ownsById.override?_iff h' h' hf').2
    ⟨st', mem_statesOf.2 ⟨⟨sid', hst'⟩, howner', ?_⟩, ?_, hstate⟩
  · rw [isLost_congr htype hid]
    exact hkept
  · exact contextOf_congr htype hid

/-- What overrides a store has is what it lists. -/
theorem hasOverride_iff (h : s.Sound) {key : String} {type : ContextType}
    {contextId : Option String} {state : Bool} :
    s.HasOverride key type contextId state ↔
      (some key, type, contextId, state) ∈ s.listStates.map listedOverride := by
  simp only [List.mem_map, mem_listStates]
  constructor
  · rintro ⟨id, f, sid, st, hf, rfl, hst, howner, rfl, rfl, rfl⟩
    exact ⟨s.joined st, ⟨sid, st, hst, rfl⟩, by simp [listedOverride, joined, howner, hf]⟩
  · rintro ⟨_, ⟨sid, st, hst, rfl⟩, hlisted⟩
    obtain ⟨id, f, howner, hf, hjoined⟩ := h.joined_eq hst
    rw [hjoined] at hlisted
    simp only [listedOverride, Prod.mk.injEq, Option.some.injEq] at hlisted
    obtain ⟨hkey, htype, hid, hstate⟩ := hlisted
    exact ⟨id, f, sid, st, hf, hkey, hst, howner, htype, hid, hstate⟩

theorem sameOverrides_of_perm (h : s.Sound) (h' : s'.Sound)
    (hfeatures : (s.features.values.map Feature.key).Perm (s'.features.values.map Feature.key))
    (hstates : (s.listStates.map listedOverride).Perm (s'.listStates.map listedOverride)) :
    s.SameOverrides s' := by
  constructor
  · intro key
    rw [← mem_keys_listFeatures, ← mem_keys_listFeatures,
      (s.listFeatures_perm.map _).mem_iff, (s'.listFeatures_perm.map _).mem_iff, hfeatures.mem_iff]
  · intro key type id state
    rw [h.hasOverride_iff, h'.hasOverride_iff, hstates.mem_iff]

/-- **Stores with the same overrides have one document.** -/
theorem compile_eq_of_sameOverrides (h : s.Sound) (h' : s'.Sound) (hsame : s.SameOverrides s') :
    compile s.listFeatures s.listStates = compile s'.listFeatures s'.listStates := by
  refine compile_congr (h.keys_listFeatures_eq h' hsame.features) fun key c => ?_
  ext b
  exact ⟨h.override?_of_sameOverrides h' hsame, h'.override?_of_sameOverrides h hsame.symm⟩

end Sound

/-- **A document shows nothing of the history of its store.** Two stores that were empty at first,
and got to the same feature keys and the same overrides by any two runs of validated operations,
answer with one document, with its flags and the rules of each flag in one order. -/
theorem document_of_sameOverrides (issued issued' readings readings' : Nat)
    (ops ops' : List Operation) (hv : ∀ op ∈ ops, op.Validated)
    (hv' : ∀ op ∈ ops', op.Validated)
    (hsame : SameOverrides ((blank issued readings).afterAll ops)
      ((blank issued' readings').afterAll ops')) (log log' : List Log.Entry) :
    ∃ d : Document,
      ((Backend.document (Backend.memory Outages.none)).run.run
          ⟨(blank issued readings).afterAll ops, log⟩).1 = .ok d ∧
        ((Backend.document (Backend.memory Outages.none)).run.run
          ⟨(blank issued' readings').afterAll ops', log'⟩).1 = .ok d := by
  have h := (sound_blank issued readings).afterAll hv
  have h' := (sound_blank issued' readings').afterAll hv'
  refine ⟨_, by rw [document_memory], ?_⟩
  rw [document_memory, h.compile_eq_of_sameOverrides h' hsame]

/-- Two features, and a state of the second. -/
def straightRun : List Operation :=
  [.createFeature ⟨"checkout", "Checkout", none⟩, .createFeature ⟨"search", "Search", none⟩,
    .createState ⟨none, some "search", .organization, some "org-1", true⟩]

/-- The second feature comes first, and the other has the state until it is moved and that feature
gets its last key. -/
def crookedRun : List Operation :=
  [.createFeature ⟨"search", "Search 2", none⟩, .createFeature ⟨"payments", "Payments", none⟩,
    .createState ⟨none, some "payments", .organization, some "org-1", true⟩,
    .updateState "fst_000000000010"
      ⟨some "ftr_000000000008", .organization, some "org-1", true⟩,
    .updateFeature "ftr_000000000009" ⟨some "checkout", none, none⟩]

theorem straightRun_validated : ∀ op ∈ straightRun, op.Validated := by
  simp only [straightRun, List.forall_mem_cons]
  refine ⟨⟨.object [("key", .string "checkout"), ("name", .string "Checkout")], rfl⟩,
    ⟨.object [("key", .string "search"), ("name", .string "Search")], rfl⟩,
    ⟨.object [("featureKey", .string "search"), ("contextType", .string "organization"),
      ("contextId", .string "org-1"), ("state", .bool true)], rfl⟩, nofun⟩

theorem crookedRun_validated : ∀ op ∈ crookedRun, op.Validated := by
  simp only [crookedRun, List.forall_mem_cons]
  refine ⟨⟨.object [("key", .string "search"), ("name", .string "Search 2")], rfl⟩,
    ⟨.object [("key", .string "payments"), ("name", .string "Payments")], rfl⟩,
    ⟨.object [("featureKey", .string "payments"), ("contextType", .string "organization"),
      ("contextId", .string "org-1"), ("state", .bool true)], rfl⟩,
    ⟨.object [("featureId", .string "ftr_000000000008"), ("contextType", .string "organization"),
      ("contextId", .string "org-1"), ("state", .bool true)], rfl⟩,
    ⟨.object [("key", .string "checkout")], rfl⟩, nofun⟩

theorem document_of_sameOverrides_crookedRun :
    (∀ op ∈ straightRun, op.Validated) ∧ (∀ op ∈ crookedRun, op.Validated) ∧
      SameOverrides ((blank 0 0).afterAll straightRun) ((blank 7 3).afterAll crookedRun) ∧
      ∃ d : Document,
        ((Backend.document (Backend.memory Outages.none)).run.run
            ⟨(blank 0 0).afterAll straightRun, []⟩).1 = .ok d ∧
          ((Backend.document (Backend.memory Outages.none)).run.run
            ⟨(blank 7 3).afterAll crookedRun, []⟩).1 = .ok d := by
  have hsame : SameOverrides ((blank 0 0).afterAll straightRun) ((blank 7 3).afterAll crookedRun) :=
    ((sound_blank 0 0).afterAll straightRun_validated).sameOverrides_of_perm
      ((sound_blank 7 3).afterAll crookedRun_validated) (by decide) (by decide)
  exact ⟨straightRun_validated, crookedRun_validated, hsame,
    document_of_sameOverrides 0 7 0 3 _ _ straightRun_validated crookedRun_validated hsame [] []⟩

end FeatureFlags.Store
