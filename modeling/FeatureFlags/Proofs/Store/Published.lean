import FeatureFlags.Backend.Document
import FeatureFlags.Proofs.Store.Invariant
import FeatureFlags.Proofs.Targeting.RuleOrder
import Mathlib.Data.List.Nodup

/-!
# What a store publishes

The document of a sound store has one flag for every feature, and under the key of a feature one
rule for every state of it that is not lost. A state is lost (`isLost`) when its context identifier
is made of blanks only. A payload may have such an identifier: what is trimmed off payloads are
white characters, and the four information separators are blank without being white. So the
service publishes every override it has accepted exactly when none of them is lost
(`publishes_iff`).
-/

namespace FeatureFlags.Store

open Targeting

/-! ## Rules of states -/

/-- The context of a stored state. -/
def contextOf (st : FeatureState) : Context := ⟨st.contextType, st.contextId.getD ""⟩

/-- The rule that a stored state asks for: its attribute has the identifier as it is stored, and the
variant is that of its value. -/
def ruleFor (st : FeatureState) : Rule where
  condition := (Context.attribute? st.contextType).map fun a => ⟨a, st.contextId.getD ""⟩
  variant := .ofState st.state

/-- Is the state for one organization or workspace whose identifier has nothing but blanks? -/
def isLost (st : FeatureState) : Bool :=
  st.contextType != .global && st.contextId.any Text.isBlankText

/-- The states of the feature with an identifier that are `kept`. -/
def statesOf (s : Store) (kept : FeatureState → Bool) (id : String) : List FeatureState :=
  s.states.values.filter fun st => st.featureId == some id && kept st

/-- The service answers with a document that has one flag for every feature and, under the key of a
feature, one rule for every state of it that is `kept` and no other. It logs the numbers of both. -/
def Publishes (s : Store) (kept : FeatureState → Bool) : Prop :=
  ∀ log, ∃ d : Document,
    (Backend.document (Backend.memory Outages.none)).run.run ⟨s, log⟩ =
        (.ok d,
          ⟨s, log ++ [⟨.info, Backend.documentLogger, "Flagd config compiled",
            [("flags_count", .int s.features.entries.length),
              ("rules_count", .int (s.states.values.countP kept))]⟩]⟩) ∧
      d.flags.keys.Perm (s.features.values.map Feature.key) ∧
      ∀ id f, s.features.get? id = some f →
        ∃ flag, d.flags.get? f.key = some flag ∧
          (flag.targeting.getD []).Perm ((s.statesOf kept id).map ruleFor)

theorem document_memory (s : Store) (log : List Log.Entry) :
    (Backend.document (Backend.memory Outages.none)).run.run ⟨s, log⟩ =
      (.ok (compile s.listFeatures s.listStates),
        ⟨s, log ++ [⟨.info, Backend.documentLogger, "Flagd config compiled",
          [("flags_count", .int (compile s.listFeatures s.listStates).flags.entries.length),
            ("rules_count", .int (compile s.listFeatures s.listStates).ruleCount)]⟩]⟩) := rfl

theorem Publishes.congr {s : Store} {kept kept' : FeatureState → Bool} (h : s.Publishes kept)
    (hk : ∀ st ∈ s.states.values, kept st = kept' st) : s.Publishes kept' := by
  intro log
  obtain ⟨d, hd, hkeys, hrules⟩ := h log
  have hcount : s.states.values.countP kept = s.states.values.countP kept' :=
    List.countP_congr fun st hst => by rw [hk st hst]
  refine ⟨d, hcount ▸ hd, hkeys, fun id f hf => ?_⟩
  have hstates : s.statesOf kept id = s.statesOf kept' id :=
    List.filter_congr fun st hst => by rw [hk st hst]
  exact hstates ▸ hrules id f hf

/-! ## Owners and contexts of listed states -/

theorem mem_listStates {s : Store} {listed : FeatureState} :
    listed ∈ s.listStates ↔ ∃ sid st, s.states.get? sid = some st ∧ listed = s.joined st := by
  simp only [listStates, List.mem_map, Table.mem_values]
  constructor
  · rintro ⟨st, ⟨sid, h⟩, rfl⟩
    exact ⟨sid, st, h, rfl⟩
  · rintro ⟨sid, st, h, rfl⟩
    exact ⟨st, ⟨sid, h⟩, rfl⟩

theorem mem_statesOf {s : Store} {kept : FeatureState → Bool} {id : String} {st : FeatureState} :
    st ∈ s.statesOf kept id ↔
      (∃ sid, s.states.get? sid = some st) ∧ st.featureId = some id ∧ kept st = true := by
  simp only [statesOf, List.mem_filter, Table.mem_values, Bool.and_eq_true, beq_iff_eq]

theorem mem_listFeatures {s : Store} {f : Feature} :
    f ∈ s.listFeatures ↔ ∃ id, s.features.get? id = some f :=
  s.listFeatures_perm.mem_iff.trans Table.mem_values

namespace Sound

variable {s : Store}

/-- Listed features with one identifier are one. -/
theorem eq_of_id (h : s.Sound) {f f' : Feature} (hf : f ∈ s.listFeatures)
    (hf' : f' ∈ s.listFeatures) (hid : f'.id = f.id) : f' = f := by
  obtain ⟨id, hf⟩ := mem_listFeatures.1 hf
  obtain ⟨id', hf'⟩ := mem_listFeatures.1 hf'
  rw [h.feature_id id f hf, h.feature_id id' f' hf'] at hid
  subst hid
  rw [hf] at hf'
  exact (Option.some.inj hf').symm

/-- Listed features with one key are one. -/
theorem eq_of_key (h : s.Sound) {f f' : Feature} (hf : f ∈ s.listFeatures)
    (hf' : f' ∈ s.listFeatures) (hkey : f'.key = f.key) : f' = f := by
  obtain ⟨id, hf⟩ := mem_listFeatures.1 hf
  obtain ⟨id', hf'⟩ := mem_listFeatures.1 hf'
  obtain rfl := h.key_distinct id' id f' f hf' hf hkey
  rw [hf] at hf'
  exact (Option.some.inj hf').symm

/-- A listed state belongs to the feature it refers to. -/
theorem owner?_joined (h : s.Sound) {st : FeatureState} {owner : String} {f : Feature}
    (howner : st.featureId = some owner) (hf : s.features.get? owner = some f) :
    owner? s.listFeatures (s.joined st) = some f := by
  have hmem : f ∈ s.listFeatures := mem_listFeatures.2 ⟨owner, hf⟩
  have hid : (s.joined st).featureId = some f.id := by rw [h.feature_id owner f hf]; exact howner
  have hkey : (s.joined st).featureKey = some f.key := by simp [joined, howner, hf]
  exact owner?_eq_some_of_mem hmem (fun f' hf' => h.eq_of_id hmem hf')
    (fun f' hf' => h.eq_of_key hmem hf') (h.key_tidy owner f hf).nonempty hid hkey

theorem ofState?_joined (h : s.Sound) {sid : String} {st : FeatureState}
    (hst : s.states.get? sid = some st) :
    Context.ofState? (s.joined st) = if isLost st then none else some (contextOf st) := by
  have hfits := h.context_fits sid st hst
  obtain ⟨_, _, _, type, id, _, _, _⟩ := st
  cases type with
  | global => cases hfits; rfl
  | organization | workspace =>
    obtain ⟨id, rfl, -⟩ := hfits
    cases hb : Text.isBlankText id <;> simp [Context.ofState?, joined, isLost, contextOf, hb]

/-- Stored states with one context have one context identifier. -/
theorem contextId_of_contextOf (h : s.Sound) {sid sid' : String} {st st' : FeatureState}
    (hst : s.states.get? sid = some st) (hst' : s.states.get? sid' = some st')
    (hc : contextOf st = contextOf st') :
    st.contextType = st'.contextType ∧ st.contextId = st'.contextId := by
  obtain ⟨htype, hid⟩ := Context.mk.injEq _ _ _ _ ▸ hc
  have hfits := h.context_fits sid st hst
  have hfits' := h.context_fits sid' st' hst'
  rw [ContextType.fits_iff] at hfits hfits'
  refine ⟨htype, ?_⟩
  rcases hfits with ⟨ht, hid⟩ | ⟨ht, id, hid, -⟩ <;>
    rcases hfits' with ⟨ht', hid'⟩ | ⟨ht', id', hid', -⟩ <;> simp_all

/-- The states of one feature have a context each. -/
theorem eq_of_contextOf (h : s.Sound) {sid sid' owner : String} {st st' : FeatureState}
    (hst : s.states.get? sid = some st) (hst' : s.states.get? sid' = some st')
    (howner : st.featureId = some owner) (howner' : st'.featureId = some owner)
    (hc : contextOf st = contextOf st') : st = st' := by
  obtain ⟨htype, hid⟩ := h.contextId_of_contextOf hst hst' hc
  obtain rfl := h.context_distinct sid sid' st st' hst hst' (howner.trans howner'.symm) htype hid
  rw [hst] at hst'
  exact Option.some.inj hst'

theorem nodup_values (h : s.Sound) : s.states.values.Nodup := by
  refine List.Nodup.map_on ?_ s.states.nodup_entries
  rintro ⟨sid, st⟩ hst ⟨sid', st'⟩ hst' (rfl : st = st')
  have hid := h.state_id sid st (Table.get?_eq_some_iff.2 hst)
  rw [h.state_id sid' st (Table.get?_eq_some_iff.2 hst')] at hid
  cases hid
  rfl

end Sound

/-! ## Rules and states -/

/-- Features of the one store own the states of the other by their identifiers, as they are listed:
a state belongs to the feature that it refers to and to no other. -/
def OwnsById (s t : Store) : Prop :=
  ∀ sid st owner, t.states.get? sid = some st → st.featureId = some owner →
    owner? s.listFeatures (t.joined st) = s.features.get? owner

theorem Sound.ownsById {s : Store} (h : s.Sound) : s.OwnsById s := by
  intro sid st owner hst howner
  obtain ⟨owner', f, howner', hf⟩ := h.owner_stored sid st hst
  obtain rfl : owner = owner' := Option.some.inj (howner.symm.trans howner')
  rw [h.owner?_joined howner hf, hf]

namespace OwnsById

variable {s t : Store}

theorem target?_joined (ho : s.OwnsById t) (ht : t.Sound) {sid owner : String} {st : FeatureState}
    (hst : t.states.get? sid = some st) (howner : st.featureId = some owner) {key : String}
    {c : Context} :
    target? s.listFeatures (t.joined st) = some (key, c) ↔
      (∃ f, s.features.get? owner = some f ∧ f.key = key) ∧ isLost st = false ∧
        contextOf st = c := by
  rw [target?_eq_some_iff, ho sid st owner hst howner, ht.ofState?_joined hst]
  cases isLost st <;> simp

/-- Listed states with one target have one value. -/
theorem state_of_target? (ho : s.OwnsById t) (hs : s.Sound) (ht : t.Sound) {st st' : FeatureState}
    (hmem : st ∈ t.listStates) (hmem' : st' ∈ t.listStates) {target : String × Context}
    (htarget : target? s.listFeatures st = some target)
    (htarget' : target? s.listFeatures st' = some target) : st.state = st'.state := by
  obtain ⟨sid, st, hst, rfl⟩ := mem_listStates.1 hmem
  obtain ⟨sid', st', hst', rfl⟩ := mem_listStates.1 hmem'
  obtain ⟨owner, _, howner, -⟩ := ht.owner_stored sid st hst
  obtain ⟨owner', _, howner', -⟩ := ht.owner_stored sid' st' hst'
  obtain ⟨key, c⟩ := target
  obtain ⟨⟨f, hf, hkey⟩, -, hc⟩ := (ho.target?_joined ht hst howner).1 htarget
  obtain ⟨⟨f', hf', hkey'⟩, -, hc'⟩ := (ho.target?_joined ht hst' howner').1 htarget'
  obtain rfl := hs.key_distinct owner owner' f f' hf hf' (hkey.trans hkey'.symm)
  -- two states of one feature for one context are one
  rw [ht.eq_of_contextOf hst hst' howner howner' (hc.trans hc'.symm)]

theorem override?_iff (ho : s.OwnsById t) (hs : s.Sound) (ht : t.Sound) {id : String}
    {f : Feature} (hf : s.features.get? id = some f) {c : Context} {b : Bool} :
    override? s.listFeatures t.listStates f.key c = some b ↔
      ∃ st ∈ t.statesOf (fun st => !isLost st) id, contextOf st = c ∧ st.state = b := by
  rw [override?_eq_some_iff fun st hst st' hst' => ho.state_of_target? hs ht hst hst']
  constructor
  · rintro ⟨listed, hmem, htarget, hb⟩
    obtain ⟨sid, st, hst, rfl⟩ := mem_listStates.1 hmem
    obtain ⟨owner, _, howner, -⟩ := ht.owner_stored sid st hst
    obtain ⟨⟨f', hf', hkey⟩, hkept, hc⟩ := (ho.target?_joined ht hst howner).1 htarget
    obtain rfl := hs.key_distinct owner id f' f hf' hf hkey
    exact ⟨st, mem_statesOf.2 ⟨⟨sid, hst⟩, howner, by simp [hkept]⟩, hc, hb⟩
  · rintro ⟨st, hmem, rfl, rfl⟩
    obtain ⟨⟨sid, hst⟩, howner, hkept⟩ := mem_statesOf.1 hmem
    exact ⟨t.joined st, mem_listStates.2 ⟨sid, st, hst, rfl⟩,
      (ho.target?_joined ht hst howner).2 ⟨⟨f, hf, rfl⟩, by simpa using hkept, rfl⟩, rfl⟩

/-- The overrides of a feature are its states that are not lost. -/
theorem entries_perm (ho : s.OwnsById t) (hs : s.Sound) (ht : t.Sound) {id : String} {f : Feature}
    (hf : s.features.get? id = some f) :
    (overridesOf (groupStates s.listFeatures t.listStates) f.key).entries.Perm
      ((t.statesOf (fun st => !isLost st) id).map fun st => (contextOf st, st.state)) := by
  refine (List.perm_ext_iff_of_nodup (Table.nodup_entries _) ?_).2 ?_
  · refine List.Nodup.map_on ?_ (ht.nodup_values.filter _)
    intro st hst st' hst' e
    obtain ⟨⟨sid, hst⟩, howner, -⟩ := mem_statesOf.1 hst
    obtain ⟨⟨sid', hst'⟩, howner', -⟩ := mem_statesOf.1 hst'
    exact ht.eq_of_contextOf hst hst' howner howner' (congrArg Prod.fst e)
  · rintro ⟨c, b⟩
    rw [← Table.get?_eq_some_iff, get?_groupStates, ho.override?_iff hs ht hf]
    simp only [List.mem_map, Prod.mk.injEq]

/-- Under the key of a feature there is one rule for every state of it that is not lost. -/
theorem rules_perm (ho : s.OwnsById t) (hs : s.Sound) (ht : t.Sound) {id : String} {f : Feature}
    (hf : s.features.get? id = some f) :
    ∃ flag, (compile s.listFeatures t.listStates).flags.get? f.key = some flag ∧
      (flag.targeting.getD []).Perm ((t.statesOf (fun st => !isLost st) id).map ruleFor) := by
  have hkey : f.key ∈ s.listFeatures.map Feature.key :=
    List.mem_map_of_mem (mem_listFeatures.2 ⟨id, hf⟩)
  refine ⟨_, by rw [get?_compile, if_pos hkey], ?_⟩
  rw [rules_flagWith, rulesOfOverrides_eq]
  have hrules := ((sorted_perm _).trans (ho.entries_perm hs ht hf)).map
    fun e => Rule.ofContext e.1 e.2
  rwa [List.map_map] at hrules

end OwnsById

namespace Sound

variable {s : Store}

/-! ## What is published -/

theorem nodup_keys (h : s.Sound) : (s.listFeatures.map Feature.key).Nodup := by
  refine (s.listFeatures_perm.map Feature.key).nodup_iff.2 ?_
  rw [Table.values, List.map_map]
  refine List.Nodup.map_on ?_ s.features.nodup_entries
  rintro ⟨id, f⟩ hf ⟨id', f'⟩ hf' hkey
  have hf := Table.get?_eq_some_iff.2 hf
  have hf' := Table.get?_eq_some_iff.2 hf'
  obtain rfl := h.key_distinct id id' f f' hf hf' hkey
  rw [hf] at hf'
  cases hf'
  rfl

/-- Every stored state belongs to one listed feature. -/
theorem flatMap_statesOf_perm (h : s.Sound) (kept : FeatureState → Bool) :
    (s.listFeatures.flatMap fun f => s.statesOf kept f.id).Perm (s.states.values.filter kept) := by
  refine (List.perm_ext_iff_of_nodup ?_ (h.nodup_values.filter _)).2 fun st => ?_
  · refine List.nodup_flatMap.2 ⟨fun f _ => h.nodup_values.filter _, ?_⟩
    have hdistinct : s.listFeatures.Pairwise fun f f' => f.key ≠ f'.key :=
      List.pairwise_map.1 h.nodup_keys
    refine hdistinct.imp_of_mem fun {f f'} hf hf' hne => ?_
    refine List.disjoint_left.2 fun st hst hst' => hne ?_
    obtain ⟨-, howner, -⟩ := mem_statesOf.1 hst
    obtain ⟨-, howner', -⟩ := mem_statesOf.1 hst'
    rw [h.eq_of_id hf' hf (Option.some.inj (howner.symm.trans howner'))]
  · simp only [List.mem_flatMap, mem_statesOf, List.mem_filter, Table.mem_values]
    constructor
    · rintro ⟨f, -, hst, -, hkept⟩
      exact ⟨hst, hkept⟩
    · rintro ⟨⟨sid, hst⟩, hkept⟩
      obtain ⟨owner, f, howner, hf⟩ := h.owner_stored sid st hst
      exact ⟨f, mem_listFeatures.2 ⟨owner, hf⟩, ⟨sid, hst⟩, h.feature_id owner f hf ▸ howner, hkept⟩

theorem ruleCount_published (h : s.Sound) :
    (compile s.listFeatures s.listStates).ruleCount =
      s.states.values.countP fun st => !isLost st := by
  rw [ruleCount_compile _ h.nodup_keys, List.countP_eq_length_filter,
    ← (h.flatMap_statesOf_perm _).length_eq, List.length_flatMap]
  refine congrArg List.sum (List.map_congr_left fun f hf => ?_)
  obtain ⟨id, hf⟩ := mem_listFeatures.1 hf
  rw [(h.ownsById.entries_perm h h hf).length_eq, List.length_map, h.feature_id id f hf]

/-- A sound store publishes all that is not lost. -/
theorem publishes_kept (h : s.Sound) : s.Publishes fun st => !isLost st := by
  intro log
  have hkeys := keys_compile s.listStates h.nodup_keys
  have hperm := s.listFeatures_perm
  have hcount : (compile s.listFeatures s.listStates).flags.entries.length =
      s.features.entries.length := by
    rw [← List.length_map (f := Prod.fst), ← Table.keys, hkeys, List.length_map, hperm.length_eq,
      Table.values, List.length_map]
  refine ⟨_, by rw [document_memory, hcount, h.ruleCount_published], ?_, fun id f hf => ?_⟩
  · rw [hkeys]
    exact hperm.map _
  · exact h.ownsById.rules_perm h h hf

/-- A sound store publishes everything exactly when nothing in it is lost. -/
theorem publishes_all_iff (h : s.Sound) :
    (s.Publishes fun _ => true) ↔ ∀ id st, s.states.get? id = some st → isLost st = false := by
  constructor
  · intro hall id st hst
    obtain ⟨d, hd, -⟩ := h.publishes_kept []
    obtain ⟨d', hd', -⟩ := hall []
    -- one answer cannot log two numbers of rules
    have hcount : (s.states.values.countP fun st => !isLost st) = s.states.values.length := by
      obtain ⟨-, hlogged⟩ := Prod.mk.inj (hd.symm.trans hd')
      simpa only [Served.mk.injEq, List.cons.injEq, Log.Entry.mk.injEq, Prod.mk.injEq,
        Json.int.injEq, Int.natCast_inj, List.nil_append, and_true, true_and,
        List.countP_true] using hlogged
    have := List.countP_eq_length.1 hcount st (Table.mem_values.2 ⟨id, hst⟩)
    simpa using this
  · intro hnone
    refine h.publishes_kept.congr fun st hst => ?_
    obtain ⟨id, hst⟩ := Table.mem_values.1 hst
    simp [hnone id st hst]

end Sound

/-- **What a run leads to is published but for the states that are lost.** Every feature has its
flag and every state that is not lost has its rule; and every state has its rule just when the
context identifier of none is made of blanks only. -/
theorem publishes_afterAll (ops : List Operation) (hv : ∀ op ∈ ops, op.Validated) :
    ((empty.afterAll ops).Publishes fun st => !isLost st) ∧
      (((empty.afterAll ops).Publishes fun _ => true) ↔
        ∀ id st, (empty.afterAll ops).states.get? id = some st → isLost st = false) :=
  have h := sound_empty.afterAll hv
  ⟨h.publishes_kept, h.publishes_all_iff⟩

/-- A feature, and a state of it for the organization whose identifier is given. -/
def switchedFor (organization : String) : List Operation :=
  [.createFeature ⟨"checkout", "Checkout", none⟩,
    .createState ⟨none, some "checkout", .organization, some organization, true⟩]

theorem switchedFor_separator_validated : ∀ op ∈ switchedFor "\u001c", op.Validated := by
  refine List.forall_mem_cons.2 ⟨?_, List.forall_mem_singleton.2 ?_⟩
  · exact ⟨.object [("key", .string "checkout"), ("name", .string "Checkout")], rfl⟩
  · exact ⟨.object [("featureKey", .string "checkout"), ("contextType", .string "organization"),
      ("contextId", .string "\u001c"), ("state", .bool true)], rfl⟩

theorem publishes_afterAll_separator :
    (∀ op ∈ switchedFor "\u001c", op.Validated) ∧
      (empty.afterAll (switchedFor "\u001c")).Publishes fun st => !isLost st :=
  ⟨switchedFor_separator_validated, (publishes_afterAll _ switchedFor_separator_validated).1⟩

/-- The information separator is accepted as the identifier of an organization, and what is switched
on for that organization is not published. -/
theorem not_publishes_separator :
    ¬ ∀ ops : List Operation, (∀ op ∈ ops, op.Validated) →
      (empty.afterAll ops).Publishes fun _ => true := by
  intro hall
  have h := sound_empty.afterAll switchedFor_separator_validated
  have hnone := h.publishes_all_iff.1 (hall _ switchedFor_separator_validated)
  have hstored : (empty.afterAll (switchedFor "\u001c")).states.get?
      (Identifier.next .featureState 1) = some
        ⟨some (Identifier.next .featureState 1), some (Identifier.next .feature 0), none,
          .organization, some "\u001c", true, some (Clock.reading 2), some (Clock.reading 2)⟩ := by
    decide
  have hlost := hnone _ _ hstored
  exact absurd hlost (by decide)

end FeatureFlags.Store
