import FeatureFlags.Proofs.Store.Step
import Mathlib.Logic.Relation

/-!
# Keys of features that states refer to

As long as a state refers to a feature, the feature is stored and its key stays what it is. What
stands in the way of a change is not told by one operation: a rename and a deletion ask whether the
feature is referred to, and the identifier of a new feature must not be that of a stored one, while
other operations bring states to the feature and take them away. Nothing is asked of the operations
but that: payloads need not be validated, and operations may fail.

One operation keeps the key of a feature that is referred to (`Anchored.key_after`), so the key is
the same over every stretch of a run in which the feature is referred to
(`referenced_key_constant`).
-/

namespace FeatureFlags.Store

/-- The key of the feature that is stored under an identifier. -/
def keyOf? (s : Store) (id : String) : Option String := (s.features.get? id).map Feature.key

/-- A feature that the operation creates gets an identifier that no stored feature has. -/
def DrawsFresh (s : Store) : Operation → Prop
  | .createFeature _ => s.features.get? (Identifier.next .feature s.issued) = none
  | _ => True

instance (s : Store) : (op : Operation) → Decidable (s.DrawsFresh op)
  | .createFeature _ => inferInstanceAs (Decidable (_ = none))
  | .updateFeature .. | .deleteFeature _ | .createState _ | .updateState .. | .deleteState _
  | .listFeatures | .listStates | .getFeature _ | .getFeatureByKey _ => .isTrue trivial

/-- The store when others have drawn identifiers and read the clock. -/
def drawnElsewhere (s : Store) (issued readings : Nat) : Store := { s with issued, readings }

/-- One operation, whatever it is and whether it succeeds, makes the second store of the first. -/
def Leads (s s' : Store) : Prop :=
  ∃ issued readings op, (s.drawnElsewhere issued readings).DrawsFresh op ∧
    s' = (s.drawnElsewhere issued readings).after op

/-- A run from the empty store gets to the store. -/
def Reachable (s : Store) : Prop := Relation.ReflTransGen Leads empty s

/-! ## Owners -/

/-- Features stand under their own identifiers, and every state has an owner that is stored. -/
structure Anchored (s : Store) : Prop where
  feature_id : ∀ id f, s.features.get? id = some f → f.id = id
  owner_stored : ∀ sid st, s.states.get? sid = some st →
    ∃ owner, st.featureId = some owner ∧ (s.features.get? owner).isSome

theorem anchored_empty : empty.Anchored where
  feature_id := fun _ _ h => nomatch h
  owner_stored := fun _ _ h => nomatch h

namespace Anchored

variable {s s' : Store}

/-- A feature that is put under its own identifier is in nobody's way. -/
theorem putFeature (h : s.Anchored) {id : String} {f : Feature} (hid : f.id = id)
    (hf : s'.features = s.features.put id f) (hs : s'.states = s.states) : s'.Anchored := by
  constructor
  · intro id' f' h'
    rcases Table.eq_or_get?_of_put (hf ▸ h') with ⟨rfl, rfl⟩ | ⟨-, h'⟩
    · exact hid
    · exact h.feature_id id' f' h'
  · intro sid st hst
    obtain ⟨owner, howner, hstored⟩ := h.owner_stored sid st (hs ▸ hst)
    refine ⟨owner, howner, ?_⟩
    rw [hf, Table.get?_put]
    split
    · rfl
    · exact hstored

/-- A feature that no state refers to may be taken out. -/
theorem eraseFeature (h : s.Anchored) {id : String} (hfree : s.isReferenced id = false)
    (hf : s'.features = s.features.erase id) (hs : s'.states = s.states) : s'.Anchored := by
  constructor
  · exact fun id' f' h' => h.feature_id id' f' (Table.get?_of_erase (hf ▸ h'))
  · intro sid st hst
    obtain ⟨owner, howner, hstored⟩ := h.owner_stored sid st (hs ▸ hst)
    have hne : owner ≠ id := by
      rintro rfl
      have href := isReferenced_iff.2 ⟨sid, st, hs ▸ hst, howner⟩
      rw [hfree] at href
      cases href
    exact ⟨owner, howner, by rwa [hf, Table.get?_erase, if_neg hne]⟩

/-- A state whose owner is stored may be put. -/
theorem putState (h : s.Anchored) {id owner : String} {st : FeatureState}
    (howner : st.featureId = some owner) (hstored : (s.features.get? owner).isSome)
    (hs : s'.states = s.states.put id st) (hf : s'.features = s.features) : s'.Anchored := by
  constructor
  · exact fun id' f' h' => h.feature_id id' f' (hf ▸ h')
  · intro sid st' hst
    rw [hf]
    rcases Table.eq_or_get?_of_put (hs ▸ hst) with ⟨-, rfl⟩ | ⟨-, hst⟩
    · exact ⟨owner, howner, hstored⟩
    · exact h.owner_stored sid st' hst

theorem eraseState (h : s.Anchored) {id : String} (hs : s'.states = s.states.erase id)
    (hf : s'.features = s.features) : s'.Anchored := by
  constructor
  · exact fun id' f' h' => h.feature_id id' f' (hf ▸ h')
  · intro sid st hst
    rw [hf]
    exact h.owner_stored sid st (Table.get?_of_erase (hs ▸ hst))

theorem after (h : s.Anchored) (op : Operation) : (s.after op).Anchored := by
  rcases s.after_cases op with hsame | ⟨d, f, rfl, hok⟩ | ⟨id, p, f, rfl, hok⟩ | ⟨id, f, rfl, hok⟩ |
    ⟨d, r, rfl, hok⟩ | ⟨id, p, r, rfl, hok⟩ | ⟨id, r, rfl, hok⟩
  · rw [hsame]; exact h
  · obtain ⟨-, rfl, hf, hs⟩ := createFeature_eq_ok hok
    exact h.putFeature rfl hf hs
  · obtain ⟨old, hold, -, rfl, hf, hs⟩ := updateFeature_eq_ok hok
    have hid : (patched old p s.now).id = id := h.feature_id id old hold
    exact h.putFeature hid hf hs
  · obtain ⟨-, hfree, hf, hs⟩ := deleteFeature_eq_ok hok
    exact h.eraseFeature hfree hf hs
  · obtain ⟨owner, howner, -, -, hf, hs⟩ := createState_eq_ok hok
    have hstored := ownerOf?_stored h.feature_id howner
    exact h.putState rfl (Option.isSome_of_eq_some hstored) hs hf
  · obtain ⟨old, owner, -, -, hstored, -, -, hf, hs⟩ := updateState_eq_ok hok
    exact h.putState rfl hstored hs hf
  · obtain ⟨_, -, -, hf, hs⟩ := deleteState_eq_ok hok
    exact h.eraseState hs hf

theorem drawnElsewhere (h : s.Anchored) (issued readings : Nat) :
    (s.drawnElsewhere issued readings).Anchored :=
  ⟨h.feature_id, h.owner_stored⟩

theorem leads (h : s.Anchored) (hl : s.Leads s') : s'.Anchored := by
  obtain ⟨issued, readings, op, -, rfl⟩ := hl
  exact (h.drawnElsewhere issued readings).after op

theorem of_reachable (h : s.Reachable) : s.Anchored := by
  induction h with
  | refl => exact anchored_empty
  | tail _ hl ih => exact ih.leads hl

/-! ## Keys -/

/-- A feature that a state refers to is stored. -/
theorem keyOf?_isSome (h : s.Anchored) {id : String} (href : s.isReferenced id = true) :
    ∃ key, s.keyOf? id = some key := by
  obtain ⟨sid, st, hst, howner⟩ := isReferenced_iff.1 href
  obtain ⟨owner, howner', hstored⟩ := h.owner_stored sid st hst
  obtain rfl : id = owner := Option.some.inj (howner.symm.trans howner')
  obtain ⟨f, hf⟩ := Option.isSome_iff_exists.1 hstored
  exact ⟨f.key, by simp [keyOf?, hf]⟩

/-- **One operation keeps the key of a feature that a state refers to.** -/
theorem key_after (h : s.Anchored) {op : Operation} (hfresh : s.DrawsFresh op) {id : String}
    (href : s.isReferenced id = true) : (s.after op).keyOf? id = s.keyOf? id := by
  obtain ⟨key, hkey⟩ := h.keyOf?_isSome href
  obtain ⟨f, hf, rfl⟩ := Option.map_eq_some_iff.1 hkey
  rcases s.after_cases op with hsame | ⟨d, f', rfl, hok⟩ | ⟨id', p, f', rfl, hok⟩ |
    ⟨id', f', rfl, hok⟩ | ⟨d, r, rfl, hok⟩ | ⟨id', p, r, rfl, hok⟩ | ⟨id', r, rfl, hok⟩
  · rw [hsame]
  · -- the new feature stands under another identifier
    obtain ⟨-, rfl, hfeatures, -⟩ := createFeature_eq_ok hok
    have hne : id ≠ (s.newFeature d).id := by
      rintro rfl
      have hnone : s.features.get? (s.newFeature d).id = none := hfresh
      rw [hnone] at hf
      cases hf
    simp only [keyOf?, hfeatures, Table.get?_put, if_neg hne]
  · -- a change of this feature gives it no other key, as that would have been refused
    obtain ⟨old, hold, hnew, rfl, hfeatures, -⟩ := updateFeature_eq_ok hok
    by_cases he : id = id'
    · subst he
      obtain rfl : f = old := Option.some.inj (hf.symm.trans hold)
      have hsame : p.key.getD f.key = f.key := by
        refine Decidable.byContradiction fun hne => ?_
        have hfree := (hnew _ (newKey?_of_ne hne)).1
        rw [href] at hfree
        cases hfree
      simp [keyOf?, hfeatures, hf, patched, hsame]
    · simp only [keyOf?, hfeatures, Table.get?_put, if_neg he]
  · -- it is not this feature that is deleted, as that would have been refused
    obtain ⟨-, hfree, hfeatures, -⟩ := deleteFeature_eq_ok hok
    have hne : id ≠ id' := by
      rintro rfl
      rw [href] at hfree
      cases hfree
    simp only [keyOf?, hfeatures, Table.get?_erase, if_neg hne]
  · obtain ⟨-, -, -, -, hfeatures, -⟩ := createState_eq_ok hok
    rw [keyOf?, hfeatures, keyOf?]
  · obtain ⟨-, -, -, -, -, -, -, hfeatures, -⟩ := updateState_eq_ok hok
    rw [keyOf?, hfeatures, keyOf?]
  · obtain ⟨-, -, -, hfeatures, -⟩ := deleteState_eq_ok hok
    rw [keyOf?, hfeatures, keyOf?]

theorem key_leads (h : s.Anchored) (hl : s.Leads s') {id : String}
    (href : s.isReferenced id = true) : s'.keyOf? id = s.keyOf? id := by
  obtain ⟨issued, readings, op, hfresh, rfl⟩ := hl
  exact (h.drawnElsewhere issued readings).key_after hfresh href

end Anchored

/-! ## Runs -/

/-- A run that goes on for ever; it may do so by reading. -/
def IsRun (run : Nat → Store) : Prop := ∀ n, (run n).Leads (run (n + 1))

theorem Anchored.run {run : Nat → Store} (h : (run 0).Anchored) (hrun : IsRun run) :
    ∀ n, (run n).Anchored
  | 0 => h
  | n + 1 => (Anchored.run h hrun n).leads (hrun n)

/-- While states refer to a feature, its key is the one that it had at first. -/
theorem Anchored.key_run {run : Nat → Store} (h : (run 0).Anchored) (hrun : IsRun run) {id : String}
    {n : Nat} (href : ∀ k ≤ n, (run k).isReferenced id = true) :
    ∀ k ≤ n + 1, (run k).keyOf? id = (run 0).keyOf? id := by
  intro k hk
  induction k with
  | zero => rfl
  | succ k ih =>
    have hstep := (h.run hrun k).key_leads (hrun k) (href k (by omega))
    exact hstep.trans (ih (by omega))

/-- **A feature that states refer to keeps its key.** In every store that is reached from the empty
one, whatever operation comes next and whether it succeeds, a feature that a state refers to is
stored before and after it, and with one key. So along every run its key is one and the same from
the beginning of a stretch in which states refer to it until after the operation that ends the
stretch. -/
theorem referenced_key_constant {s : Store} (hs : s.Reachable) (id : String) :
    (∀ op, s.DrawsFresh op → s.isReferenced id = true →
      ∃ key, s.keyOf? id = some key ∧ (s.after op).keyOf? id = some key) ∧
    ∀ (run : Nat → Store) (n : Nat), run 0 = s → IsRun run →
      (∀ k ≤ n, (run k).isReferenced id = true) →
      ∃ key, ∀ k ≤ n + 1, (run k).keyOf? id = some key := by
  have h : s.Anchored := .of_reachable hs
  constructor
  · intro op hfresh href
    obtain ⟨key, hkey⟩ := h.keyOf?_isSome href
    exact ⟨key, hkey, (h.key_after hfresh href).trans hkey⟩
  · rintro run n rfl hrun href
    obtain ⟨key, hkey⟩ := h.keyOf?_isSome (href 0 (by omega))
    exact ⟨key, fun k hk => (h.key_run hrun href k hk).trans hkey⟩

/-! ## Runs of given operations -/

/-- The identifiers that operations draw one after the other are fresh. -/
def AllDrawFresh : Store → List Operation → Prop
  | _, [] => True
  | s, op :: ops => s.DrawsFresh op ∧ AllDrawFresh (s.after op) ops

instance : (s : Store) → (ops : List Operation) → Decidable (s.AllDrawFresh ops)
  | _, [] => .isTrue trivial
  | s, op :: ops =>
    have := instDecidableAllDrawFresh (s.after op) ops
    inferInstanceAs (Decidable (s.DrawsFresh op ∧ AllDrawFresh (s.after op) ops))

/-- The store after the first `n` operations, and after the last one from then on. -/
def afterFirst (s : Store) (ops : List Operation) (n : Nat) : Store := s.afterAll (ops.take n)

theorem afterFirst_zero (s : Store) (ops : List Operation) : s.afterFirst ops 0 = s := rfl

theorem leads_after {s : Store} {op : Operation} (h : s.DrawsFresh op) : s.Leads (s.after op) :=
  ⟨s.issued, s.readings, op, h, rfl⟩

theorem Reachable.afterAll {s : Store} (hs : s.Reachable) {ops : List Operation}
    (h : s.AllDrawFresh ops) : (s.afterAll ops).Reachable := by
  induction ops generalizing s with
  | nil => exact hs
  | cons op ops ih => exact ih (hs.tail (leads_after h.1)) h.2

theorem isRun_afterFirst {s : Store} {ops : List Operation} (h : s.AllDrawFresh ops) :
    IsRun (s.afterFirst ops) := by
  intro n
  induction ops generalizing s n with
  | nil =>
    -- nothing is left to do, so the store is read
    have hread : s.Leads (s.after .listFeatures) := leads_after trivial
    rw [afterFirst, afterFirst, List.take_nil, List.take_nil]
    exact hread
  | cons op ops ih =>
    cases n with
    | zero => exact leads_after h.1
    | succ n => exact ih h.2 n

/-- Two features, the first of them switched on for an organization. -/
def twoFeatures : List Operation :=
  [.createFeature ⟨"checkout", "Checkout", none⟩, .createFeature ⟨"search", "Search", none⟩,
    .createState ⟨none, some "checkout", .organization, some "org-1", true⟩]

/-- A rename of the first feature is refused, it gets a second state, its first state is moved to
the other feature, and a deletion is refused. -/
def attempts : List Operation :=
  [.updateFeature "ftr_000000000001" ⟨some "payments", none, none⟩,
    .createState ⟨some "ftr_000000000001", none, .global, none, false⟩,
    .updateState "fst_000000000003" ⟨some "ftr_000000000002", .organization, some "org-1", true⟩,
    .deleteFeature "ftr_000000000001"]

theorem referenced_key_constant_moved :
    (empty.afterAll twoFeatures).Reachable ∧
      IsRun ((empty.afterAll twoFeatures).afterFirst attempts) ∧
      (∀ k ≤ 4, ((empty.afterAll twoFeatures).afterFirst attempts k).isReferenced
        "ftr_000000000001" = true) ∧
      ∃ key, ∀ k ≤ 5, ((empty.afterAll twoFeatures).afterFirst attempts k).keyOf?
        "ftr_000000000001" = some key := by
  have hempty : empty.Reachable := Relation.ReflTransGen.refl
  have hreached : (empty.afterAll twoFeatures).Reachable := hempty.afterAll (by decide +kernel)
  have hrun : IsRun ((empty.afterAll twoFeatures).afterFirst attempts) :=
    isRun_afterFirst (by decide +kernel)
  have href : ∀ k ≤ 4, ((empty.afterAll twoFeatures).afterFirst attempts k).isReferenced
      "ftr_000000000001" = true := by
    decide +kernel
  exact ⟨hreached, hrun, href,
    (referenced_key_constant hreached _).2 _ 4 (afterFirst_zero _ _) hrun href⟩

end FeatureFlags.Store
