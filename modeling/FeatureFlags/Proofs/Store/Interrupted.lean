import FeatureFlags.Proofs.Backend
import FeatureFlags.Proofs.Identifier
import FeatureFlags.Proofs.Store.Published

/-!
# Writes between two reads

A document is compiled from two reads of the store, first of the features, then of the states, and
nothing keeps others from writing in between. A state is given to the feature it refers to, by an
identifier that is never empty (`Named`), and its key, which may be that of another feature by then,
is not looked at. So the document has the flags of the first read, and under each the states that
the feature itself has in the second (`document_interrupted`); states of features that are new since
the first read are in nobody's rules.
-/

namespace FeatureFlags

/-- The store in memory, to which others write as soon as its features have been read. -/
def Backend.interrupted (writes : List Operation) : Backend Store where
  run op := do
    let reply ← (memory Outages.none).run op
    if op = .listFeatures then
      modify fun w => { w with contents := w.contents.afterAll writes }
    return reply

namespace Store

open Targeting

/-! ## Identifiers -/

/-- No feature is stored under the empty identifier. -/
def Named (s : Store) : Prop := ∀ id f, s.features.get? id = some f → id ≠ ""

theorem named_empty : empty.Named := fun _ _ h => nomatch h

namespace Named

variable {s s' : Store}

theorem put (h : s.Named) {id : String} {f : Feature} (hid : id ≠ "")
    (hf : s'.features = s.features.put id f) : s'.Named := by
  intro id' f' h'
  rcases Table.eq_or_get?_of_put (hf ▸ h') with ⟨rfl, -⟩ | ⟨-, h'⟩
  · exact hid
  · exact h id' f' h'

theorem after (h : s.Named) (op : Operation) : (s.after op).Named := by
  rcases s.after_cases op with hsame | ⟨d, f, rfl, hok⟩ | ⟨id, p, f, rfl, hok⟩ | ⟨id, f, rfl, hok⟩ |
    ⟨d, r, rfl, hok⟩ | ⟨id, p, r, rfl, hok⟩ | ⟨id, r, rfl, hok⟩
  · rw [hsame]; exact h
  · obtain ⟨-, rfl, hf, -⟩ := createFeature_eq_ok hok
    exact h.put (Identifier.next_ne_empty .feature s.issued) hf
  · obtain ⟨old, hold, -, -, hf, -⟩ := updateFeature_eq_ok hok
    exact h.put (h id old hold) hf
  · obtain ⟨-, -, hf, -⟩ := deleteFeature_eq_ok hok
    exact fun id' f' h' => h id' f' (Table.get?_of_erase (hf ▸ h'))
  -- writes to states leave the features as they are
  · obtain ⟨-, -, -, -, hf, -⟩ := createState_eq_ok hok
    exact fun id' f' h' => h id' f' (hf ▸ h')
  · obtain ⟨-, -, -, -, -, -, -, hf, -⟩ := updateState_eq_ok hok
    exact fun id' f' h' => h id' f' (hf ▸ h')
  · obtain ⟨-, -, -, hf, -⟩ := deleteState_eq_ok hok
    exact fun id' f' h' => h id' f' (hf ▸ h')

theorem afterAll (h : s.Named) (ops : List Operation) : (s.afterAll ops).Named := by
  induction ops generalizing s with
  | nil => exact h
  | cons op ops ih => exact ih (h.after op)

end Named

/-! ## Owners -/

theorem Sound.featureById?_listFeatures {s : Store} (h : s.Sound) (id : String) :
    featureById? s.listFeatures id = s.features.get? id := by
  rw [featureById?, ← lastWith_eq_find?_reverse]
  cases hf : s.features.get? id with
  | none =>
    rw [lastWith_eq_none_iff]
    intro f hmem
    obtain ⟨id', hf'⟩ := mem_listFeatures.1 hmem
    have hne : f.id ≠ id := by
      rintro rfl
      rw [h.feature_id id' f hf', hf'] at hf
      cases hf
    simpa using hne
  | some f =>
    have hid : f.id = id := h.feature_id id f hf
    have hmem : f ∈ s.listFeatures := mem_listFeatures.2 ⟨id, hf⟩
    refine lastWith_eq_some_of_unique hmem (by simp [hid]) fun f' hmem' hid' => ?_
    exact h.eq_of_id hmem hmem' (by simpa [hid] using hid')

/-- Features own the states of any store, whatever became of the features there. -/
theorem Sound.ownsById_of_named {s t : Store} (hs : s.Sound) (ht : t.Sound) (hn : t.Named) :
    s.OwnsById t := by
  intro sid st owner hst howner
  obtain ⟨owner', f, howner', hf⟩ := ht.owner_stored sid st hst
  obtain rfl : owner = owner' := Option.some.inj (howner.symm.trans howner')
  have hgiven : given (t.joined st).featureId = some owner := by
    simp [joined, howner, given, Option.filter, hn owner f hf]
  rw [owner?, hgiven]
  exact hs.featureById?_listFeatures owner

/-! ## Documents -/

theorem document_of_interrupted (writes : List Operation) (s : Store) (log : List Log.Entry) :
    ((Backend.interrupted writes).document.run.run ⟨s, log⟩).1 =
      .ok (compile s.listFeatures (s.afterAll writes).listStates) := by
  have hfeatures : ((Backend.interrupted writes).run .listFeatures).run.run ⟨s, log⟩ =
      (.ok (.features s.listFeatures), ⟨s.afterAll writes, log⟩) := rfl
  have hstates : ((Backend.interrupted writes).run .listStates).run.run
      ⟨s.afterAll writes, log⟩ =
      (.ok (.states (s.afterAll writes).listStates), ⟨s.afterAll writes, log⟩) := rfl
  rw [Backend.document_of_reads _ hfeatures hstates]

/-- **Writes between the two reads do not get rules under a wrong flag.** The store that a run leads
to is read while others write to it. The document has one flag for every feature of the first read,
in order, and as rules of the flag exactly those of the states that refer to this very feature in
the second read and are not lost, however features were renamed, deleted or made anew with the same
key, and states were moved. -/
theorem document_interrupted (before during : List Operation)
    (hbefore : ∀ op ∈ before, op.Validated) (hduring : ∀ op ∈ during, op.Validated)
    (log : List Log.Entry) :
    let s₁ := empty.afterAll before
    let s₂ := s₁.afterAll during
    let d := compile s₁.listFeatures s₂.listStates
    ((Backend.interrupted during).document.run.run ⟨s₁, log⟩).1 = .ok d ∧
      d.flags.keys = s₁.listFeatures.map Feature.key ∧
      ∀ f ∈ s₁.listFeatures, ∃ flag, d.flags.get? f.key = some flag ∧
        (flag.targeting.getD []).Perm ((s₂.statesOf (fun st => !isLost st) f.id).map ruleFor) := by
  intro s₁ s₂ d
  have h₁ : s₁.Sound := sound_empty.afterAll hbefore
  have h₂ : s₂.Sound := h₁.afterAll hduring
  have hnamed : s₂.Named := (named_empty.afterAll before).afterAll during
  have howns : s₁.OwnsById s₂ := h₁.ownsById_of_named h₂ hnamed
  refine ⟨document_of_interrupted during s₁ log, keys_compile s₂.listStates h₁.nodup_keys, ?_⟩
  intro f hf
  obtain ⟨id, hf⟩ := mem_listFeatures.1 hf
  rw [h₁.feature_id id f hf]
  exact howns.rules_perm h₁ h₂ hf

/-- The feature of `switchedFor` goes, and another one with its key and a state comes. -/
def madeAnew : List Operation :=
  [.deleteState (Identifier.next .featureState 1), .deleteFeature (Identifier.next .feature 0)] ++
    switchedFor "org-2"

/-- A feature that was made anew between the reads has no rules: the states belong to another. -/
theorem document_interrupted_madeAnew :
    (∀ op ∈ switchedFor "org-1", op.Validated) ∧ (∀ op ∈ madeAnew, op.Validated) ∧
      ∃ d flag, ((Backend.interrupted madeAnew).document.run.run
          ⟨empty.afterAll (switchedFor "org-1"), []⟩).1 = .ok d ∧
        d.flags.get? "checkout" = some flag ∧ flag.targeting.getD [] = [] := by
  have hbefore : ∀ op ∈ switchedFor "org-1", op.Validated := by
    refine List.forall_mem_cons.2 ⟨?_, List.forall_mem_singleton.2 ?_⟩
    · exact ⟨.object [("key", .string "checkout"), ("name", .string "Checkout")], rfl⟩
    · exact ⟨.object [("featureKey", .string "checkout"), ("contextType", .string "organization"),
        ("contextId", .string "org-1"), ("state", .bool true)], rfl⟩
  have hduring : ∀ op ∈ madeAnew, op.Validated := by
    simp only [madeAnew, switchedFor, List.cons_append, List.nil_append, List.forall_mem_cons]
    refine ⟨trivial, trivial, ?_, ?_, nofun⟩
    · exact ⟨.object [("key", .string "checkout"), ("name", .string "Checkout")], rfl⟩
    · exact ⟨.object [("featureKey", .string "checkout"), ("contextType", .string "organization"),
        ("contextId", .string "org-2"), ("state", .bool true)], rfl⟩
  obtain ⟨hdocument, -, hrules⟩ :=
    document_interrupted (switchedFor "org-1") madeAnew hbefore hduring []
  have hread : ⟨Identifier.next .feature 0, "checkout", "Checkout", none, some (Clock.reading 1),
      some (Clock.reading 1)⟩ ∈ (empty.afterAll (switchedFor "org-1")).listFeatures :=
    mem_listFeatures.2 ⟨Identifier.next .feature 0, by decide⟩
  obtain ⟨flag, hflag, hperm⟩ := hrules _ hread
  have hnone : ((empty.afterAll (switchedFor "org-1")).afterAll madeAnew).statesOf
      (fun st => !isLost st) (Identifier.next .feature 0) = [] := by
    decide
  rw [hnone] at hperm
  exact ⟨hbefore, hduring, _, flag, hdocument, hflag, hperm.eq_nil⟩

end Store

end FeatureFlags
