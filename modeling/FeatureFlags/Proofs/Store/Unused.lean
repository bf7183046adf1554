import FeatureFlags.Proofs.Identifier
import FeatureFlags.Proofs.Store.Frame

/-!
# Identifiers that are not in use

A record is created under the next identifier of its kind, and nobody looks whether that is in use
already. It is not: the identifiers in a store are among those that were issued (`Numbered`),
whatever was asked of the store, and those come round again only after all numbers of twelve digits
(`Numbered.unused`). So in a run that issues fewer identifiers a new record never takes the place of
another (`identifiers_distinct`).
-/

namespace FeatureFlags.Store

open Identifier (next)

/-- The next identifiers of both kinds, `n` of each, are not in use. -/
def Unused (s : Store) (n : Nat) : Prop :=
  ∀ k < n, s.features.get? (next .feature (s.issued + k)) = none ∧
    s.states.get? (next .featureState (s.issued + k)) = none

variable {s s' : Store}

/-! ## Identifiers that were issued -/

theorem issued_after (s : Store) (op : Operation) : s.issued ≤ (s.after op).issued := by
  cases hrun : s.run op with
  | error e => rw [after_of_error hrun]
  | ok x =>
    rw [after_of_ok hrun, (run_draws hrun).1]
    exact Nat.le_add_right _ _

theorem issued_afterAll (s : Store) (ops : List Operation) :
    s.issued ≤ (s.afterAll ops).issued := by
  induction ops generalizing s with
  | nil => exact Nat.le_refl _
  | cons op ops ih => exact Nat.le_trans (s.issued_after op) (ih _)

/-- The identifiers in the store are among those that were issued. -/
structure Numbered (s : Store) : Prop where
  feature : ∀ id f, s.features.get? id = some f → ∃ k < s.issued, id = next .feature k
  state : ∀ id st, s.states.get? id = some st → ∃ k < s.issued, id = next .featureState k

theorem numbered_empty : empty.Numbered where
  feature := fun _ _ h => nomatch h
  state := fun _ _ h => nomatch h

namespace Numbered

/-- What is stored keeps its number, as long as that was issued before. -/
theorem of_stored (h : s.Numbered) (hissued : s.issued ≤ s'.issued)
    (hf : ∀ id f, s'.features.get? id = some f →
      (∃ k < s'.issued, id = next .feature k) ∨ ∃ old, s.features.get? id = some old)
    (hs : ∀ id st, s'.states.get? id = some st →
      (∃ k < s'.issued, id = next .featureState k) ∨ ∃ old, s.states.get? id = some old) :
    s'.Numbered := by
  constructor
  · intro id f hget
    rcases hf id f hget with hnumber | ⟨old, hold⟩
    · exact hnumber
    · obtain ⟨k, hk, hid⟩ := h.feature id old hold
      exact ⟨k, Nat.lt_of_lt_of_le hk hissued, hid⟩
  · intro id st hget
    rcases hs id st hget with hnumber | ⟨old, hold⟩
    · exact hnumber
    · obtain ⟨k, hk, hid⟩ := h.state id old hold
      exact ⟨k, Nat.lt_of_lt_of_le hk hissued, hid⟩

theorem putFeature (h : s.Numbered) (hissued : s.issued ≤ s'.issued) {id : String} {f : Feature}
    (hf : s'.features = s.features.put id f) (hs : s'.states = s.states)
    (hid : ∃ k < s'.issued, id = next .feature k) : s'.Numbered := by
  refine h.of_stored hissued (fun id' f' hget => ?_) (fun id' st hget => .inr ⟨st, hs ▸ hget⟩)
  rcases Table.eq_or_get?_of_put (hf ▸ hget) with ⟨rfl, -⟩ | ⟨-, hold⟩
  · exact .inl hid
  · exact .inr ⟨f', hold⟩

theorem putState (h : s.Numbered) (hissued : s.issued ≤ s'.issued) {id : String}
    {st : FeatureState} (hs : s'.states = s.states.put id st) (hf : s'.features = s.features)
    (hid : ∃ k < s'.issued, id = next .featureState k) : s'.Numbered := by
  refine h.of_stored hissued (fun id' f hget => .inr ⟨f, hf ▸ hget⟩) (fun id' st' hget => ?_)
  rcases Table.eq_or_get?_of_put (hs ▸ hget) with ⟨rfl, -⟩ | ⟨-, hold⟩
  · exact .inl hid
  · exact .inr ⟨st', hold⟩

theorem after (h : s.Numbered) (op : Operation) : (s.after op).Numbered := by
  have hissued := s.issued_after op
  rcases s.after_cases op with hsame | ⟨d, f, rfl, hok⟩ | ⟨id, p, f, rfl, hok⟩ | ⟨id, f, rfl, hok⟩ |
    ⟨d, r, rfl, hok⟩ | ⟨id, p, r, rfl, hok⟩ | ⟨id, r, rfl, hok⟩
  · rw [hsame]
    exact h
  · obtain ⟨-, rfl, hf, hs⟩ := createFeature_eq_ok hok
    have hrun : s.run (.createFeature d) = .ok (.feature _, _) := answer_eq_ok.2 ⟨_, hok, rfl⟩
    have hlt : s.issued < (s.after (.createFeature d)).issued := by
      rw [(run_draws hrun).1]
      exact Nat.lt_succ_self _
    exact h.putFeature hissued hf hs ⟨s.issued, hlt, rfl⟩
  · obtain ⟨old, hold, -, -, hf, hs⟩ := updateFeature_eq_ok hok
    obtain ⟨k, hk, hid⟩ := h.feature id old hold
    exact h.putFeature hissued hf hs ⟨k, Nat.lt_of_lt_of_le hk hissued, hid⟩
  · obtain ⟨-, -, hf, hs⟩ := deleteFeature_eq_ok hok
    exact h.of_stored hissued (fun id' f' hget => .inr ⟨f', Table.get?_of_erase (hf ▸ hget)⟩)
      (fun id' st hget => .inr ⟨st, hs ▸ hget⟩)
  · obtain ⟨owner, -, -, -, hf, hs⟩ := createState_eq_ok hok
    have hrun : s.run (.createState d) = .ok (.state _, _) := answer_eq_ok.2 ⟨_, hok, rfl⟩
    have hlt : s.issued < (s.after (.createState d)).issued := by
      rw [(run_draws hrun).1]
      exact Nat.lt_succ_self _
    exact h.putState hissued hs hf ⟨s.issued, hlt, rfl⟩
  · obtain ⟨old, owner, hold, -, -, -, -, hf, hs⟩ := updateState_eq_ok hok
    obtain ⟨k, hk, hid⟩ := h.state id old hold
    exact h.putState hissued hs hf ⟨k, Nat.lt_of_lt_of_le hk hissued, hid⟩
  · obtain ⟨_, -, -, hf, hs⟩ := deleteState_eq_ok hok
    exact h.of_stored hissued (fun id' f hget => .inr ⟨f, hf ▸ hget⟩)
      (fun id' st hget => .inr ⟨st, Table.get?_of_erase (hs ▸ hget)⟩)

theorem afterAll (h : s.Numbered) (ops : List Operation) : (s.afterAll ops).Numbered := by
  induction ops generalizing s with
  | nil => exact h
  | cons op ops ih => exact ih (h.after op)

/-- The next identifiers are not in use as long as their numbers have twelve digits. -/
theorem unused (h : s.Numbered) {n : Nat} (hshort : s.issued + n < 10 ^ 12) : s.Unused n := by
  have hnew : ∀ e : Entity, ∀ j < s.issued, ∀ k < n, next e j ≠ next e (s.issued + k) :=
    fun e j hj k hk =>
      Identifier.next_ne_of_lt (by omega) (by unfold Identifier.usualLength; omega)
  intro k hk
  constructor
  · by_contra hused
    obtain ⟨f, hf⟩ := Option.ne_none_iff_exists'.1 hused
    obtain ⟨j, hj, heq⟩ := h.feature _ f hf
    exact hnew .feature j hj k hk heq.symm
  · by_contra hused
    obtain ⟨st, hst⟩ := Option.ne_none_iff_exists'.1 hused
    obtain ⟨j, hj, heq⟩ := h.state _ st hst
    exact hnew .featureState j hj k hk heq.symm

end Numbered

/-! ## Runs -/

theorem Unused.draws (h : s.Unused 1) (op : Operation) : s.DrawsUnused op := by
  obtain ⟨hfeature, hstate⟩ := h 0 Nat.one_pos
  cases op with
  | createFeature d => exact hfeature
  | createState d => exact hstate
  | _ => trivial

/-- An operation in a run that issues few identifiers touches one record only. -/
theorem touches_of_short {before after : List Operation} {op : Operation} {reply : Reply}
    (hshort : (empty.afterAll (before ++ op :: after)).issued < 10 ^ 12)
    (hrun : (empty.afterAll before).run op = .ok (reply, s')) :
    Touches (empty.afterAll before) s' op reply := by
  have hsplit : empty.afterAll (before ++ op :: after) = s'.afterAll after := by
    rw [afterAll, List.foldl_append, List.foldl_cons]
    exact congrArg (List.foldl Store.after · after) (after_of_ok hrun)
  have hdrawn : (empty.afterAll before).issued + op.drawn < 10 ^ 12 := by
    rw [← (run_draws hrun).1]
    exact Nat.lt_of_le_of_lt (s'.issued_afterAll after) (hsplit ▸ hshort)
  have hdraws : (empty.afterAll before).DrawsUnused op := by
    cases op with
    | createFeature d | createState d =>
      exact ((numbered_empty.afterAll before).unused hdrawn).draws _
    | _ => trivial
  exact run_touches hdraws hrun

/-- **Identifiers are not given twice.** Fewer than 10¹² identifiers, of any kinds in any order,
that the counting stream draws one after the other are distinct, and each has the usual form and
tells its kind. So a run of a store that starts empty and issues fewer than that many puts every
record that it creates at the end, and every operation of it touches the one record that it is
about. -/
theorem identifiers_distinct (entities : List Entity) (hentities : entities.length < 10 ^ 12)
    (ops : List Operation) (hops : (empty.afterAll ops).issued < 10 ^ 12) :
    (Identifier.issue Identifier.counting 0 entities).Nodup ∧
      List.Forall₂ Identifier.Names (Identifier.issue Identifier.counting 0 entities) entities ∧
      ∀ before op after reply s', ops = before ++ op :: after →
        (empty.afterAll before).run op = .ok (reply, s') →
        Touches (empty.afterAll before) s' op reply := by
  refine ⟨?_, Identifier.issue_names _ 0 entities, ?_⟩
  · have hnodup := Identifier.nodup_issue (k := 0) (Nat.le_of_lt hentities)
    rwa [Nat.zero_mul] at hnodup
  · rintro before op after reply s' rfl hrun
    exact touches_of_short hops hrun

/-- A feature, a state of it, a feature whose key is taken, and another feature. -/
def mixedRun : List Operation :=
  [.createFeature ⟨"checkout", "Checkout", none⟩,
    .createState ⟨none, some "checkout", .global, none, true⟩,
    .createFeature ⟨"checkout", "Again", none⟩, .createFeature ⟨"search", "Search", none⟩]

/-- The last feature of `mixedRun` gets the third identifier, and goes to the end. -/
theorem identifiers_distinct_mixedRun :
    Identifier.issue Identifier.counting 0 [.feature, .featureState, .feature] =
        ["ftr_000000000001", "fst_000000000002", "ftr_000000000003"] ∧
      (Identifier.issue Identifier.counting 0 [.feature, .featureState, .feature]).Nodup ∧
      ∃ reply s',
        (empty.afterAll (mixedRun.take 3)).run (.createFeature ⟨"search", "Search", none⟩) =
          .ok (reply, s') ∧
        Touches (empty.afterAll (mixedRun.take 3)) s' (.createFeature ⟨"search", "Search", none⟩)
          reply ∧
        s'.features.entries.map Prod.fst = ["ftr_000000000001", "ftr_000000000003"] := by
  have hissued : (empty.afterAll mixedRun).issued < 10 ^ 12 := by decide +kernel
  obtain ⟨hnodup, -, htouches⟩ :=
    identifiers_distinct [.feature, .featureState, .feature] (by decide) mixedRun hissued
  obtain ⟨reply, s', hrun, hkeys⟩ : ∃ reply s', (empty.afterAll (mixedRun.take 3)).run
      (.createFeature ⟨"search", "Search", none⟩) = .ok (reply, s') ∧
      s'.features.entries.map Prod.fst = ["ftr_000000000001", "ftr_000000000003"] :=
    ⟨_, _, rfl, by decide +kernel⟩
  exact ⟨by decide +kernel, hnodup, reply, s', hrun,
    htouches (mixedRun.take 3) _ [] reply s' rfl hrun, hkeys⟩

end FeatureFlags.Store
