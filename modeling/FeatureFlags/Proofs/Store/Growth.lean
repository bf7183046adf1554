import FeatureFlags.Proofs.Store.Unused

/-!
# Runs of creations

A creation either adds one record at the end of its table or is refused, and is refused from then
on. So a run of creations of one kind adds as many records as it has creations that succeed
(`afterAll_makes`), and the same run once more adds none and leaves the store as it is
(`afterAll_of_refused`).
-/

namespace FeatureFlags

/-- The kind of record that an operation creates. -/
def Operation.makes : Operation → Option Entity
  | .createFeature _ => some .feature
  | .createState _ => some .featureState
  | _ => none

namespace Store

open Identifier (next)

/-- How many of some operations succeed, run one after the other. -/
def accepted (s : Store) : List Operation → Nat
  | [] => 0
  | op :: ops => (if (s.run op).isOk then 1 else 0) + (s.after op).accepted ops

/-- The second store has everything that the first has, and so many records of one kind after
that. -/
inductive Adds (s s' : Store) : Entity → Nat → Prop where
  | features {new : List (String × Feature)} :
      s'.features.entries = s.features.entries ++ new → s'.states = s.states →
      Adds s s' .feature new.length
  | states {new : List (String × FeatureState)} :
      s'.states.entries = s.states.entries ++ new → s'.features = s.features →
      Adds s s' .featureState new.length

variable {s s' s'' : Store} {e : Entity} {op : Operation} {err : ServiceError} {m n : Nat}

/-! ## Records that are added -/

namespace Adds

theorem none (s : Store) (e : Entity) : Adds s s e 0 := by
  cases e with
  | feature => exact .features (List.append_nil _).symm rfl
  | featureState => exact .states (List.append_nil _).symm rfl

theorem trans (h : Adds s s' e m) (h' : Adds s' s'' e n) : Adds s s'' e (m + n) := by
  cases h with
  | features hf hs =>
    cases h' with
    | features hf' hs' =>
      rw [← List.length_append]
      exact .features (by rw [hf', hf, List.append_assoc]) (hs'.trans hs)
  | states hs hf =>
    cases h' with
    | states hs' hf' =>
      rw [← List.length_append]
      exact .states (by rw [hs', hs, List.append_assoc]) (hf'.trans hf)

theorem features_eq (h : Adds s s' .feature n) :
    ∃ new, s'.features.entries = s.features.entries ++ new ∧ new.length = n ∧
      s'.states = s.states := by
  cases h with
  | features hnew hsame => exact ⟨_, hnew, rfl, hsame⟩

theorem states_eq (h : Adds s s' .featureState n) :
    ∃ new, s'.states.entries = s.states.entries ++ new ∧ new.length = n ∧
      s'.features = s.features := by
  cases h with
  | states hnew hsame => exact ⟨_, hnew, rfl, hsame⟩

theorem feature (h : Adds s s' e n) {id : String} {f : Feature}
    (hf : s.features.get? id = some f) : s'.features.get? id = some f := by
  cases h with
  | features hentries _ =>
    rw [Table.get?_eq_some_iff] at hf ⊢
    rw [hentries]
    exact List.mem_append_left _ hf
  | states _ hfeatures => rwa [hfeatures]

theorem state (h : Adds s s' e n) {id : String} {st : FeatureState}
    (hst : s.states.get? id = some st) : s'.states.get? id = some st := by
  cases h with
  | features _ hstates => rwa [hstates]
  | states hentries _ =>
    rw [Table.get?_eq_some_iff] at hst ⊢
    rw [hentries]
    exact List.mem_append_left _ hst

theorem keyTaken (h : Adds s s' e n) {key : String} (htaken : s.KeyTaken key) :
    s'.KeyTaken key := by
  obtain ⟨id, f, hf, hkey⟩ := htaken
  exact ⟨id, f, h.feature hf, hkey⟩

theorem contextTaken (h : Adds s s' e n) {owner : String} {type : ContextType}
    {contextId : Option String} (htaken : s.ContextTaken Option.none owner type contextId) :
    s'.ContextTaken Option.none owner type contextId := by
  obtain ⟨sid, st, hst, hrest⟩ := htaken
  exact ⟨sid, st, h.state hst, hrest⟩

end Adds

/-- The owner of a draft is found among the features alone. -/
theorem ownerOf?_congr (h : s'.features = s.features) (d : FeatureState.Draft) :
    s'.ownerOf? d = s.ownerOf? d := by
  unfold ownerOf? feature? featureByKey?
  rw [h]

/-- A creation that is refused stays refused while records of its kind are added. -/
theorem Adds.refuses (h : Adds s s' e n) (hop : op.makes = some e) (hrefuses : s.Refuses op err) :
    s'.Refuses op err := by
  cases op with
  | createFeature d =>
    obtain ⟨htaken, rfl⟩ := refuses_createFeature_iff.1 hrefuses
    exact .keyTaken (h.keyTaken htaken)
  | createState d =>
    cases hop
    have hfeatures : s'.features = s.features := by
      cases h with
      | states _ hf => exact hf
    rw [refuses_createState_iff, ownerOf?_congr hfeatures] at *
    rcases hrefuses with habsent | ⟨f, howner, htaken, rfl⟩
    · exact .inl habsent
    · exact .inr ⟨f, howner, h.contextTaken htaken, rfl⟩
  | _ => cases hop

/-! ## One creation -/

theorem run_eq_error_of_makes (hop : op.makes = some e) :
    s.run op = .error err ↔ s.Refuses op err := by
  cases op with
  | createFeature d => rw [run, answer_eq_error, createFeature_eq_error_iff]
  | createState d => rw [run, answer_eq_error, createState_eq_error_iff]
  | _ => cases hop

theorem Unused.mono (h : s.Unused n) (hle : m ≤ n) : s.Unused m :=
  fun k hk => h k (Nat.lt_of_lt_of_le hk hle)

/-- One identifier is used up. -/
theorem Unused.issued (h : s.Unused (n + 1)) (hshort : n + 1 ≤ 10 ^ 12)
    (hissued : s'.issued = s.issued + 1)
    (hf : ∀ id, id ≠ next .feature s.issued → s'.features.get? id = s.features.get? id)
    (hs : ∀ id, id ≠ next .featureState s.issued → s'.states.get? id = s.states.get? id) :
    s'.Unused n := by
  intro k hk
  have hne : ∀ e, next e (s.issued + (k + 1)) ≠ next e s.issued := fun e =>
    (Identifier.next_ne_of_lt (by omega) (by unfold Identifier.usualLength; omega)).symm
  obtain ⟨hfeature, hstate⟩ := h (k + 1) (by omega)
  rw [hissued, Nat.add_assoc, Nat.add_comm 1 k]
  exact ⟨(hf _ (hne .feature)).trans hfeature, (hs _ (hne .featureState)).trans hstate⟩

/-- What creations of one kind do to a store. -/
structure Makes (s : Store) (e : Entity) (ops : List Operation) (n : Nat) : Prop where
  adds : Adds s (s.afterAll ops) e (s.accepted ops)
  refused : ∀ op ∈ ops, ∃ err, (s.afterAll ops).Refuses op err
  unused : (s.afterAll ops).Unused n

theorem makes_of_error (hop : op.makes = some e) (h : s.Unused (n + 1))
    (hrun : s.run op = .error err) : s.Makes e [op] n := by
  have hsame : s.afterAll [op] = s := after_of_error hrun
  have hnothing : s.accepted [op] = 0 := by
    rw [accepted, hrun]
    rfl
  constructor
  · rw [hsame, hnothing]
    exact .none s e
  · rw [hsame]
    exact List.forall_mem_singleton.2 ⟨err, (run_eq_error_of_makes hop).1 hrun⟩
  · rw [hsame]
    exact h.mono (Nat.le_succ n)

theorem makes_of_ok {reply : Reply} (hrun : s.run op = .ok (reply, s')) (hadds : Adds s s' e 1)
    (hrefuses : s'.Refuses op err) (hunused : s'.Unused n) : s.Makes e [op] n := by
  have hsame : s.afterAll [op] = s' := after_of_ok hrun
  have hcounted : s.accepted [op] = 1 := by
    rw [accepted, hrun]
    rfl
  constructor
  · rwa [hsame, hcounted]
  · rw [hsame]
    exact List.forall_mem_singleton.2 ⟨err, hrefuses⟩
  · rwa [hsame]

/-- A feature that is created is the last one, and its key is taken. -/
theorem makes_feature (h : s.Unused (n + 1)) (hshort : n + 1 ≤ 10 ^ 12) {d : Feature.Draft}
    {reply : Reply} (hrun : s.run (.createFeature d) = .ok (reply, s')) :
    s.Makes .feature [.createFeature d] n := by
  obtain ⟨f, hok, -⟩ := answer_eq_ok.1 hrun
  obtain ⟨-, rfl, hf, hs⟩ := createFeature_eq_ok hok
  have hput : ∀ id, s'.features.get? id =
      if id = next .feature s.issued then some (s.newFeature d) else s.features.get? id := by
    intro id
    rw [hf, Table.get?_put]
    rfl
  have htaken : s'.KeyTaken d.key :=
    ⟨next .feature s.issued, s.newFeature d, by rw [hput, if_pos rfl], rfl⟩
  have hadds : Adds s s' .feature 1 := by
    obtain ⟨hfree, -⟩ := h 0 (Nat.succ_pos n)
    have happends : s'.features.entries =
        s.features.entries ++ [(next .feature s.issued, s.newFeature d)] := by
      rw [hf]
      exact (Table.appends_put hfree _).2
    exact .features happends hs
  refine makes_of_ok hrun hadds (.keyTaken htaken) (h.issued hshort (run_draws hrun).1 ?_ ?_)
  · intro id hid
    rw [hput, if_neg hid]
  · intro id _
    rw [hs]

/-- A state that is created is the last one, and its context is taken. -/
theorem makes_state (h : s.Unused (n + 1)) (hshort : n + 1 ≤ 10 ^ 12) {d : FeatureState.Draft}
    {reply : Reply} (hrun : s.run (.createState d) = .ok (reply, s')) :
    s.Makes .featureState [.createState d] n := by
  obtain ⟨r, hok, -⟩ := answer_eq_ok.1 hrun
  obtain ⟨owner, howner, -, -, hf, hs⟩ := createState_eq_ok hok
  have hput : ∀ id, s'.states.get? id =
      if id = next .featureState s.issued then some (s.newState owner d)
      else s.states.get? id := by
    intro id
    rw [hs, Table.get?_put]
  have htaken : s'.ContextTaken none owner.id d.contextType d.contextId :=
    ⟨next .featureState s.issued, s.newState owner d, by rw [hput, if_pos rfl], nofun, rfl, rfl,
      rfl⟩
  have hrefuses : s'.Refuses (.createState d) .duplicate :=
    refuses_createState_iff.2 (.inr ⟨owner, (ownerOf?_congr hf d).trans howner, htaken, rfl⟩)
  have hadds : Adds s s' .featureState 1 := by
    obtain ⟨-, hfree⟩ := h 0 (Nat.succ_pos n)
    have happends : s'.states.entries =
        s.states.entries ++ [(next .featureState s.issued, s.newState owner d)] := by
      rw [hs]
      exact (Table.appends_put hfree _).2
    exact .states happends hf
  refine makes_of_ok hrun hadds hrefuses (h.issued hshort (run_draws hrun).1 ?_ ?_)
  · intro id _
    rw [hf]
  · intro id hid
    rw [hput, if_neg hid]

/-- One creation adds a record, or is refused. -/
theorem makes_one (hop : op.makes = some e) (h : s.Unused (n + 1)) (hshort : n + 1 ≤ 10 ^ 12) :
    s.Makes e [op] n := by
  cases hrun : s.run op with
  | error err => exact makes_of_error hop h hrun
  | ok x =>
    cases op with
    | createFeature d =>
      cases hop
      exact makes_feature h hshort hrun
    | createState d =>
      cases hop
      exact makes_state h hshort hrun
    | _ => cases hop

theorem accepted_cons (s : Store) (op : Operation) (ops : List Operation) :
    s.accepted (op :: ops) = s.accepted [op] + (s.after op).accepted ops := rfl

/-- **Creations of one kind** add as many records as succeed, are all refused after that, and use up
no more identifiers than they are. -/
theorem afterAll_makes {ops : List Operation} (hops : ∀ op ∈ ops, op.makes = some e)
    (h : s.Unused (ops.length + n)) (hshort : ops.length + n ≤ 10 ^ 12) : s.Makes e ops n := by
  induction ops generalizing s with
  | nil => exact ⟨.none s e, nofun, h.mono (by simp)⟩
  | cons op ops ih =>
    obtain ⟨hop, hrest⟩ := List.forall_mem_cons.1 hops
    rw [List.length_cons, Nat.add_right_comm] at h hshort
    have hfirst : s.Makes e [op] (ops.length + n) := makes_one hop h hshort
    have hothers : (s.after op).Makes e ops n := ih hrest hfirst.unused (by omega)
    refine ⟨?_, List.forall_mem_cons.2 ⟨?_, hothers.refused⟩, hothers.unused⟩
    · rw [accepted_cons]
      exact hfirst.adds.trans hothers.adds
    · obtain ⟨err, hrefuses⟩ := List.forall_mem_singleton.1 hfirst.refused
      exact ⟨err, hothers.adds.refuses hop hrefuses⟩

/-- Creations that are all refused leave the store as it is. -/
theorem afterAll_of_refused {ops : List Operation} (hops : ∀ op ∈ ops, op.makes = some e)
    (hrefused : ∀ op ∈ ops, ∃ err, s.Refuses op err) :
    s.afterAll ops = s ∧ s.accepted ops = 0 := by
  induction ops with
  | nil => exact ⟨rfl, rfl⟩
  | cons op ops ih =>
    obtain ⟨hop, hops⟩ := List.forall_mem_cons.1 hops
    obtain ⟨⟨err, hrefuses⟩, hrefused⟩ := List.forall_mem_cons.1 hrefused
    have hrun := (run_eq_error_of_makes hop).2 hrefuses
    obtain ⟨hsame, hnothing⟩ := ih hops hrefused
    have hafter := after_of_error hrun
    constructor
    · show (s.after op).afterAll ops = s
      rw [hafter, hsame]
    · rw [accepted, hrun, hafter, hnothing]
      rfl

end Store

end FeatureFlags
