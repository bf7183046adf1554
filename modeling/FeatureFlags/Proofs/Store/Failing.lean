import FeatureFlags.Proofs.Store.Procedure
import FeatureFlags.Proofs.Store.Step

/-!
# Operations that fail

Work that gives up leaves behind what it has done, so that a failed operation changes nothing is
for its text to show: every test comes before the first draw and the first write, and the one that
does not, of a state to delete, comes after a write that did nothing.
-/

namespace FeatureFlags.Store

/-- The outcome of an operation with the store after it; a failed one leaves the store. -/
def settled {α : Type} (s : Store) : Except ServiceError (α × Store) → Except ServiceError α × Store
  | .ok (a, s') => (.ok a, s')
  | .error e => (.error e, s)

namespace Work

variable {α β : Type} {s : Store}

/-! ## Steps -/

theorem run_bind (a : Work α) (f : α → Work β) (s : Store) :
    (a >>= f).run.run s =
      match a.run.run s with
      | (.ok x, s) => (f x).run.run s
      | (.error e, s) => (.error e, s) := by
  simp only [ExceptT.run_bind, StateT.run_bind]
  rcases a.run.run s with ⟨_ | _, _⟩ <;> rfl

theorem run_map (f : α → β) (a : Work α) (s : Store) :
    (f <$> a).run.run s = ((a.run.run s).1.map f, (a.run.run s).2) := by
  simp only [ExceptT.run_map, StateT.run_map]
  rcases a.run.run s with ⟨_ | _, _⟩ <;> rfl

theorem run_get (s : Store) : (get : Work Store).run.run s = (.ok s, s) := rfl

theorem run_throw (e : ServiceError) (s : Store) :
    (throw e : Work α).run.run s = (.error e, s) := rfl

theorem run_popState? (id : String) (s : Store) :
    (popState? id).run.run s =
      (.ok (s.states.get? id), { s with states := s.states.erase id }) := rfl

/-! ## Operations -/

theorem run_createFeature (d : Feature.Draft) (s : Store) :
    (createFeature d).run.run s = settled s (s.createFeature d) := by
  unfold createFeature Store.createFeature
  simp only [run_bind, run_get]
  cases (s.featureByKey? d.key).isSome <;> rfl

theorem run_updateFeature (id : String) (p : Feature.Patch) (s : Store) :
    (updateFeature id p).run.run s = settled s (s.updateFeature id p) := by
  unfold updateFeature Store.updateFeature
  simp only [run_bind, run_get]
  cases s.feature? id with
  | none => rfl
  | some f =>
    cases hkey : newKey? f p with
    | none => simp only [run_bind, hkey]; rfl
    | some key =>
      simp only [run_bind, run_get, hkey, Option.bind_some, keyError?]
      cases s.isReferenced id with
      | true => rfl
      | false =>
        simp only [Bool.false_eq_true, if_false, run_bind, run_get]
        cases (s.featureByKey? key).isSome <;> rfl

theorem run_deleteFeature (id : String) (s : Store) :
    (deleteFeature id).run.run s = settled s (s.deleteFeature id) := by
  unfold deleteFeature Store.deleteFeature
  simp only [run_bind, run_get]
  cases s.feature? id with
  | none => rfl
  | some f =>
    simp only [run_bind, run_get]
    cases s.isReferenced id <;> rfl

theorem run_createState (d : FeatureState.Draft) (s : Store) :
    (createState d).run.run s = settled s (s.createState d) := by
  unfold createState Store.createState
  simp only [run_bind, run_get]
  cases s.ownerOf? d with
  | none => rfl
  | some owner =>
    simp only [run_bind, run_get, ensureUnique]
    cases s.hasState none owner.id d.contextType d.contextId <;> rfl

theorem run_updateState (id : String) (p : FeatureState.Patch) (s : Store) :
    (updateState id p).run.run s = settled s (s.updateState id p) := by
  unfold updateState Store.updateState
  simp only [run_bind, run_get]
  cases s.states.get? id with
  | none => rfl
  | some state =>
    cases howner : newOwner? state p with
    | none => simp only [howner]; rfl
    | some owner =>
      simp only [run_bind, run_get, howner, Option.filter_some]
      cases s.feature? owner with
      | none => rfl
      | some _ =>
        simp only [Option.isNone_some, Option.isSome_some, Bool.false_eq_true, if_false, if_true,
          run_bind, run_get, ensureUnique]
        cases s.hasState (some id) owner p.contextType p.contextId <;> rfl

theorem run_deleteState (id : String) (s : Store) :
    (deleteState id).run.run s = settled s (s.deleteState id) := by
  unfold deleteState Store.deleteState
  simp only [run_bind, run_popState?]
  cases hstate : s.states.get? id with
  | none =>
    -- nothing was there to take out
    simp only [run_throw, settled, Table.erase_of_get?_eq_none hstate]
  | some state => rfl

end Work

/-! ## One operation -/

theorem settled_map {α β : Type} (reply : α → β) (s : Store)
    (r : Except ServiceError (α × Store)) :
    settled s (r.map fun (a, s') => (reply a, s')) =
      ((settled s r).1.map reply, (settled s r).2) := by
  rcases r with _ | ⟨_, _⟩ <;> rfl

/-- Operations that are performed step by step do what they do at once. -/
theorem run_perform (s : Store) (op : Operation) :
    (perform op).run.run s = settled s (s.run op) := by
  cases op with
  | listFeatures | listStates | getFeature | getFeatureByKey => rfl
  | createFeature d => rw [perform, Work.run_map, Work.run_createFeature, run, answer, settled_map]
  | updateFeature id p =>
    rw [perform, Work.run_map, Work.run_updateFeature, run, answer, settled_map]
  | deleteFeature id => rw [perform, Work.run_map, Work.run_deleteFeature, run, answer, settled_map]
  | createState d => rw [perform, Work.run_map, Work.run_createState, run, answer, settled_map]
  | updateState id p => rw [perform, Work.run_map, Work.run_updateState, run, answer, settled_map]
  | deleteState id => rw [perform, Work.run_map, Work.run_deleteState, run, answer, settled_map]

/-- The store is left as it was by an operation that fails. -/
theorem eq_of_perform_error {s s' : Store} {op : Operation} {e : ServiceError}
    (h : (perform op).run.run s = (.error e, s')) : s' = s := by
  rw [run_perform] at h
  cases hrun : s.run op with
  | ok r =>
    rw [hrun] at h
    cases h
  | error e' =>
    rw [hrun] at h
    cases h
    rfl

/-! ## Runs -/

/-- The second list of outcomes is the first without some of those that are failures. -/
inductive Sheds : Outcomes → Outcomes → Prop where
  | nil : Sheds [] []
  | keep (outcome : Operation × Except ServiceError Reply) {outcomes kept : Outcomes} :
      Sheds outcomes kept → Sheds (outcome :: outcomes) (outcome :: kept)
  | drop (op : Operation) (e : ServiceError) {outcomes kept : Outcomes} :
      Sheds outcomes kept → Sheds ((op, .error e) :: outcomes) kept

theorem performAll_cons {s s' : Store} {op : Operation} {r : Except ServiceError Reply}
    (h : (perform op).run.run s = (r, s')) (ops : List Operation) :
    s.performAll (op :: ops) = ((op, r) :: (s'.performAll ops).1, (s'.performAll ops).2) := by
  simp only [performAll, h]

theorem performAll_append (s : Store) (before rest : List Operation) :
    s.performAll (before ++ rest) =
      ((s.performAll before).1 ++ ((s.performAll before).2.performAll rest).1,
        ((s.performAll before).2.performAll rest).2) := by
  induction before generalizing s with
  | nil => rfl
  | cons op before ih =>
    obtain ⟨r, s', hrun⟩ : ∃ r s', (perform op).run.run s = (r, s') := ⟨_, _, rfl⟩
    rw [List.cons_append, performAll_cons hrun, performAll_cons hrun, ih]
    rfl

/-- An operation that fails is not noticed by those after it. -/
theorem performAll_cons_of_error {s : Store} {op : Operation} {e : ServiceError}
    (h : ((perform op).run.run s).1 = .error e) (ops : List Operation) :
    s.performAll (op :: ops) = ((op, .error e) :: (s.performAll ops).1, (s.performAll ops).2) := by
  have hrun : (perform op).run.run s = (.error e, ((perform op).run.run s).2) := Prod.ext h rfl
  rw [eq_of_perform_error hrun] at hrun
  exact performAll_cons hrun ops

/-- What is kept of a run that sheds failures is a run, and it ends where the whole run does. -/
theorem performAll_of_sheds {s : Store} {ops : List Operation} {kept : Outcomes}
    (h : Sheds (s.performAll ops).1 kept) :
    s.performAll (kept.map Prod.fst) = (kept, (s.performAll ops).2) := by
  induction ops generalizing s kept with
  | nil =>
    cases h
    rfl
  | cons op ops ih =>
    obtain ⟨r, s', hrun⟩ : ∃ r s', (perform op).run.run s = (r, s') := ⟨_, _, rfl⟩
    rw [performAll_cons hrun] at h ⊢
    cases h with
    | keep _ h => rw [List.map_cons, performAll_cons hrun, ih h]
    | drop _ e h =>
      obtain rfl := eq_of_perform_error hrun
      exact ih h

/-- The outcomes that are not failures. -/
def successes (outcomes : Outcomes) : Outcomes := outcomes.filter fun o => o.2.toOption.isSome

/-- All failures can be shed at once. -/
theorem sheds_successes (outcomes : Outcomes) : Sheds outcomes (successes outcomes) := by
  induction outcomes with
  | nil => exact .nil
  | cons outcome outcomes ih =>
    obtain ⟨op, _ | r⟩ := outcome
    · exact .drop op _ ih
    · exact .keep (op, .ok r) ih

/-- **Operations that fail have no effect.** Whatever a store holds, operations that are performed
step by step give what they give at once, and one that fails leaves the records and their order,
the count of identifiers and the clock as they were. Failures can be left out of a run, any of them
at once, and what fails can be put in anywhere: the other outcomes stay what they are and the run
ends in the same store. -/
theorem failures_have_no_effect :
    (∀ s op, (perform op).run.run s = settled s (s.run op)) ∧
      (∀ s op e s', (perform op).run.run s = (.error e, s') → s' = s) ∧
      (∀ s ops kept, Sheds (performAll s ops).1 kept →
        s.performAll (kept.map Prod.fst) = (kept, (s.performAll ops).2)) ∧
      (∀ s before op rest e, ((perform op).run.run (performAll s before).2).1 = .error e →
        ∃ after s', s.performAll (before ++ rest) = ((s.performAll before).1 ++ after, s') ∧
          s.performAll (before ++ op :: rest) =
            ((s.performAll before).1 ++ (op, .error e) :: after, s')) := by
  refine ⟨run_perform, fun s op e s' h => eq_of_perform_error h,
    fun s ops kept h => performAll_of_sheds h, ?_⟩
  intro s before op rest e h
  refine ⟨_, _, performAll_append s before rest, ?_⟩
  rw [performAll_append, performAll_cons_of_error h]

/-- A feature under another identifier than its own, and a state that nobody owns. -/
def strays : Store where
  features := .ofList [("ftr_1", ⟨"ftr_2", "checkout", "Checkout", none, none, none⟩)]
  states := .ofList [("fst_1", ⟨some "fst_1", none, none, .global, none, true, none, none⟩)]
  issued := 0
  readings := 0

/-- One feature is created, and whatever else is tried fails. -/
def mishaps : List Operation :=
  [.deleteState "fst_2", .deleteFeature "ftr_2", .createFeature ⟨"search", "Search", none⟩,
    .createFeature ⟨"checkout", "Again", none⟩, .updateState "fst_1" ⟨none, .global, none, false⟩]

theorem failures_have_no_effect_strays :
    ((strays.performAll mishaps).1.map fun o => o.2.toOption.isSome) =
        [false, false, true, false, false] ∧
      strays.performAll [.createFeature ⟨"search", "Search", none⟩] =
        (successes (strays.performAll mishaps).1, (strays.performAll mishaps).2) := by
  have hkept : (successes (strays.performAll mishaps).1).map Prod.fst =
      [.createFeature ⟨"search", "Search", none⟩] := by
    decide +kernel
  obtain ⟨-, -, hsheds, -⟩ := failures_have_no_effect
  have hrun := hsheds strays mishaps _ (sheds_successes _)
  rw [hkept] at hrun
  exact ⟨by decide +kernel, hrun⟩

end FeatureFlags.Store
