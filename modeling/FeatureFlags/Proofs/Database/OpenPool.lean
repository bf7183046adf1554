import FeatureFlags.Database.Migration
import FeatureFlags.Proofs.Database.Program

/-!
# Programs that leave the pool open

Closing the pool is a call like any other, so a program could do it. None of the programs of the
store does, and no migration does: whatever the database answers them, their calls close nothing
(`program_leavesOpen`, `Migration.upgrade_leavesOpen`). There is one rule for every way to put
programs together, as for other contracts.
-/

namespace FeatureFlags.Database

/-- Does the call close the pool? -/
def Call.closes : Call → Bool
  | .controlled .close => true
  | _ => false

/-- How many of the calls close the pool. -/
def closings (calls : List Call) : Nat := calls.countP Call.closes

namespace Program

variable {α β σ : Type}

/-- Whatever is answered, the program does not close the pool. -/
def LeavesOpen : Program α → Prop
  | .give _ => True
  | .fail _ => True
  | .ask _ next => ∀ r, (next r).LeavesOpen
  | .control c next => c ≠ .close ∧ next.LeavesOpen
  | .draw _ next => ∀ id, (next id).LeavesOpen
  | .note _ next => next.LeavesOpen

namespace LeavesOpen

/-- A run of such a program adds no closing call to the session. -/
theorem run {p : Program α} (h : p.LeavesOpen) (engine : Engine σ) (w : Session σ) :
    closings (p.run engine w).2.calls = closings w.calls := by
  induction p generalizing w with
  | give a => rfl
  | fail f => rfl
  | ask s next ih =>
    rw [Program.run, ih _ (h _)]
    simp [closings, Session.asked, Call.closes]
  | control c next ih =>
    rw [Program.run, ih h.2]
    have hc : (Call.controlled c).closes = false := by
      cases c with
      | close => exact absurd rfl h.1
      | _ => rfl
    simp [closings, Session.controlled, hc]
  | draw e next ih => exact ih _ (h _) _
  | note entry next ih => exact ih h _

theorem finish {p : Program α} {after : Except Failure α → Program β} (hp : p.LeavesOpen)
    (hafter : ∀ r, (after r).LeavesOpen) : (p.finish after).LeavesOpen := by
  induction p with
  | give a => exact hafter _
  | fail f => exact hafter _
  | ask s next ih => exact fun r => ih r (hp r)
  | control c next ih => exact ⟨hp.1, ih hp.2⟩
  | draw e next ih => exact fun id => ih id (hp id)
  | note entry next ih => exact ih hp

theorem bind {p : Program α} {f : α → Program β} (hp : p.LeavesOpen)
    (hf : ∀ a, (f a).LeavesOpen) : (p >>= f).LeavesOpen := by
  refine hp.finish fun r => ?_
  cases r with
  | ok a => exact hf a
  | error e => exact trivial

theorem map {p : Program α} (f : α → β) (hp : p.LeavesOpen) : (f <$> p).LeavesOpen := by
  rw [map_eq_pure_bind]
  exact hp.bind fun _ => trivial

theorem mapM {f : α → Program β} (hf : ∀ a, (f a).LeavesOpen) (l : List α) :
    (l.mapM f).LeavesOpen := by
  induction l with
  | nil => exact trivial
  | cons a l ih =>
    rw [List.mapM_cons]
    exact (hf a).bind fun _ => ih.bind fun _ => trivial

theorem ofExcept (r : Except Failure α) : (Program.ofExcept r).LeavesOpen := by
  cases r <;> exact trivial

theorem query (s : Statement) : (Program.query s).LeavesOpen := ofExcept

theorem mapFailure {p : Program α} (f : Failure → Failure) (hp : p.LeavesOpen) :
    (p.mapFailure f).LeavesOpen := by
  refine hp.finish fun r => ?_
  cases r <;> exact trivial

theorem transaction {p : Program α} (hp : p.LeavesOpen) : p.transaction.LeavesOpen := by
  refine ⟨by decide, hp.finish fun r => ?_⟩
  cases r with
  | ok a => exact ⟨by decide, trivial⟩
  | error e => exact ⟨by decide, trivial⟩

theorem withConnection {p : Program α} (hp : p.LeavesOpen) : p.withConnection.LeavesOpen :=
  ⟨by decide, hp.finish fun r => ⟨by decide, ofExcept r⟩⟩

end LeavesOpen

end Program

/-! ## Answers -/

open Program (LeavesOpen)

variable {α : Type}

theorem rowOf_leavesOpen (v : Json) : (rowOf v).LeavesOpen := by
  cases v <;> exact trivial

theorem rowOf?_leavesOpen (v : Json) : (rowOf? v).LeavesOpen := by
  unfold rowOf?
  split
  · exact (rowOf_leavesOpen v).map some
  · exact trivial

theorem rowsOf_leavesOpen (v : Json) : (rowsOf v).LeavesOpen := by
  cases v <;> exact trivial

theorem column_leavesOpen (row : Row) (name : String) : (column row name).LeavesOpen := by
  unfold column
  split <;> exact trivial

theorem record_leavesOpen (read : Json → Checked α) (row : Row) :
    (record read row).LeavesOpen := by
  unfold record checked
  split <;> exact trivial

theorem recordOr_leavesOpen (missing : ServiceError) (read : Json → Checked α)
    (row : Option Row) : (recordOr missing read row).LeavesOpen := by
  cases row with
  | none => exact trivial
  | some row => exact record_leavesOpen read row

theorem records_leavesOpen (read : Json → Checked α) (rows : List Json) :
    (records read rows).LeavesOpen :=
  .bind (.mapM rowOf_leavesOpen rows) fun _ => .mapM (record_leavesOpen read) _

theorem isReferenced_leavesOpen (id : String) : (isReferenced id).LeavesOpen :=
  .bind (.query _) fun _ => .ofExcept _

theorem find?_leavesOpen (read : Json → Checked α) (s : Statement) :
    (find? read s).LeavesOpen := by
  refine .bind (.query s) fun v => .bind (rowOf?_leavesOpen v) fun row => ?_
  cases row with
  | none => exact trivial
  | some row => exact (record_leavesOpen read row).map some

theorem givenOr_leavesOpen (text : Option String) (row : Row) (name : String) :
    (givenOr text row name).LeavesOpen := by
  unfold givenOr
  split
  · exact trivial
  · exact column_leavesOpen row name

theorem readState_leavesOpen (id : String) : (readState id).LeavesOpen :=
  .bind (.query _) fun v => .bind (rowOf?_leavesOpen v) fun row => recordOr_leavesOpen _ _ row

theorem ownerOf_leavesOpen (d : FeatureState.Draft) : (ownerOf d).LeavesOpen := by
  unfold ownerOf
  split
  · refine .bind (find?_leavesOpen _ _) fun owner => ?_
    cases owner <;> exact trivial
  · refine .bind (find?_leavesOpen _ _) fun owner => ?_
    cases owner <;> exact trivial
  · exact trivial

/-! ## Operations -/

theorem updateFeature_leavesOpen (id : String) (p : Feature.Patch) :
    (updateFeature id p).LeavesOpen := by
  refine .bind (.withConnection (.transaction ?_)) fun row => recordOr_leavesOpen _ _ row
  refine .bind (.query _) fun v => .bind (rowOf?_leavesOpen v) fun row => ?_
  cases row with
  | none => exact trivial
  | some current =>
    refine .bind (givenOr_leavesOpen _ _ _) fun key => .bind (column_leavesOpen _ _) fun old => ?_
    have hwrite : LeavesOpen (do
        let name ← givenOr p.name current "name"
        let description ← column current "description"
        let description := (p.description.map Json.ofOption).getD description
        .mapFailure (onDuplicate (.keyConflict key.display)) do
          rowOf? (← .query (.updateFeature id key name description)) : Program (Option Row)) :=
      .bind (givenOr_leavesOpen _ _ _) fun name => .bind (column_leavesOpen _ _) fun _ =>
        .mapFailure _ (.bind (.query _) rowOf?_leavesOpen)
    dsimp only
    split
    · refine .bind (isReferenced_leavesOpen id) fun b => ?_
      split
      · exact trivial
      · exact hwrite
    · exact hwrite

theorem deleteFeature_leavesOpen (id : String) : (deleteFeature id).LeavesOpen := by
  refine .bind (.withConnection (.transaction ?_)) fun row => recordOr_leavesOpen _ _ row
  refine .bind (.query _) fun v => .bind (rowOf?_leavesOpen v) fun row => ?_
  cases row with
  | none => exact trivial
  | some current =>
    refine .bind (isReferenced_leavesOpen id) fun b => ?_
    split
    · exact trivial
    · exact .mapFailure _ (.bind (.query _) rowOf?_leavesOpen)

theorem deleteState_leavesOpen (id : String) : (deleteState id).LeavesOpen := by
  refine .bind (.withConnection (.transaction ?_)) fun row => record_leavesOpen _ row
  refine .bind (.query _) fun v => .bind (rowOf?_leavesOpen v) fun row => ?_
  cases row with
  | none => exact trivial
  | some row => exact .bind (.query _) fun _ => trivial

/-- **No operation closes the pool.** -/
theorem program_leavesOpen (op : Operation) : (program op).LeavesOpen := by
  cases op with
  | listFeatures =>
    exact .map _ (.bind (.query _) fun v => .bind (rowsOf_leavesOpen v) (records_leavesOpen _))
  | listStates =>
    exact .map _ (.bind (.query _) fun v => .bind (rowsOf_leavesOpen v) (records_leavesOpen _))
  | getFeature id => exact .map _ (find?_leavesOpen _ _)
  | getFeatureByKey key => exact .map _ (find?_leavesOpen _ _)
  | createFeature d =>
    refine .map _ (fun id => ?_)
    exact .bind (.mapFailure _ (.bind (.query _) rowOf_leavesOpen)) fun row =>
      record_leavesOpen _ row
  | updateFeature id p => exact .map _ (updateFeature_leavesOpen id p)
  | deleteFeature id => exact .map _ (deleteFeature_leavesOpen id)
  | createState d =>
    refine .map _ (.bind (ownerOf_leavesOpen d) fun owner id => ?_)
    exact .bind (.mapFailure _ (.query _)) fun _ => readState_leavesOpen id
  | updateState id p =>
    refine .map _ (.bind (.mapFailure _ (.query _)) fun status => ?_)
    split
    · exact trivial
    · exact readState_leavesOpen id
  | deleteState id => exact .map _ (deleteState_leavesOpen id)

/-! ## Migrations -/

namespace Migration

theorem versionOf_leavesOpen (row : Json) : (versionOf row).LeavesOpen := by
  cases row with
  | object columns =>
    refine .bind (column_leavesOpen columns "version") fun v => ?_
    cases v <;> exact trivial
  | _ => exact trivial

theorem execute_leavesOpen (statements : List Statement) : (execute statements).LeavesOpen := by
  induction statements with
  | nil => exact trivial
  | cons s rest ih => exact .bind (.query s) fun _ => ih

theorem applyAll_leavesOpen (migrations : List Migration) : (applyAll migrations).LeavesOpen := by
  induction migrations with
  | nil => exact trivial
  | cons m rest ih =>
    have happly : m.apply.LeavesOpen := .bind (.transaction (execute_leavesOpen _)) fun _ => trivial
    exact happly.bind fun _ => ih.bind fun _ => trivial

/-- **No migration closes the pool.** -/
theorem upgrade_leavesOpen (migrations : List Migration) : (upgrade migrations).LeavesOpen := by
  refine .withConnection (.bind (.query _) fun _ => .bind (.query _) fun v => ?_)
  refine .bind (rowsOf_leavesOpen v) fun rows => ?_
  exact .bind (.mapM versionOf_leavesOpen rows) fun _ => applyAll_leavesOpen _

end Migration

end FeatureFlags.Database
