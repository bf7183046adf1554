import FeatureFlags.Lifetime
import FeatureFlags.Proofs.Database.OpenPool
import FeatureFlags.Proofs.Http.Invariant
import FeatureFlags.Proofs.Settings

/-!
# Who closes the pool

Nothing closes the pool but the end of the service: no operation does and no migration does, so
answering requests closes nothing. What is left is to follow the lifetime of a service from its
first line to its last.

A service that has started closes its pool once, as the last call of all, also when it is broken off
(`withDatabase_closes`). The pool is opened before the tables are brought up to date, though, and
the end is looked after only from there on: a migration that fails leaves the pool open
(`not_closed_once`).
-/

namespace FeatureFlags.Lifetime

open Database (Engine Migration Script Session closings)

variable {σ τ α : Type} {P : σ → Prop}

/-- A service that answers requests and then ends, in the way that is given. -/
def serving [Json.DepthLimit] (s : Settings) (b : Backend σ) (requests : List Http.Request)
    (ended : Except Failure Unit) : Service σ (List Http.Response) := do
  let responses ← ExceptT.lift (Http.respondAll s b requests)
  MonadExcept.ofExcept ended
  return responses

/-- The service comes to its first request: the pool can be opened, and the tables are up to date or
need not be. -/
def Starts (engine : Engine τ) (s : Settings) (opened : Except Failure Unit) (database : τ) :
    Prop :=
  opened = .ok () ∧ (s.runMigrations = true → ∃ versions,
    ((Migration.upgrade Migration.all).run engine (.new database)).1 = .ok versions)

/-! ## Activities that close nothing -/

theorem serving_keeps [Json.DepthLimit] {b : Backend σ} (hb : b.Keeps P) (s : Settings)
    (requests : List Http.Request) (ended : Except Failure Unit) :
    Keeps P (serving s b requests ended).run :=
  .andThen (.lift (hb.respondAll s requests)) fun _ =>
    .andThen (.ofExcept ended) fun _ => .give _

/-- The session has had so many closing calls. -/
def Closed (n : Nat) (w : Session τ) : Prop := closings w.calls = n

section

variable (engine : Engine τ) {n : Nat}

theorem onDatabase_keeps_closed {p : Database.Program α} (hp : p.LeavesOpen) :
    Keeps (Closed n) (Service.onDatabase engine p).run :=
  fun w h => (hp.run engine { w.contents with entries := [] }).trans h

theorem database_keeps_closed : (Backend.database engine).Keeps (Closed n) :=
  fun op => onDatabase_keeps_closed engine (Database.program_leavesOpen op)

theorem openPool_keeps (s : Settings) (opened : Except Failure Unit) :
    Keeps (Closed n) (openPool s opened : Service (Session τ) Unit).run :=
  .andThen (.ofExcept opened) fun _ => .log _

theorem upgrade_keeps : Keeps (Closed n) (upgrade engine).run :=
  .andThen (onDatabase_keeps_closed engine (Migration.upgrade_leavesOpen _)) fun _ => .log _

/-! ## From the first line to the first request -/

/-- All that a service on a database does before its first request. -/
def start (s : Settings) (opened : Except Failure Unit) : Service (Session τ) Unit := do
  say appLogger "Starting flag service"
  openPool s opened
  if s.runMigrations then upgrade engine

/-- All that it does after its last request. -/
def stop : Service (Session τ) Unit := do
  closePool engine
  say appLogger "Flag service stopped"

theorem withDatabase_eq (s : Settings) (opened : Except Failure Unit)
    (body : Service (Session τ) α) :
    withDatabase engine s opened body =
      start engine s opened >>= fun _ => ensuring body (stop engine) := by
  unfold withDatabase start stop
  cases s.runMigrations <;> simp

theorem start_keeps (s : Settings) (opened : Except Failure Unit) :
    Keeps (Closed n) (start engine s opened).run := by
  refine .andThen (.log _) fun _ => .andThen (openPool_keeps s opened) fun _ => ?_
  split
  · exact upgrade_keeps engine
  · exact .give _

theorem upgrade_ok_iff (w : Served (Session τ)) :
    ((upgrade engine).run.run w).1 = .ok () ↔ ∃ versions,
      ((Migration.upgrade Migration.all).run engine { w.contents with entries := [] }).1 =
        .ok versions := by
  have hrun : ((Service.onDatabase engine (Migration.upgrade Migration.all)).run.run w).1 =
      ((Migration.upgrade Migration.all).run engine { w.contents with entries := [] }).1 := rfl
  rw [upgrade, Service.run_bind, ← hrun]
  rcases (Service.onDatabase engine (Migration.upgrade Migration.all)).run.run w with ⟨_ | _, _⟩
  · simp
  · exact iff_of_true rfl ⟨_, rfl⟩

theorem start_ok_iff (s : Settings) (opened : Except Failure Unit) (database : τ)
    (entries : List Log.Entry) :
    ((start engine s opened).run.run ⟨.new database, entries⟩).1 = .ok () ↔
      Starts engine s opened database := by
  unfold start Starts
  cases opened with
  | error f => exact iff_of_false nofun nofun
  | ok u =>
    cases s.runMigrations with
    | false => exact iff_of_true rfl ⟨rfl, nofun⟩
    | true =>
      refine (upgrade_ok_iff engine ⟨.new database, _⟩).trans ?_
      exact ⟨fun h => ⟨rfl, fun _ => h⟩, fun h => h.2 rfl⟩

/-! ## From the last request on -/

theorem ensuring_contents (body : Service σ α) (after : Service σ Unit) (w : Served σ) :
    ((ensuring body after).run.run w).2 = (after.run.run (body.run.run w).2).2 := by
  simp only [ensuring, ExceptT.run_mk, StateT.run_bind]
  simp only [bind]
  rcases after.run.run (body.run.run w).2 with ⟨_ | _, _⟩ <;> rfl

theorem stop_calls (w : Served (Session τ)) :
    ((stop engine).run.run w).2.contents.calls = w.contents.calls ++ [.controlled .close] :=
  rfl

/-! ## The whole lifetime -/

/-- A service that starts closes its pool last of all and not before, whatever comes of its body, as
long as the body closes nothing itself. -/
theorem withDatabase_calls_of_starts {s : Settings} {opened : Except Failure Unit} {database : τ}
    (h : Starts engine s opened database) {body : Service (Session τ) α}
    (hbody : Keeps (Closed 0) body.run) (entries : List Log.Entry) :
    ∃ served, ((withDatabase engine s opened body).run.run
        ⟨.new database, entries⟩).2.contents.calls = served ++ [.controlled .close] ∧
      closings served = 0 := by
  have hstart := (start_ok_iff engine s opened database entries).mpr h
  have hkeeps := start_keeps engine (n := 0) s opened ⟨.new database, entries⟩ rfl
  rw [withDatabase_eq, Service.run_bind]
  rcases hrun : (start engine s opened).run.run ⟨.new database, entries⟩ with ⟨r, w⟩
  rw [hrun] at hstart hkeeps
  subst hstart
  show ∃ served, ((ensuring body (stop engine)).run.run w).2.contents.calls = _ ∧ _
  rw [ensuring_contents, stop_calls]
  exact ⟨_, rfl, hbody w hkeeps⟩

/-- A service that does not start fails and closes nothing, whatever its body is. -/
theorem withDatabase_of_not_starts {s : Settings} {opened : Except Failure Unit} {database : τ}
    (h : ¬ Starts engine s opened database) (body : Service (Session τ) α)
    (entries : List Log.Entry) :
    let run := (withDatabase engine s opened body).run.run ⟨.new database, entries⟩
    closings run.2.contents.calls = 0 ∧ ∃ f, run.1 = .error f := by
  have hstart := mt (start_ok_iff engine s opened database entries).mp h
  have hkeeps := start_keeps engine (n := 0) s opened ⟨.new database, entries⟩ rfl
  rw [withDatabase_eq, Service.run_bind]
  rcases hrun : (start engine s opened).run.run ⟨.new database, entries⟩ with ⟨_ | _, w⟩ <;>
    rw [hrun] at hstart hkeeps
  · exact ⟨hkeeps, _, rfl⟩
  · exact absurd rfl hstart

/-- **The pool of a service is closed exactly if the service has started.** Then it is closed once,
after all that was asked of it, also when the body of the service fails. Of a service that has not
started the pool is never closed, be it that there is none or that a migration failed. -/
theorem withDatabase_closes [Json.DepthLimit] (database : τ) (s : Settings)
    (opened : Except Failure Unit) (requests : List Http.Request) (ended : Except Failure Unit) :
    let run := (withDatabase engine s opened (serving s (.database engine) requests ended)).run.run
      ⟨.new database, []⟩
    (Starts engine s opened database →
      ∃ served, run.2.contents.calls = served ++ [.controlled .close] ∧ closings served = 0) ∧
    (¬ Starts engine s opened database →
      closings run.2.contents.calls = 0 ∧ ∃ f, run.1 = .error f) := by
  have hbody : Keeps (Closed 0) (serving s (.database engine) requests ended).run :=
    serving_keeps (database_keeps_closed engine) s requests ended
  exact ⟨fun h => withDatabase_calls_of_starts engine h hbody [],
    fun h => withDatabase_of_not_starts engine h _ []⟩

end

/-! ## A table that cannot be made -/

/-- A database that has nothing to tell. -/
def silent : Script := ⟨[], [], [], []⟩

/-- A database that refuses to make the table of versions. -/
def denied : Script := ⟨[], [], [], [.error (.database .general "permission denied")]⟩

theorem denied_not_starts : ¬ Starts Script.engine .plain (.ok ()) denied := by
  rintro ⟨-, h⟩
  obtain ⟨versions, h⟩ := h rfl
  cases h

/-- A request for the features. -/
def listing : Http.Request :=
  ⟨"GET", ⟨"http", "", "testserver", none, "/features", none, none⟩, [], ""⟩

/-- How a service ends that is broken off. -/
def brokenOff : Except Failure Unit := .error (.runtime "interrupted")

/-- Broken off after its only request, the service closes its pool. Where its tables cannot be made
it does not. -/
theorem withDatabase_closes_brokenOff :
    (Starts Script.engine .plain (.ok ()) silent ∧ ∃ served,
      ((withDatabase Script.engine .plain (.ok ())
        (serving .plain (.database Script.engine) [listing] brokenOff)).run.run
          ⟨.new silent, []⟩).2.contents.calls = served ++ [.controlled .close] ∧
      closings served = 0) ∧
    (¬ Starts Script.engine .plain (.ok ()) denied ∧
      closings ((withDatabase Script.engine .plain (.ok ())
        (serving .plain (.database Script.engine) [listing] brokenOff)).run.run
          ⟨.new denied, []⟩).2.contents.calls = 0) := by
  have hstarts : Starts Script.engine .plain (.ok ()) silent := ⟨rfl, fun _ => ⟨_, rfl⟩⟩
  have hsilent := withDatabase_closes Script.engine silent .plain (.ok ()) [listing] brokenOff
  have hdenied := withDatabase_closes Script.engine denied .plain (.ok ()) [listing] brokenOff
  exact ⟨⟨hstarts, hsilent.1 hstarts⟩, denied_not_starts, (hdenied.2 denied_not_starts).1⟩

/-- The pool is open, then the first migration is refused: the connection is given back, and nothing
closes the pool. -/
theorem not_closed_once :
    ¬ ∀ (τ : Type) (engine : Engine τ) (database : τ) (s : Settings)
      (opened : Except Failure Unit) (requests : List Http.Request) (ended : Except Failure Unit),
      opened = .ok () → closings ((withDatabase engine s opened
        (serving s (.database engine) requests ended)).run.run
          ⟨.new database, []⟩).2.contents.calls = 1 := by
  intro hall
  have hone := hall Script Script.engine denied .plain (.ok ()) [] (.ok ()) rfl
  have hnone := (withDatabase_of_not_starts Script.engine denied_not_starts
    (serving .plain (.database Script.engine) [] (.ok ())) []).1
  omega

end FeatureFlags.Lifetime
