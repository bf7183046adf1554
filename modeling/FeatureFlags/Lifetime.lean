import FeatureFlags.Backend
import FeatureFlags.Database.Migration
import FeatureFlags.Settings

/-!
# The lifetime of the service: `lifespan`

What happens before the first request is answered and after the last. A service that is given a
store only says that it starts and stops. A service on a database opens a pool of connections,
brings the tables up to date if it is told to, and closes the pool in the end, also when something
failed in between. A failure before the service has started ends everything at once.
-/

namespace FeatureFlags.Lifetime

/-- What a pool of connections is opened with. -/
structure PoolOptions where
  address : String
  least : Int
  most : Int
  timeout : Binary64
deriving DecidableEq, Repr

/-- The pool that the settings ask for (`create_pool`). -/
def poolOptions (s : Settings) : PoolOptions :=
  ⟨s.databaseUrl, s.poolMin, s.poolMax, s.commandTimeout⟩

def appLogger : String := "app.main"
def poolLogger : String := "app.db.pool"

variable {σ α : Type}

/-- An entry of the level `INFO`. -/
def say (logger message : String) : Service σ Unit := Service.log ⟨.info, logger, message, []⟩

/-- Does `after` when `body` has ended, whichever way; a failure of `after` comes first. -/
def ensuring (body : Service σ α) (after : Service σ Unit) : Service σ α :=
  ExceptT.mk do
    let r ← body.run
    match ← after.run with
    | .ok () => return r
    | .error f => return .error f

/-- The lifetime of a service that is given its store (`lifespan` with a `flag_store`). -/
def withStore (body : Service σ α) : Service σ α := do
  say appLogger "Starting flag service"
  ensuring body (say appLogger "Flag service stopped")

section

variable {τ : Type} (engine : Database.Engine τ)

/-- Opens the pool, if it can be opened (`create_pool`). -/
def openPool (s : Settings) (opened : Except Failure Unit) : Service (Database.Session τ) Unit := do
  ofExcept opened
  say poolLogger ("Database pool created (max_size=" ++ toString s.poolMax ++ ")")

/-- Brings the tables up to date (`apply_migrations`). -/
def upgrade : Service (Database.Session τ) Unit := do
  let versions ← Service.onDatabase engine (Database.Migration.upgrade Database.Migration.all)
  say appLogger ("Migration done (" ++ toString versions.length ++ " applied)")

/-- Closes the pool (`close_pool`). -/
def closePool : Service (Database.Session τ) Unit := do
  Service.onDatabase engine (.control .close (.give ()))
  say poolLogger "Database pool closed"

/-- The lifetime of a service on a database (`lifespan` without a `flag_store`); `opened` says
whether the pool can be opened. -/
def withDatabase (s : Settings) (opened : Except Failure Unit)
    (body : Service (Database.Session τ) α) : Service (Database.Session τ) α := do
  say appLogger "Starting flag service"
  openPool s opened
  if s.runMigrations then upgrade engine
  ensuring body do
    closePool engine
    say appLogger "Flag service stopped"

end

end FeatureFlags.Lifetime
