import FeatureFlags.Database.FlagTables
import FeatureFlags.Database.Session
import FeatureFlags.Store.Outage

/-!
# Backends

A backend is a store that the service runs on: the store in memory, perhaps with outages, or the
store in a database. It runs operations on contents of its own kind; whatever is written to the log
meanwhile is kept beside the contents, in order.
-/

namespace FeatureFlags

/-- The contents of a backend, and the log. -/
structure Served (σ : Type) where
  contents : σ
  entries : List Log.Entry

/-- An activity of the service: it may change the contents, writes to the log, and may fail. -/
abbrev Service (σ α : Type) := ExceptT Failure (StateM (Served σ)) α

namespace Service

variable {σ : Type}

/-- Writes to the log. -/
def log (entry : Log.Entry) : Service σ Unit :=
  modify fun w => { w with entries := w.entries ++ [entry] }

/-- Runs a program on the database that is the contents. -/
def onDatabase {τ α : Type} (engine : Database.Engine τ) (p : Database.Program α) :
    Service (Database.Session τ) α :=
  ExceptT.mk fun w =>
    let (r, session) := p.run engine { w.contents with entries := [] }
    (r, { contents := session, entries := w.entries ++ session.entries })

end Service

/-- How operations are run on contents `σ`: a `FlagStore`. -/
structure Backend (σ : Type) where
  run : Operation → Service σ Reply

namespace Backend

/-- The store in memory (`InMemoryFlagStore`), with outages; an operation that fails leaves the
store as it was. -/
def memory (out : Outages) : Backend Store where
  run op := ExceptT.mk fun w =>
    match w.contents.runWith out op with
    | .ok (reply, store) => (.ok reply, { w with contents := store })
    | .error f => (.error f, w)

/-- The store in a database (`PostgresFlagStore`). -/
def database {τ : Type} (engine : Database.Engine τ) : Backend (Database.Session τ) where
  run op := Service.onDatabase engine (Database.program op)

/-- A store that is not there, as `get_flag_store` gives it before a service has started. -/
def absent {σ : Type} : Backend σ where
  run op := throw (.noPart "NoneType" op.method.name)

end Backend

end FeatureFlags
