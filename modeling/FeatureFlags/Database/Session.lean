import FeatureFlags.Database.Program

/-!
# Sessions

Running programs on a database. An engine says what the database answers and how connections and
transactions change it; a session keeps the database, every call in order, the number of
identifiers that were drawn, and the log.

A scripted database is one whose answers are laid down beforehand, in one queue for each kind of
answer; when a queue is empty, the answer is nothing.
-/

namespace FeatureFlags.Database

/-- A call that a database gets. -/
inductive Call where
  | asked (s : Statement)
  | controlled (c : Control)

/-- How a database with contents `σ` behaves. -/
structure Engine (σ : Type) where
  answer : σ → Statement → Except Failure Json × σ
  control : σ → Control → σ

/-- A database in use. -/
structure Session (σ : Type) where
  database : σ
  issued : Nat
  calls : List Call
  entries : List Log.Entry

namespace Session

variable {σ : Type}

def new (database : σ) : Session σ := ⟨database, 0, [], []⟩

def asked (engine : Engine σ) (s : Statement) (w : Session σ) : Except Failure Json × Session σ :=
  let (r, database) := engine.answer w.database s
  (r, { w with database := database, calls := w.calls ++ [.asked s] })

def controlled (engine : Engine σ) (c : Control) (w : Session σ) : Session σ :=
  { w with
    database := engine.control w.database c
    calls := w.calls ++ [.controlled c] }

def drawn (w : Session σ) : Session σ := { w with issued := w.issued + 1 }

def noted (entry : Log.Entry) (w : Session σ) : Session σ :=
  { w with entries := w.entries ++ [entry] }

end Session

/-- Runs a program in a session. -/
def Program.run {σ α : Type} (engine : Engine σ) :
    Program α → Session σ → Except Failure α × Session σ
  | .give a, w => (.ok a, w)
  | .fail f, w => (.error f, w)
  | .ask s next, w =>
    let (r, w) := w.asked engine s
    (next r).run engine w
  | .control c next, w => next.run engine (w.controlled engine c)
  | .draw e next, w => (next (Identifier.next e w.issued)).run engine w.drawn
  | .note entry next, w => next.run engine (w.noted entry)

/-! ## Scripted databases -/

/-- The answers that are left, by kind. -/
structure Script where
  rows : List (Except Failure Json)
  row : List (Except Failure Json)
  value : List (Except Failure Json)
  status : List (Except Failure Json)

namespace Script

/-- The next answer of a kind: the first of its queue. -/
def next (s : Script) : Want → Except Failure Json × Script
  | .rows =>
    (match s.rows.headD (.ok .null) with
      | .ok .null => .ok (.array [])
      | r => r, { s with rows := s.rows.tail })
  | .row => (s.row.headD (.ok .null), { s with row := s.row.tail })
  | .value => (s.value.headD (.ok .null), { s with value := s.value.tail })
  | .status => (s.status.headD (.ok .null), { s with status := s.status.tail })

/-- A scripted database answers by its queues, whatever it is asked. -/
def engine : Engine Script where
  answer s statement := s.next statement.want
  control s _ := s

end Script

end FeatureFlags.Database
