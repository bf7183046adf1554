import FeatureFlags.Database.Statement
import FeatureFlags.Failure
import FeatureFlags.Identifier
import FeatureFlags.Log

/-!
# Programs over a database

A program asks a database statements, one after the other, and goes on by the answers. Besides, it
borrows connections, opens and closes transactions, draws identifiers and writes to the log. In the
end it gives a value or fails.

`finish` goes on after either end, and all else is made from it: `bind` goes on after a value, a
transaction is committed after a value and rolled back after a failure, and a connection that was
borrowed is given back in both cases.
-/

namespace FeatureFlags.Database

/-- What is done with connections and transactions. -/
inductive Control where
  | acquire
  | start
  | commit
  | rollback
  | release
  | close
deriving DecidableEq, Repr

def Control.name : Control → String
  | .acquire => "acquire"
  | .start => "begin"
  | .commit => "commit"
  | .rollback => "rollback"
  | .release => "release"
  | .close => "close"

/-- A program that gives an `α` or fails. -/
inductive Program (α : Type) where
  | give (a : α)
  | fail (f : Failure)
  | ask (s : Statement) (next : Except Failure Json → Program α)
  | control (c : Control) (next : Program α)
  | draw (e : Entity) (next : String → Program α)
  | note (entry : Log.Entry) (next : Program α)

namespace Program

variable {α β : Type}

/-- The end that was reached. -/
def ofExcept : Except Failure α → Program α
  | .ok a => give a
  | .error f => fail f

/-- Goes on after the end of a program, whichever it is. -/
def finish : Program α → (Except Failure α → Program β) → Program β
  | .give a, after => after (.ok a)
  | .fail f, after => after (.error f)
  | .ask s next, after => .ask s fun r => (next r).finish after
  | .control c next, after => .control c (next.finish after)
  | .draw e next, after => .draw e fun id => (next id).finish after
  | .note entry next, after => .note entry (next.finish after)

/-- Goes on after a value. -/
def bind (p : Program α) (f : α → Program β) : Program β :=
  p.finish fun
    | .ok a => f a
    | .error e => .fail e

instance : Monad Program where
  pure := .give
  bind := bind

/-- Asks a statement; the failure of a statement is the failure of the program. -/
def query (s : Statement) : Program Json := .ask s ofExcept

/-- Draws a new identifier. -/
def freshId (e : Entity) : Program String := .draw e .give

/-- Writes to the log. -/
def log (entry : Log.Entry) : Program Unit := .note entry (.give ())

/-- Tells of a failure in other words. -/
def mapFailure (f : Failure → Failure) (p : Program α) : Program α :=
  p.finish fun
    | .ok a => .give a
    | .error e => .fail (f e)

/-- Runs a program in a transaction (`conn.transaction`). -/
def transaction (p : Program α) : Program α :=
  .control .start <| p.finish fun
    | .ok a => .control .commit (.give a)
    | .error e => .control .rollback (.fail e)

/-- Runs a program on a connection that is borrowed for it (`pool.acquire`). -/
def withConnection (p : Program α) : Program α :=
  .control .acquire <| p.finish fun r => .control .release (ofExcept r)

end Program

end FeatureFlags.Database
