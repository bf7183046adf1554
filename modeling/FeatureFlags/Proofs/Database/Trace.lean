import FeatureFlags.Proofs.Database.Program

/-!
# What a program asks and what it is told

`Program.events` is the log of a run with the answers in it. It is taken from an engine that may
answer a statement by anything, so what holds of the events of every run holds whatever the
connection answers, and whatever other clients do between two statements.

`Program.Always` is a contract over events: under every sequence of answers the program ends as it
says. There is one rule for every way to put programs together; with them a contract is proved
along the text of the program, once, and holds of all its runs (`Program.Always.run`).
-/

namespace FeatureFlags.Database

/-- A call with the answer that a statement got. -/
inductive Event where
  | asked (s : Statement) (answer : Except Failure Json)
  | controlled (c : Control)

def Event.call : Event → Call
  | .asked s _ => .asked s
  | .controlled c => .controlled c

namespace Program

variable {α β σ : Type}

/-- The calls of a run with their answers, in order. -/
def events (engine : Engine σ) : Program α → Session σ → List Event
  | .give _, _ => []
  | .fail _, _ => []
  | .ask s next, w =>
    let (r, w) := w.asked engine s
    .asked s r :: (next r).events engine w
  | .control c next, w => .controlled c :: next.events engine (w.controlled engine c)
  | .draw e next, w => (next (Identifier.next e w.issued)).events engine w.drawn
  | .note entry next, w => next.events engine (w.noted entry)

variable (engine : Engine σ) (w : Session σ)

/-- What a session records of a run are the calls of its events. -/
theorem calls_run (p : Program α) :
    (p.run engine w).2.calls = w.calls ++ (p.events engine w).map Event.call := by
  induction p generalizing w with
  | give a => simp [run, events]
  | fail f => simp [run, events]
  | ask s next ih => simp [run, events, ih, Session.asked, Event.call]
  | control c next ih => simp [run, events, ih, Session.controlled, Event.call]
  | draw e next ih => exact ih _ _
  | note entry next ih => exact ih _

theorem events_finish (p : Program α) (after : Except Failure α → Program β) :
    (p.finish after).events engine w =
      p.events engine w ++ (after (p.run engine w).1).events engine (p.run engine w).2 := by
  induction p generalizing w with
  | give a => rfl
  | fail f => rfl
  | ask s next ih => exact congrArg _ (ih _ _)
  | control c next ih => exact congrArg _ (ih _)
  | draw e next ih => exact ih _ _
  | note entry next ih => exact ih _

theorem run_bind (p : Program α) (f : α → Program β) :
    (p >>= f).run engine w =
      (ofExcept (p.run engine w).1 >>= f).run engine (p.run engine w).2 := by
  refine (run_finish engine w p _).trans ?_
  cases (p.run engine w).1 with
  | ok a => rfl
  | error e => rfl

theorem events_bind (p : Program α) (f : α → Program β) :
    (p >>= f).events engine w =
      p.events engine w ++ (ofExcept (p.run engine w).1 >>= f).events engine (p.run engine w).2 := by
  refine (events_finish engine w p _).trans ?_
  cases (p.run engine w).1 with
  | ok a => rfl
  | error e => rfl

/-! ## Contracts over events -/

/-- Whatever is answered, the program ends as `post` says of all events up to its end, those of
`past` before its own. -/
def Always : Program α → List Event → (List Event → Except Failure α → Prop) → Prop
  | .give a, past, post => post past (.ok a)
  | .fail f, past, post => post past (.error f)
  | .ask s next, past, post => ∀ r, (next r).Always (past ++ [.asked s r]) post
  | .control c next, past, post => next.Always (past ++ [.controlled c]) post
  | .draw _ next, past, post => ∀ id, (next id).Always past post
  | .note _ next, past, post => next.Always past post

namespace Always

variable {past : List Event} {post post' : List Event → Except Failure α → Prop}

/-- Every run ends as the contract says. -/
theorem run {p : Program α} (h : p.Always past post) :
    post (past ++ p.events engine w) (p.run engine w).1 := by
  induction p generalizing past w with
  | give a => simpa [events, Program.run, Always] using h
  | fail f => simpa [events, Program.run, Always] using h
  | ask s next ih => simpa [events, Program.run] using ih _ _ (h _)
  | control c next ih => simpa [events, Program.run] using ih _ h
  | draw e next ih => exact ih _ _ (h _)
  | note entry next ih => exact ih _ h

theorem mono {p : Program α} (hp : p.Always past post) (h : ∀ es r, post es r → post' es r) :
    p.Always past post' := by
  induction p generalizing past with
  | give a => exact h _ _ hp
  | fail f => exact h _ _ hp
  | ask s next ih => exact fun r => ih r (hp r)
  | control c next ih => exact ih hp
  | draw e next ih => exact fun id => ih id (hp id)
  | note entry next ih => exact ih hp

theorem finish {p : Program α} {after : Except Failure α → Program β}
    {post : List Event → Except Failure β → Prop}
    (hp : p.Always past fun es r => (after r).Always es post) :
    (p.finish after).Always past post := by
  induction p generalizing past with
  | give a => exact hp
  | fail f => exact hp
  | ask s next ih => exact fun r => ih r (hp r)
  | control c next ih => exact ih hp
  | draw e next ih => exact fun id => ih id (hp id)
  | note entry next ih => exact ih hp

/-- After a value the program goes on; a failure is its end. -/
theorem bind {p : Program α} {f : α → Program β} {post : List Event → Except Failure β → Prop}
    (hp : p.Always past fun es r =>
      match r with
      | .ok a => (f a).Always es post
      | .error e => post es (.error e)) :
    (p >>= f).Always past post := by
  refine finish (hp.mono fun es r h => ?_)
  cases r with
  | ok a => exact h
  | error e => exact h

theorem map {p : Program α} {f : α → β} {post : List Event → Except Failure β → Prop}
    (hp : p.Always past fun es r => post es (r.map f)) : (f <$> p).Always past post := by
  rw [map_eq_pure_bind]
  refine bind (hp.mono fun es r h => ?_)
  cases r with
  | ok a => exact h
  | error e => exact h

theorem mapFailure {p : Program α} {f : Failure → Failure}
    (hp : p.Always past fun es r => post es (r.mapError f)) :
    (p.mapFailure f).Always past post := by
  refine finish (hp.mono fun es r h => ?_)
  cases r with
  | ok a => exact h
  | error e => exact h

theorem query {s : Statement} {post : List Event → Except Failure Json → Prop}
    (h : ∀ r, post (past ++ [.asked s r]) r) : (Program.query s).Always past post := by
  intro r
  cases r with
  | ok v => exact h (.ok v)
  | error f => exact h (.error f)

/-- A program that ends where it starts has the result that its end has. -/
theorem ofExcept {r : Except Failure α} (h : post past r) : (Program.ofExcept r).Always past post := by
  cases r with
  | ok a => exact h
  | error f => exact h

end Always

/-! ## Transactions -/

/-- How a transaction ends after its body. -/
def closing : Except Failure α → Control
  | .ok _ => .commit
  | .error _ => .rollback

theorem transaction_map (f : α → β) (p : Program α) :
    (f <$> p).transaction = f <$> p.transaction := by
  refine congrArg (control .start) (((finish_finish p _ _).trans ?_).trans
    (finish_finish p _ _).symm)
  exact congrArg p.finish (funext fun r => by cases r <;> rfl)

theorem withConnection_map (f : α → β) (p : Program α) :
    (f <$> p).withConnection = f <$> p.withConnection := by
  refine congrArg (control .acquire) (((finish_finish p _ _).trans ?_).trans
    (finish_finish p _ _).symm)
  exact congrArg p.finish (funext fun r => by cases r <;> rfl)

/-- The session in which the body of a transaction runs on a connection that is borrowed for it. -/
def inTransaction : Session σ := (w.controlled engine .acquire).controlled engine .start

theorem run_transaction (p : Program α) :
    p.transaction.run engine w =
      ((p.run engine (w.controlled engine .start)).1,
        (p.run engine (w.controlled engine .start)).2.controlled engine
          (closing (p.run engine (w.controlled engine .start)).1)) := by
  refine (run_finish engine _ p _).trans ?_
  cases (p.run engine (w.controlled engine .start)).1 with
  | ok a => rfl
  | error e => rfl

theorem events_transaction (p : Program α) :
    p.transaction.events engine w =
      .controlled .start :: p.events engine (w.controlled engine .start) ++
        [.controlled (closing (p.run engine (w.controlled engine .start)).1)] := by
  refine congrArg (.controlled .start :: ·) ((events_finish engine _ p _).trans ?_)
  cases (p.run engine (w.controlled engine .start)).1 with
  | ok a => rfl
  | error e => rfl

theorem run_withConnection (p : Program α) :
    p.withConnection.run engine w =
      ((p.run engine (w.controlled engine .acquire)).1,
        (p.run engine (w.controlled engine .acquire)).2.controlled engine .release) := by
  refine (run_finish engine _ p _).trans ?_
  cases (p.run engine (w.controlled engine .acquire)).1 with
  | ok a => rfl
  | error e => rfl

theorem events_withConnection (p : Program α) :
    p.withConnection.events engine w =
      .controlled .acquire :: p.events engine (w.controlled engine .acquire) ++
        [.controlled .release] := by
  refine congrArg (.controlled .acquire :: ·) ((events_finish engine _ p _).trans ?_)
  cases (p.run engine (w.controlled engine .acquire)).1 with
  | ok a => rfl
  | error e => rfl

/-- After a transaction on a borrowed connection a program goes on with the result of the body. -/
theorem run_guarded (body : Program α) (conclude : α → Program β) :
    ∃ w', ((body.transaction.withConnection >>= conclude).run engine w).1 =
        ((ofExcept (body.run engine (inTransaction engine w)).1 >>= conclude).run engine w').1 ∧
      (body.transaction.withConnection >>= conclude).events engine w =
        [.controlled .acquire, .controlled .start] ++
          body.events engine (inTransaction engine w) ++
          [.controlled (closing (body.run engine (inTransaction engine w)).1),
            .controlled .release] ++
          (ofExcept (body.run engine (inTransaction engine w)).1 >>= conclude).events engine w' := by
  refine ⟨(body.transaction.withConnection.run engine w).2, ?_, ?_⟩
  · rw [run_bind, run_withConnection, run_transaction]
    rfl
  · rw [events_bind, events_withConnection, events_transaction, run_withConnection,
      run_transaction]
    simp [inTransaction]

end Program

end FeatureFlags.Database
