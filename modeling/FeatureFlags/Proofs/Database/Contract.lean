import FeatureFlags.Proofs.Database.Program
import FeatureFlags.Proofs.Database.Tables

/-!
# Contracts of programs

`Program.Ensures` is the contract of a program on a database that follows SQL: wherever a session
shows the tables, stage and count of identifiers that the contract starts from, the run ends as it
says. There is one rule for every way to put programs together; with them a contract is proved
along the text of the program, and no proof about an operation runs it.
-/

namespace FeatureFlags.Database

variable {α β σ : Type}

/-- What is seen of a session. -/
structure Seen where
  tables : Tables
  stage : Stage
  issued : Nat

def Session.seen (view : σ → View) (w : Session σ) : Seen :=
  ⟨(view w.database).tables, (view w.database).stage, w.issued⟩

/-- Every run of the program on a session where `x` is seen ends as `post` says. -/
def Program.Ensures (engine : Engine σ) (view : σ → View) (p : Program α) (x : Seen)
    (post : Except Failure α → Seen → Prop) : Prop :=
  ∀ w : Session σ, w.seen view = x → post (p.run engine w).1 ((p.run engine w).2.seen view)

namespace Program.Ensures

variable {engine : Engine σ} {view : σ → View} {x : Seen} {t : Tables} {stage : Stage} {n : Nat}

theorem mono {p : Program α} {post post' : Except Failure α → Seen → Prop}
    (hp : p.Ensures engine view x post) (h : ∀ r x', post r x' → post' r x') :
    p.Ensures engine view x post' :=
  fun w hw => h _ _ (hp w hw)

theorem give {a : α} {post : Except Failure α → Seen → Prop} (h : post (.ok a) x) :
    (Program.give a).Ensures engine view x post := by
  rintro w rfl
  exact h

theorem fail {f : Failure} {post : Except Failure α → Seen → Prop} (h : post (.error f) x) :
    (Program.fail f).Ensures engine view x post := by
  rintro w rfl
  exact h

theorem finish {p : Program α} {after : Except Failure α → Program β}
    {post : Except Failure β → Seen → Prop}
    (hp : p.Ensures engine view x fun r x' => (after r).Ensures engine view x' post) :
    (p.finish after).Ensures engine view x post := by
  intro w hw
  rw [run_finish]
  exact hp w hw _ rfl

/-- After a value the program goes on; a failure is its end. -/
theorem bind {p : Program α} {f : α → Program β} {post : Except Failure β → Seen → Prop}
    (hp : p.Ensures engine view x fun r x' =>
      match r with
      | .ok a => (f a).Ensures engine view x' post
      | .error e => post (.error e) x') :
    (p >>= f).Ensures engine view x post := by
  refine finish (hp.mono fun r x' h => ?_)
  cases r with
  | ok a => exact h
  | error e => exact fail h

theorem map {p : Program α} {f : α → β} {post : Except Failure β → Seen → Prop}
    (hp : p.Ensures engine view x fun r x' => post (r.map f) x') :
    (f <$> p).Ensures engine view x post := by
  rw [map_eq_pure_bind]
  refine bind (hp.mono fun r x' h => ?_)
  cases r with
  | ok a => exact give h
  | error e => exact h

theorem mapFailure {p : Program α} {f : Failure → Failure} {post : Except Failure α → Seen → Prop}
    (hp : p.Ensures engine view x fun r x' => post (r.mapError f) x') :
    (p.mapFailure f).Ensures engine view x post := by
  refine finish (hp.mono fun r x' h => ?_)
  cases r with
  | ok a => exact give h
  | error e => exact fail h

theorem freshId {e : Entity} {post : Except Failure String → Seen → Prop}
    (h : post (.ok (Identifier.next e n)) ⟨t, stage, n + 1⟩) :
    (Program.freshId e).Ensures engine view ⟨t, stage, n⟩ post := by
  rintro w ⟨⟩
  exact h

theorem log {entry : Log.Entry} {post : Except Failure Unit → Seen → Prop} (h : post (.ok ()) x) :
    (Program.log entry).Ensures engine view x post := by
  rintro w rfl
  exact h

/-- A statement that the engine executes is answered as SQL prescribes. -/
theorem executed {s : Statement} {post : Except Failure Json → Seen → Prop}
    (hs : engine.Executes view s) (hstage : stage.answers)
    (h : ∀ r t', Prescribed t s r t' → post r ⟨t', stage.afterAnswer r, n⟩) :
    (Program.query s).Ensures engine view ⟨t, stage, n⟩ post := by
  rintro w ⟨⟩
  obtain ⟨hanswer, hstages⟩ := hs w.database hstage
  have hrun : (Program.query s).run engine w = w.asked engine s := by
    show (ofExcept (w.asked engine s).1).run engine (w.asked engine s).2 = _
    rcases w.asked engine s with ⟨_ | _, _⟩ <;> rfl
  have hseen : ((w.asked engine s).2).seen view =
      ⟨(view (engine.answer w.database s).2).tables,
        (view w.database).stage.afterAnswer (engine.answer w.database s).1, w.issued⟩ := by
    rw [← hstages]
    rfl
  rw [hrun, hseen]
  exact h _ _ hanswer

variable (sql : engine.FollowsSql view)

include sql

theorem query {s : Statement} {post : Except Failure Json → Seen → Prop} (hs : s.WellTyped)
    (hstage : stage.answers)
    (h : ∀ r t', Prescribed t s r t' → post r ⟨t', stage.afterAnswer r, n⟩) :
    (Program.query s).Ensures engine view ⟨t, stage, n⟩ post :=
  executed (sql.executes hs) hstage h

theorem control {c : Control} {p : Program α} {post : Except Failure α → Seen → Prop} {v : View}
    (hv : View.controlled? ⟨t, stage⟩ c = some v)
    (hp : p.Ensures engine view ⟨v.tables, v.stage, n⟩ post) :
    (Program.control c p).Ensures engine view ⟨t, stage, n⟩ post := by
  rintro w ⟨⟩
  refine hp (w.controlled engine c) ?_
  rw [← sql.controls w.database c v hv]
  rfl

/-- A transaction that fails leaves the tables as they were. -/
theorem transaction {p : Program α} {post : Except Failure α → Seen → Prop}
    (hp : p.Ensures engine view ⟨t, .started t, n⟩ fun r x' =>
      match r with
      | .ok a => x'.stage = .started t ∧ post (.ok a) ⟨x'.tables, .idle, x'.issued⟩
      | .error e => (x'.stage = .started t ∨ x'.stage = .broken t) ∧
          post (.error e) ⟨t, .idle, x'.issued⟩) :
    p.transaction.Ensures engine view ⟨t, .idle, n⟩ post := by
  refine control sql rfl (finish (hp.mono fun r x' h => ?_))
  obtain ⟨t', stage', n'⟩ := x'
  cases r with
  | ok a =>
    obtain ⟨rfl, h⟩ := h
    exact control sql rfl (give h)
  | error e =>
    obtain ⟨rfl | rfl, h⟩ := h
    · exact control sql rfl (fail h)
    · exact control sql rfl (fail h)

theorem withConnection {p : Program α} {post : Except Failure α → Seen → Prop}
    (hp : p.Ensures engine view ⟨t, .idle, n⟩ fun r x' => x'.stage = .idle ∧ post r x') :
    p.withConnection.Ensures engine view ⟨t, .idle, n⟩ post := by
  refine control sql rfl (finish (hp.mono fun r x' h => ?_))
  obtain ⟨t', stage', n'⟩ := x'
  obtain ⟨rfl, h⟩ := h
  refine control sql rfl ?_
  cases r with
  | ok a => exact give h
  | error e => exact fail h

end Program.Ensures

end FeatureFlags.Database
