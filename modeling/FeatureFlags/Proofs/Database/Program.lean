import FeatureFlags.Database.Session

/-!
# Running programs

Programs are a lawful monad, and a run of a program that goes on after another is the run of the
second from where the first ended (`run_finish`). Every way to put programs together is made from
`finish`, so this is all that has to be known of `run`.
-/

namespace FeatureFlags.Database.Program

variable {α β γ σ : Type}

/-! ## Laws -/

theorem finish_ofExcept (p : Program α) : p.finish ofExcept = p := by
  induction p with
  | give a => rfl
  | fail f => rfl
  | ask s next ih => simp only [finish, ih]
  | control c next ih => simp only [finish, ih]
  | draw e next ih => simp only [finish, ih]
  | note entry next ih => simp only [finish, ih]

theorem finish_finish (p : Program α) (f : Except Failure α → Program β)
    (g : Except Failure β → Program γ) :
    (p.finish f).finish g = p.finish fun r => (f r).finish g := by
  induction p with
  | give a => rfl
  | fail f => rfl
  | ask s next ih => simp only [finish, ih]
  | control c next ih => simp only [finish, ih]
  | draw e next ih => simp only [finish, ih]
  | note entry next ih => simp only [finish, ih]

instance : LawfulMonad Program := LawfulMonad.mk' Program
  (fun p => by
    refine Eq.trans ?_ (finish_ofExcept p)
    exact congrArg p.finish (funext fun r => by cases r <;> rfl))
  (fun _ _ => rfl)
  (fun p f g => by
    refine (finish_finish p _ _).trans ?_
    exact congrArg p.finish (funext fun r => by cases r <;> rfl))

theorem give_bind (a : α) (f : α → Program β) : (give a >>= f) = f a := rfl

/-! ## Runs -/

variable (engine : Engine σ) (w : Session σ)

theorem run_finish (p : Program α) (after : Except Failure α → Program β) :
    (p.finish after).run engine w = (after (p.run engine w).1).run engine (p.run engine w).2 := by
  induction p generalizing w with
  | give a => rfl
  | fail f => rfl
  | ask s next ih => exact ih _ _
  | control c next ih => exact ih _
  | draw e next ih => exact ih _ _
  | note entry next ih => exact ih _

theorem run_map (f : α → β) (p : Program α) :
    (f <$> p).run engine w = ((p.run engine w).1.map f, (p.run engine w).2) := by
  rw [map_eq_pure_bind]
  refine (run_finish engine w p _).trans ?_
  cases (p.run engine w).1 <;> rfl

end FeatureFlags.Database.Program
