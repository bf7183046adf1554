import FeatureFlags.Backend.Document

/-!
# What backends answer

Runs of activities put together, and the two backends with a store in memory: the answer to an
operation is the one that the store gives, also while some operations are out of order. When both
reads of a backend give what they are asked for, its document is compiled from that
(`Backend.document_of_reads`).
-/

namespace FeatureFlags

namespace Store

/-- What the store in memory answers. -/
def reply (s : Store) (op : Operation) : Except Failure Reply :=
  match s.run op with
  | .ok (r, _) => .ok r
  | .error e => .error (.service e)

/-- What the store in memory answers while some operations are out of order. -/
def replyWith (s : Store) (out : Outages) (op : Operation) : Except Failure Reply :=
  (s.runWith out op).map Prod.fst

/-- The store after an operation while some are out of order; a failed one leaves it as it was. -/
def afterWith (s : Store) (out : Outages) (op : Operation) : Store :=
  match s.runWith out op with
  | .ok (_, s') => s'
  | .error _ => s

theorem runWith_none (s : Store) (op : Operation) :
    s.runWith Outages.none op = (s.run op).mapError .service := by
  have houtage : s.outage? Outages.none op = none := by
    unfold outage?
    cases s.looksUpKey op <;> rfl
  simp only [runWith, houtage]
  cases s.run op <;> rfl

theorem replyWith_none (s : Store) (op : Operation) : s.replyWith Outages.none op = s.reply op := by
  unfold replyWith reply
  rw [runWith_none]
  cases s.run op <;> rfl

theorem afterWith_none (s : Store) (op : Operation) : s.afterWith Outages.none op = s.after op := by
  unfold afterWith after
  rw [runWith_none]
  cases s.run op <;> rfl

/-- What is not out of order goes as it always does. -/
theorem run_of_runWith {s : Store} {out : Outages} {op : Operation} {x : Reply × Store}
    (h : s.runWith out op = .ok x) : s.run op = .ok x := by
  unfold runWith at h
  split at h
  · cases h
  · cases hrun : s.run op with
    | error e =>
      rw [hrun] at h
      cases h
    | ok y =>
      rw [hrun] at h
      cases h
      rfl

end Store

namespace Service

variable {σ α β : Type}

theorem run_bind (a : Service σ α) (f : α → Service σ β) (w : Served σ) :
    (a >>= f).run.run w =
      match a.run.run w with
      | (.ok x, w) => (f x).run.run w
      | (.error e, w) => (.error e, w) := by
  simp only [ExceptT.run_bind, StateT.run_bind]
  rcases a.run.run w with ⟨_ | _, _⟩ <;> rfl

theorem run_map (f : α → β) (a : Service σ α) (w : Served σ) :
    (f <$> a).run.run w = ((a.run.run w).1.map f, (a.run.run w).2) := by
  simp only [ExceptT.run_map, StateT.run_map]
  rcases a.run.run w with ⟨_ | _, _⟩ <;> rfl

theorem run_ofExcept (r : Except Failure α) (w : Served σ) :
    (ofExcept r : Service σ α).run.run w = (r, w) := by
  cases r <;> rfl

/-- An activity that gives a value needs no handler. -/
theorem run_tryCatch_of_ok {a : Service σ α} {handler : Failure → Service σ α} {x : α}
    {w w' : Served σ} (h : a.run.run w = (.ok x, w')) :
    (tryCatch a handler).run.run w = (.ok x, w') := by
  rw [ExceptT.run_tryCatch, StateT.run_bind, h]
  rfl

end Service

namespace Backend

variable {σ : Type}

/-- The store in memory answers, and goes on from where it is then. -/
theorem memory_run_with (out : Outages) (op : Operation) (w : Served Store) :
    ((memory out).run op).run.run w =
      (w.contents.replyWith out op, { w with contents := w.contents.afterWith out op }) := by
  unfold Store.replyWith Store.afterWith
  cases hrun : w.contents.runWith out op with
  | ok r => simp only [memory, ExceptT.run_mk, StateT.run, hrun, Except.map]
  | error f => simp only [memory, ExceptT.run_mk, StateT.run, hrun, Except.map]

theorem memory_run (op : Operation) (w : Served Store) :
    ((memory Outages.none).run op).run.run w =
      (w.contents.reply op, { w with contents := w.contents.after op }) := by
  rw [memory_run_with, Store.replyWith_none, Store.afterWith_none]

/-- A backend that gives its features and its states has been read. -/
theorem contents_of_reads (b : Backend σ) {w w₁ w₂ : Served σ} {features : List Feature}
    {states : List FeatureState}
    (h₁ : (b.run .listFeatures).run.run w = (.ok (.features features), w₁))
    (h₂ : (b.run .listStates).run.run w₁ = (.ok (.states states), w₂)) :
    b.contents.run.run w = (.ok (features, states), w₂) := by
  unfold contents
  rw [Service.run_bind, h₁]
  show ((b.run .listStates) >>= fun r => pure (features, r.listedStates)).run.run w₁ = _
  rw [Service.run_bind, h₂]
  rfl

/-- A backend that has read its features and states has their document. -/
theorem document_of_reads (b : Backend σ) {w w₁ w₂ : Served σ} {features : List Feature}
    {states : List FeatureState}
    (h₁ : (b.run .listFeatures).run.run w = (.ok (.features features), w₁))
    (h₂ : (b.run .listStates).run.run w₁ = (.ok (.states states), w₂)) :
    b.document.run.run w =
      (.ok (Targeting.compile features states),
        { w₂ with
          entries := w₂.entries ++ [⟨.info, documentLogger, "Flagd config compiled",
            [("flags_count", .int (Targeting.compile features states).flags.entries.length),
              ("rules_count", .int (Targeting.compile features states).ruleCount)]⟩] }) := by
  have hread : (tryCatch b.contents unread).run.run w = (.ok (features, states), w₂) :=
    Service.run_tryCatch_of_ok (b.contents_of_reads h₁ h₂)
  unfold document
  rw [Service.run_bind, hread]
  rfl

end Backend

end FeatureFlags
