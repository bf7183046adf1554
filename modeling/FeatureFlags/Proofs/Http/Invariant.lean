import FeatureFlags.Http.Endpoint
import FeatureFlags.Proofs.Backend

/-!
# What answering requests keeps

Requests get at the contents of a backend by its operations only. So a property of the contents that
every operation keeps is kept while requests are answered, whatever they ask and whatever fails
(`Backend.Keeps.respondAll`).
-/

namespace FeatureFlags

variable {σ α β : Type} {P : σ → Prop}

/-- The contents have the property after the activity if they had it before. -/
def Keeps (P : σ → Prop) (m : StateM (Served σ) α) : Prop :=
  ∀ w, P w.contents → P (m.run w).2.contents

/-- Every operation keeps the property, also one that fails. -/
def Backend.Keeps (b : Backend σ) (P : σ → Prop) : Prop := ∀ op, FeatureFlags.Keeps P (b.run op).run

namespace Keeps

theorem pure (a : α) : Keeps P (Pure.pure a : StateM (Served σ) α) := fun _ h => h

theorem bind {m : StateM (Served σ) α} {f : α → StateM (Served σ) β} (hm : Keeps P m)
    (hf : ∀ a, Keeps P (f a)) : Keeps P (m >>= f) :=
  fun w h => hf _ _ (hm w h)

/-! ## Activities that may fail -/

theorem give (a : α) : Keeps P (Pure.pure a : Service σ α).run := fun _ h => h

theorem throw (f : Failure) : Keeps P (throw f : Service σ α).run := fun _ h => h

theorem log (entry : Log.Entry) : Keeps P (Service.log entry : Service σ Unit).run := fun _ h => h

theorem lift {m : StateM (Served σ) α} (hm : Keeps P m) :
    Keeps P (ExceptT.lift m : Service σ α).run :=
  fun w h => hm w h

theorem ofExcept (r : Except Failure α) : Keeps P (MonadExcept.ofExcept r : Service σ α).run := by
  cases r with
  | ok a => exact give a
  | error f => exact throw f

theorem andThen {a : Service σ α} {f : α → Service σ β} (ha : Keeps P a.run)
    (hf : ∀ x, Keeps P (f x).run) : Keeps P (a >>= f).run := by
  rw [ExceptT.run_bind]
  refine ha.bind fun r => ?_
  cases r with
  | ok x => exact hf x
  | error f => exact pure _

theorem tryCatch {a : Service σ α} {handler : Failure → Service σ α} (ha : Keeps P a.run)
    (hh : ∀ f, Keeps P (handler f).run) : Keeps P (tryCatch a handler).run := by
  rw [ExceptT.run_tryCatch]
  refine ha.bind fun r => ?_
  cases r with
  | ok x => exact pure _
  | error f => exact hh f

/-! ## Payloads -/

open Http

theorem rejected (issues : List Issue) :
    Keeps P (rejected issues : Service σ Response).run := by
  unfold Http.rejected
  split
  · exact give _
  · exact throw _

theorem withPayload [Json.DepthLimit] {r : Request} {read : List (String × Json) → Checked α}
    {go : α → Service σ Response} (hgo : ∀ a, Keeps P (go a).run) :
    Keeps P (withPayload r read go).run := by
  unfold Http.withPayload
  split
  · exact give _
  · exact rejected _
  · split
    · exact hgo _
    · exact rejected _

end Keeps

namespace Backend.Keeps

variable {b : Backend σ}

theorem document (hb : b.Keeps P) : FeatureFlags.Keeps P b.document.run := by
  have hcontents : FeatureFlags.Keeps P b.contents.run :=
    (hb .listFeatures).andThen fun _ => (hb .listStates).andThen fun _ => .give _
  refine .andThen (.tryCatch hcontents fun f => ?_) fun x => .andThen (.log _) fun _ => .give _
  unfold unread
  split
  · exact .andThen (.log _) fun _ => .throw _
  · exact .throw _

open Http

theorem replyTo (hb : b.Keeps P) (status : Nat) (op : Operation) :
    FeatureFlags.Keeps P (replyTo b status op).run :=
  (hb op).andThen fun _ => .give _

theorem deleted (hb : b.Keeps P) (message : String) (op : Operation) :
    FeatureFlags.Keeps P (deleted b message op).run :=
  (hb op).andThen fun _ => .give _

theorem checkHealth (hb : b.Keeps P) : FeatureFlags.Keeps P (checkHealth b).run := by
  refine .andThen (.tryCatch ((hb .listFeatures).andThen fun _ => .give _) fun f => ?_)
    fun _ => .give _
  split
  · exact .andThen (.log _) fun _ => .give _
  · exact .throw f

variable [Json.DepthLimit]

theorem answer (hb : b.Keeps P) (r : Request) (e : Endpoint) :
    FeatureFlags.Keeps P (e.answer b r).run := by
  cases e with
  | ready => exact .give _
  | health => exact hb.checkHealth
  | listFeatures => exact hb.replyTo 200 .listFeatures
  | createFeature => exact .withPayload fun d => hb.replyTo 201 (.createFeature d)
  | updateFeature id => exact .withPayload fun p => hb.replyTo 200 (.updateFeature id p)
  | deleteFeature id => exact hb.deleted _ (.deleteFeature id)
  | listStates => exact hb.replyTo 200 .listStates
  | createState => exact .withPayload fun d => hb.replyTo 201 (.createState d)
  | updateState id => exact .withPayload fun p => hb.replyTo 200 (.updateState id p)
  | deleteState id => exact hb.deleted _ (.deleteState id)
  | document => exact hb.document.andThen fun _ => .give _

theorem route (hb : b.Keeps P) (root : String) (r : Request) :
    FeatureFlags.Keeps P (route root b r).run := by
  unfold Http.route
  split
  · refine .tryCatch (hb.answer r _) fun f => ?_
    unfold tellError
    split
    · split
      · exact .andThen (.log _) fun _ => .give _
      · exact .give _
    · exact .throw _
  · exact .give _
  · exact .give _
  · exact .give _

theorem respond (hb : b.Keeps P) (s : Settings) (r : Request) :
    FeatureFlags.Keeps P (respond s b r) := by
  unfold Http.respond
  dsimp only
  split
  · exact .pure _
  · exact (hb.route s.apiRoot r).bind fun _ => .pure _

/-- **Answering requests keeps what the operations of the backend keep.** -/
theorem respondAll (hb : b.Keeps P) (s : Settings) (requests : List Request) :
    FeatureFlags.Keeps P (respondAll s b requests) := by
  induction requests with
  | nil => exact .pure _
  | cons r rest ih => exact (hb.respond s r).bind fun _ => ih.bind fun _ => .pure _

end Backend.Keeps

end FeatureFlags
