import FeatureFlags.Proofs.Http.Answer
import FeatureFlags.Proofs.Settings
import FeatureFlags.Store.Outage

/-!
# Requests as calls of the store

What clients see of features and feature states is what the store in memory answers when it is
called directly. Any sequence of requests leaves the store that the direct calls leave, and each
answer tells what the store answers at that point (`requests_are_calls`). A request whose body is no
valid payload calls nothing.

Such a request is to be answered with status 422, and is not when its body holds a number that is
out of range (`not_refused_with_422`).
-/

namespace FeatureFlags

/-- A backend that notes the operations it is asked, besides. -/
def Backend.noting {σ : Type} (b : Backend σ) : Backend (σ × List Operation) where
  run op := ExceptT.mk fun w =>
    let (r, w') := (b.run op).run.run ⟨w.contents.1, w.entries⟩
    (r, ⟨(w'.contents, w.contents.2 ++ [op]), w'.entries⟩)

namespace Store

/-- The store after direct calls, one after the other. -/
def afterAllWith (s : Store) (out : Outages) (ops : List Operation) : Store :=
  ops.foldl (fun s op => s.afterWith out op) s

theorem afterWith_of_error {s : Store} {out : Outages} {op : Operation} {f : Failure}
    (h : s.replyWith out op = .error f) : s.afterWith out op = s := by
  unfold replyWith at h
  unfold afterWith
  split
  · rename_i hrun
    rw [hrun] at h
    cases h
  · rfl

/-- Nothing changes while the records are listed. -/
theorem afterWith_list (s : Store) (out : Outages) {op : Operation}
    (h : op = .listFeatures ∨ op = .listStates) : s.afterWith out op = s := by
  unfold afterWith runWith
  rcases h with rfl | rfl <;> cases s.outage? out _ <;> rfl

end Store

namespace Backend

variable (out : Outages) (op : Operation)

theorem memory_noting_run (w : Served (Store × List Operation)) :
    ((memory out).noting.run op).run.run w =
      (w.contents.1.replyWith out op,
        ⟨(w.contents.1.afterWith out op, w.contents.2 ++ [op]), w.entries⟩) := by
  have hnoting : ((memory out).noting.run op).run.run w =
      ((((memory out).run op).run.run ⟨w.contents.1, w.entries⟩).1,
        ⟨((((memory out).run op).run.run ⟨w.contents.1, w.entries⟩).2.contents,
            w.contents.2 ++ [op]),
          (((memory out).run op).run.run ⟨w.contents.1, w.entries⟩).2.entries⟩) := rfl
  rw [hnoting, memory_run_with]

end Backend

namespace Http

/-- A request to an endpoint of features or feature states. -/
structure Sent (root : String) where
  endpoint : Endpoint
  request : Request
  asks : Asks root endpoint request

section

variable [Json.DepthLimit]

namespace Sent

variable {root : String}

/-- The operation that the request asks; none when its body is no valid payload. -/
def operation? (c : Sent root) : Option Operation := c.endpoint.operation? c.request

/-- The store after the direct call that the request asks. -/
def after (c : Sent root) (out : Outages) (s : Store) : Store :=
  s.afterAllWith out c.operation?.toList

/-- What an answer has to tell: the outcome of the direct call, or that the body is refused. -/
def Tells (c : Sent root) (out : Outages) (s : Store) (told : Told) : Prop :=
  match c.operation? with
  | some op => told = c.endpoint.tells (s.replyWith out op)
  | none => Refusal c.endpoint c.request told

end Sent

/-- Requests that are answered one after the other, each as the direct call on the store at that
point tells. -/
inductive Exchange {root : String} (out : Outages) :
    Store → List (Sent root) → List Response → Store → Prop where
  | nil (s : Store) : Exchange out s [] [] s
  | cons {s s' : Store} {c : Sent root} {answer : Response} {rest : List (Sent root)}
      {answers : List Response} (told : c.Tells out s answer.told)
      (tail : Exchange out (c.after out s) rest answers s') :
      Exchange out s (c :: rest) (answer :: answers) s'

variable {settings : Settings} {out : Outages}

/-- One request, sent to the store in memory and to one that notes what it is asked. -/
theorem Sent.respond (out : Outages) (c : Sent settings.apiRoot) (s : Store)
    (ops : List Operation) (log : List Log.Entry) :
    ∃ answer log', c.Tells out s answer.told ∧
      (respond settings (Backend.memory out) c.request).run ⟨s, log⟩ =
        (answer, ⟨c.after out s, log'⟩) ∧
      (respond settings (Backend.memory out).noting c.request).run ⟨(s, ops), log⟩ =
        (answer, ⟨(c.after out s, ops ++ c.operation?.toList), log'⟩) := by
  obtain ⟨hoptions, hhead⟩ := c.asks.method_ne
  unfold Tells after
  cases hop : c.operation? with
  | some op =>
    refine ⟨deliver settings c.request (c.endpoint.outcome (s.replyWith out op)),
      log ++ c.request.faultEntries (s.replyWith out op), ?_, ?_, ?_⟩
    · rw [told_deliver settings hhead, said_outcome]
    · rw [respond_run settings _ hoptions,
        route_of_operation c.asks hop _ (Backend.memory_run_with out op _)]
      rfl
    · rw [respond_run settings _ hoptions,
        route_of_operation c.asks hop _ (Backend.memory_noting_run out op _)]
      rfl
  | none =>
    have hplace : c.endpoint.place?.isSome := by
      obtain ⟨path, hplace, -⟩ := c.asks.place
      rw [hplace]
      rfl
    obtain ⟨result, hrefused, hanswer⟩ := Endpoint.answer_of_refused hplace hop
    refine ⟨deliver settings c.request result, log, ?_, ?_, ?_⟩
    · rw [told_deliver settings hhead]
      exact hrefused.told
    · rw [respond_run settings _ hoptions, route_of_refused c.asks hrefused (hanswer _)]
      rfl
    · rw [respond_run settings _ hoptions, route_of_refused c.asks hrefused (hanswer _),
        Option.toList_none, List.append_nil]
      rfl

theorem Sent.afterAllWith_cons (c : Sent settings.apiRoot) (rest : List (Sent settings.apiRoot))
    (s : Store) :
    s.afterAllWith out ((c :: rest).filterMap Sent.operation?) =
      (c.after out s).afterAllWith out (rest.filterMap Sent.operation?) := by
  rw [List.filterMap_cons, after]
  cases c.operation? <;> rfl

theorem respondAll_cons {σ : Type} {b : Backend σ} {r : Request} (rest : List Request)
    {w w' : Served σ} {answer : Response} (h : (respond settings b r).run w = (answer, w')) :
    (respondAll settings b (r :: rest)).run w =
      (answer :: ((respondAll settings b rest).run w').1,
        ((respondAll settings b rest).run w').2) := by
  rw [respondAll, StateT.run_bind, h]
  rfl

/-- Requests are answered as the direct calls tell, by a store that notes what it is asked and by
one that does not. -/
theorem respondAll_exchange (out : Outages) (requests : List (Sent settings.apiRoot)) (s : Store)
    (ops : List Operation) (log : List Log.Entry) :
    ∃ answers log',
      Exchange out s requests answers
        (s.afterAllWith out (requests.filterMap Sent.operation?)) ∧
      (respondAll settings (Backend.memory out) (requests.map Sent.request)).run ⟨s, log⟩ =
        (answers, ⟨s.afterAllWith out (requests.filterMap Sent.operation?), log'⟩) ∧
      (respondAll settings (Backend.memory out).noting (requests.map Sent.request)).run
          ⟨(s, ops), log⟩ =
        (answers, ⟨(s.afterAllWith out (requests.filterMap Sent.operation?),
          ops ++ requests.filterMap Sent.operation?), log'⟩) := by
  induction requests generalizing s ops log with
  | nil => exact ⟨[], log, .nil s, rfl, by rw [List.filterMap_nil, List.append_nil]; rfl⟩
  | cons c rest ih =>
    obtain ⟨answer, log₁, htold, hmemory, hnoting⟩ := c.respond out s ops log
    obtain ⟨answers, log₂, hexchange, hmemory', hnoting'⟩ :=
      ih (c.after out s) (ops ++ c.operation?.toList) log₁
    have hops : ops ++ (c :: rest).filterMap Sent.operation? =
        ops ++ c.operation?.toList ++ rest.filterMap Sent.operation? := by
      rw [List.filterMap_cons]
      cases c.operation? <;> simp
    rw [c.afterAllWith_cons, hops]
    refine ⟨answer :: answers, log₂, .cons htold hexchange, ?_, ?_⟩
    · rw [List.map_cons, respondAll_cons _ hmemory, hmemory']
    · rw [List.map_cons, respondAll_cons _ hnoting, hnoting']

/-- An answer with a status above 400, and one to a question, leaves the store as it is. -/
theorem Sent.Tells.unchanged {c : Sent settings.apiRoot} {s : Store} {told : Told}
    (h : c.Tells out s told) (hcase : 400 ≤ told.status ∨ c.request.method = "GET") :
    c.after out s = s := by
  unfold Tells at h
  unfold after
  cases hop : c.operation? with
  | none => rfl
  | some op =>
    rw [hop] at h
    show s.afterWith out op = s
    rcases hcase with hstatus | hget
    · cases hreply : s.replyWith out op with
      | error f => exact Store.afterWith_of_error hreply
      | ok reply =>
        rw [h, hreply] at hstatus
        exact absurd hstatus (Nat.not_le.2 (c.endpoint.status_success_lt reply))
    · obtain ⟨⟨path, hplace, -⟩, -⟩ := c.asks
      rw [hget] at hplace
      refine s.afterWith_list out ?_
      obtain ⟨e, r, hasks⟩ := c
      cases e with
      | listFeatures => exact .inl (Option.some.inj hop.symm)
      | listStates => exact .inr (Option.some.inj hop.symm)
      | _ => simp [Endpoint.place?] at hplace

/-- **The answers to requests are those of direct calls.** The store in memory, some of whose
operations may be out of order, answers any sequence of requests to the endpoints of features and
feature states. The store is called for the operations that the requests with valid payloads ask, in
order, and for nothing else; it is left as the direct calls leave it; and every answer tells the
outcome of the direct call at that point, or that the payload was refused. A status from 400 on and a
`GET` leave the store as it was, and a payload that is refused is told so with status 422 if it was
read at all and can be written. -/
theorem requests_are_calls (settings : Settings) (out : Outages) (s : Store)
    (log : List Log.Entry) (requests : List (Sent settings.apiRoot)) :
    ∃ answers log',
      (respondAll settings (Backend.memory out) (requests.map Sent.request)).run ⟨s, log⟩ =
        (answers, ⟨s.afterAllWith out (requests.filterMap Sent.operation?), log'⟩) ∧
      (respondAll settings (Backend.memory out).noting (requests.map Sent.request)).run
          ⟨(s, []), log⟩ =
        (answers, ⟨(s.afterAllWith out (requests.filterMap Sent.operation?),
          requests.filterMap Sent.operation?), log'⟩) ∧
      Exchange out s requests answers
        (s.afterAllWith out (requests.filterMap Sent.operation?)) ∧
      ∀ (here : Store) (c : Sent settings.apiRoot) (told : Told), c.Tells out here told →
        (400 ≤ told.status ∨ c.request.method = "GET" → c.after out here = here) ∧
          (c.operation? = none → c.request.payload ≠ .error .unreadable →
            (∀ v, c.request.data? = some v → v.isWritable = true) → told.status = 422) := by
  obtain ⟨answers, log', hexchange, hmemory, hnoting⟩ :=
    respondAll_exchange out requests s [] log
  refine ⟨answers, log', hmemory, hnoting, hexchange, fun here c told h => ⟨h.unchanged, ?_⟩⟩
  intro hnone hread hdata
  rw [Sent.Tells, hnone] at h
  exact h.status_of_writable hread hdata

end

/-! ## Some requests -/

/-- A request without an origin whose body, if it has one, is JSON. -/
def simple (method path body : String) : Request where
  method
  address := ⟨"http", "", "testserver", none, path, none, none⟩
  headers := [("content-type", "application/json")]
  body

/-- A feature is created, and created again; a feature without a key is refused, one that is not
there is deleted, and all are listed. -/
def visits : List (Sent Settings.plain.apiRoot) :=
  [⟨.createFeature, simple "POST" "/features" "\x7b\"key\":\"search\",\"name\":\"Search\"\x7d",
      ⟨⟨"/features", rfl, by decide⟩, nofun⟩⟩,
    ⟨.createFeature, simple "POST" "/features" "\x7b\"key\":\"search\",\"name\":\"Again\"\x7d",
      ⟨⟨"/features", rfl, by decide⟩, nofun⟩⟩,
    ⟨.createFeature, simple "POST" "/features" "\x7b\"key\":\"\",\"name\":\"Search\"\x7d",
      ⟨⟨"/features", rfl, by decide⟩, nofun⟩⟩,
    ⟨.deleteFeature "ftr_x", simple "DELETE" "/features/ftr_x" "",
      ⟨⟨"/features/ftr_x", rfl, by decide⟩, fun _ h => by cases h; exact ⟨by decide, by decide⟩⟩⟩,
    ⟨.listFeatures, simple "GET" "/features" "", ⟨⟨"/features", rfl, by decide⟩, nofun⟩⟩]

theorem requests_are_calls_visits :
    ∃ answers log, (respondAll .plain (Backend.memory Outages.none).noting
        (visits.map Sent.request)).run ⟨(.empty, []), []⟩ = (answers, log) ∧
      answers.map Response.status = [201, 409, 422, 404, 200] ∧
      log.contents.2 = [.createFeature ⟨"search", "Search", none⟩,
        .createFeature ⟨"search", "Again", none⟩, .deleteFeature "ftr_x", .listFeatures] := by
  have hops : visits.filterMap Sent.operation? = [.createFeature ⟨"search", "Search", none⟩,
      .createFeature ⟨"search", "Again", none⟩, .deleteFeature "ftr_x", .listFeatures] := by
    decide +kernel
  have hstatuses : ((respondAll .plain (Backend.memory Outages.none).noting
      (visits.map Sent.request)).run ⟨(.empty, []), []⟩).1.map Response.status =
      [201, 409, 422, 404, 200] := by
    decide +kernel
  obtain ⟨answers, log, -, hnoting, -⟩ := requests_are_calls .plain Outages.none .empty [] visits
  rw [hops] at hnoting
  rw [hnoting] at hstatuses
  exact ⟨answers, _, hnoting, hstatuses, rfl⟩

/-! ## A number out of range -/

/-- A request to create a feature whose key is a number out of range. -/
def outOfRange : Sent Settings.plain.apiRoot where
  endpoint := .createFeature
  request := simple "POST" "/features" "\x7b\"key\":1e999,\"name\":\"b\"\x7d"
  asks := ⟨⟨"/features", rfl, by decide⟩, nofun⟩

/-- **Not every payload that is refused is answered with status 422.** -/
theorem not_refused_with_422 :
    ¬ ∀ (settings : Settings) (s : Store) (c : Sent settings.apiRoot),
      c.request.data?.isSome → c.operation? = none →
      ((respond settings (Backend.memory Outages.none) c.request).run ⟨s, []⟩).1.status = 422 := by
  intro h
  have hdata : outOfRange.request.data?.isSome := by decide +kernel
  have hnone : outOfRange.operation?.isNone := by decide +kernel
  have hstatus := h .plain .empty outOfRange hdata (Option.isNone_iff_eq_none.1 hnone)
  revert hstatus
  decide +kernel

end Http

end FeatureFlags
