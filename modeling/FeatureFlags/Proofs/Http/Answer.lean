import FeatureFlags.Proofs.Backend
import FeatureFlags.Proofs.Http.Payload
import FeatureFlags.Proofs.Http.Route
import FeatureFlags.Proofs.Payload

/-!
# What the answer to a request says

A request to an endpoint of features or feature states asks the store one operation, or none when
its body is no valid payload (`Endpoint.operation?`). In the first case the answer is told by what
the store gives or why it fails (`Endpoint.tells`); in the second it does not depend on the store
at all.

A body that is refused is answered with status 422 when what is wrong with it can be told. It cannot
when an issue quotes a value that is no JSON, and then the answer has status 500.
-/

namespace FeatureFlags.Http

/-! ## What requests ask -/

section

variable [Json.DepthLimit]

/-- The operation that a request to an endpoint of records asks; none when its body is no valid
payload. -/
def Endpoint.operation? (e : Endpoint) (r : Request) : Option Operation :=
  match e with
  | .listFeatures => some .listFeatures
  | .listStates => some .listStates
  | .deleteFeature id => some (.deleteFeature id)
  | .deleteState id => some (.deleteState id)
  | .createFeature =>
    r.data?.bind fun v => (Feature.Draft.ofJson v).accepted?.map .createFeature
  | .updateFeature id =>
    r.data?.bind fun v => (Feature.Patch.ofJson v).accepted?.map (.updateFeature id)
  | .createState =>
    r.data?.bind fun v => (FeatureState.Draft.ofJson v).accepted?.map .createState
  | .updateState id =>
    r.data?.bind fun v => (FeatureState.Patch.ofJson v).accepted?.map (.updateState id)
  | .ready | .health | .document => none

/-- A payload that a request gives was read from its data. -/
theorem Endpoint.validated_of_operation {e : Endpoint} {r : Request} {op : Operation}
    (h : e.operation? r = some op) : op.Validated := by
  cases e with
  | ready | health | document => cases h
  | listFeatures | listStates | deleteFeature | deleteState =>
    cases h
    trivial
  | createFeature | updateFeature | createState | updateState =>
    obtain ⟨v, -, hread⟩ := Option.bind_eq_some_iff.1 h
    obtain ⟨a, ha, rfl⟩ := Option.map_eq_some_iff.1 hread
    exact ⟨v, Checked.accepted?_eq_some.1 ha⟩

/-- What is wrong with the body of a request to an endpoint that takes one. -/
def Endpoint.Rejects (e : Endpoint) (r : Request) (issues : List Issue) : Prop :=
  match e with
  | .createFeature => r.Rejected Feature.Draft.ofMembers issues
  | .updateFeature _ => r.Rejected Feature.Patch.ofMembers issues
  | .createState => r.Rejected FeatureState.Draft.ofMembers issues
  | .updateState _ => r.Rejected FeatureState.Patch.ofMembers issues
  | _ => False

end

/-! ## What is told -/

/-- What an answer says, whatever its headers are. -/
structure Told where
  status : Nat
  content : Content

def Response.told (r : Response) : Told := ⟨r.status, r.content⟩

/-- The answer to what the store gives. -/
def Endpoint.success (e : Endpoint) (reply : Reply) : Response :=
  match e with
  | .createFeature | .createState => .json 201 reply.toJson
  | .deleteFeature _ => .json 200 (.object [("message", .string "Feature deleted successfully")])
  | .deleteState _ =>
    .json 200 (.object [("message", .string "Feature state deleted successfully")])
  | _ => .json 200 reply.toJson

theorem Endpoint.status_success_lt (e : Endpoint) (reply : Reply) :
    (e.success reply).status < 400 := by
  cases e <;> simp [success, Response.json]

/-- What is told of a call of the store: its answer, the message of an error of the service under
the status of the error, or nothing but that something is broken. -/
def Endpoint.tells (e : Endpoint) : Except Failure Reply → Told
  | .ok reply => (e.success reply).told
  | .error (.service err) => ⟨err.status, .json (.object [("error", .string err.message)])⟩
  | .error _ => ⟨500, .text "Internal Server Error"⟩

/-- What is told of an answer, or of a failure to give one. -/
def said : Except Failure Response → Told
  | .ok answer => answer.told
  | .error _ => ⟨500, .text "Internal Server Error"⟩

/-- How a call of the store becomes an answer, unless it fails in a way that is not told. -/
def Endpoint.outcome (e : Endpoint) : Except Failure Reply → Except Failure Response
  | .ok reply => .ok (e.success reply)
  | .error (.service err) => .ok (.json err.status (.object [("error", .string err.message)]))
  | .error f => .error f

/-- What is logged of a call of the store that failed by the fault of the service. -/
def Request.faultEntries (r : Request) : Except Failure Reply → List Log.Entry
  | .error (.service err) =>
    if 500 ≤ err.status then
      [⟨.error, appLogger, r.method ++ " " ++ r.loggedPath ++ " failed: " ++ err.message, []⟩]
    else []
  | _ => []

theorem said_outcome (e : Endpoint) (o : Except Failure Reply) :
    said (e.outcome o) = e.tells o := by
  rcases o with f | reply
  · cases f <;> rfl
  · rfl

/-- An error of the service is told, and logged when the service is at fault. -/
theorem tellError_run {σ : Type} (r : Request) (err : ServiceError) (w : Served σ) :
    (tellError r (.service err)).run.run w =
      (.ok (.json err.status (.object [("error", .string err.message)])),
        { w with entries := w.entries ++ r.faultEntries (.error (.service err)) }) := by
  unfold tellError Request.faultEntries
  by_cases hstatus : 500 ≤ err.status
  · simp only [hstatus, if_true]
    rfl
  · simp only [hstatus, if_false, List.append_nil]
    rfl

/-- What is wrong is told with status 422, or cannot be told. -/
theorem rejected_eq (issues : List Issue) :
    ∃ result : Except Failure Response, (∀ err, result ≠ .error (.service err)) ∧
      (∀ {σ : Type}, (rejected issues : Service σ Response) = ofExcept result) ∧
      (said result = ⟨422, .json (.object [("detail", .array (issues.map issueJson))])⟩ ∧
          (∀ i ∈ issues, i.input.isWritable = true) ∨
        said result = ⟨500, .text "Internal Server Error"⟩ ∧
          ∃ i ∈ issues, i.input.isWritable = false) := by
  cases hall : issues.all fun i => i.input.isWritable with
  | true =>
    refine ⟨.ok (issuesResponse issues), nofun, ?_, .inl ⟨rfl, by simpa using hall⟩⟩
    simp only [rejected, hall, if_true]
    exact rfl
  | false =>
    refine ⟨.error (.value "Out of range float values are not JSON compliant"), nofun, ?_,
      .inr ⟨rfl, by simpa using hall⟩⟩
    simp only [rejected, hall, Bool.false_eq_true, if_false]
    exact rfl

/-- The answer as it is sent, with what is added for other origins. -/
def deliver (s : Settings) (r : Request) (result : Except Failure Response) : Response :=
  Response.forMethod r.method <|
    match result with
    | .error _ => Response.broken
    | .ok answer =>
      match r.header? "origin" with
      | some origin => answer.withHeaders (CrossOrigin.added s.origins r origin)
      | none => answer

theorem told_deliver (s : Settings) {r : Request} (hmethod : r.method ≠ "HEAD")
    (result : Except Failure Response) : (deliver s r result).told = said result := by
  unfold deliver Response.forMethod
  simp only [beq_iff_eq, hmethod, if_false]
  rcases result with f | answer
  · rfl
  · cases r.header? "origin" <;> rfl

/-! ## One request -/

section

variable {σ : Type} {root : String} {e : Endpoint} {r : Request} {op : Operation}

theorem Asks.method_ne (hasks : Asks root e r) : r.method ≠ "OPTIONS" ∧ r.method ≠ "HEAD" := by
  obtain ⟨⟨path, hplace, -⟩, -⟩ := hasks
  generalize r.method = method at hplace
  cases e <;> cases hplace <;> decide

variable [Json.DepthLimit]

/-- What is told of a body that is no valid payload. -/
inductive Refusal (e : Endpoint) (r : Request) : Told → Prop where
  /-- The body was not read. -/
  | unread (h : r.payload = .error .unreadable) :
      Refusal e r
        ⟨400, .json (.object [("detail", .string "There was an error parsing the body")])⟩
  /-- What is wrong is told, with the values it is about. -/
  | told {issues : List Issue} (h : e.Rejects r issues)
      (hall : ∀ i ∈ issues, i.input.isWritable = true) :
      Refusal e r ⟨422, .json (.object [("detail", .array (issues.map issueJson))])⟩
  /-- A value that would have to be quoted is no JSON. -/
  | untold {issues : List Issue} (h : e.Rejects r issues)
      (hsome : ∃ i ∈ issues, i.input.isWritable = false) :
      Refusal e r ⟨500, .text "Internal Server Error"⟩

/-- A refused body that can be written is refused with status 422. -/
theorem Refusal.status_of_writable {e : Endpoint} {r : Request} {told : Told}
    (h : Refusal e r told) (hread : r.payload ≠ .error .unreadable)
    (hdata : ∀ v, r.data? = some v → v.isWritable = true) : told.status = 422 := by
  cases h with
  | unread h => exact absurd h hread
  | told _ _ => rfl
  | untold h hsome =>
    obtain ⟨i, hi, hinput⟩ := hsome
    have hall : i.input.isWritable = true := by
      cases e with
      | createFeature => exact h.quotes Feature.Draft.ofMembers_quotes hdata i hi
      | updateFeature id => exact h.quotes Feature.Patch.ofMembers_quotes hdata i hi
      | createState => exact h.quotes FeatureState.Draft.ofMembers_quotes hdata i hi
      | updateState id => exact h.quotes FeatureState.Patch.ofMembers_quotes hdata i hi
      | _ => exact h.elim
    rw [hall] at hinput
    cases hinput

/-- A payload that passes goes to the store. -/
theorem withPayload_of_operation {α : Type} {read : List (String × Json) → Checked α}
    {model : String} {make : α → Operation} (status : Nat) (b : Backend σ)
    (h : (r.data?.bind fun v => (Checked.record model read v).accepted?.map make) = some op) :
    withPayload r read (fun a => replyTo b status (make a)) = replyTo b status op := by
  obtain ⟨v, hv, h⟩ := Option.bind_eq_some_iff.1 h
  obtain ⟨a, ha, rfl⟩ := Option.map_eq_some_iff.1 h
  rw [Checked.accepted?_eq_some] at ha
  rcases withPayload_cases r read model with ⟨v', a', hv', ha', hgo⟩ | ⟨hnone, -⟩
  · obtain rfl := Option.some.inj (hv.symm.trans hv')
    rw [ha] at ha'
    cases ha'
    exact hgo _
  · exact absurd ha (hnone v a hv)

/-- An endpoint answers with what the store gives. -/
theorem Endpoint.answer_of_operation (h : e.operation? r = some op) (b : Backend σ) :
    e.answer b r = e.success <$> b.run op := by
  have hreply : ∀ status, replyTo b status op =
      (fun reply => Response.json status reply.toJson) <$> b.run op :=
    fun status => (map_eq_pure_bind _ _).symm
  cases e with
  | ready | health | document => cases h
  | listFeatures | listStates =>
    cases h
    exact hreply 200
  | deleteFeature id | deleteState id =>
    cases h
    exact (map_eq_pure_bind _ _).symm
  | createFeature => exact (withPayload_of_operation 201 b h).trans (hreply 201)
  | updateFeature id => exact (withPayload_of_operation 200 b h).trans (hreply 200)
  | createState => exact (withPayload_of_operation 201 b h).trans (hreply 201)
  | updateState id => exact (withPayload_of_operation 200 b h).trans (hreply 200)

/-- The answer to a body that is refused, which no handler changes. -/
structure Refused (e : Endpoint) (r : Request) (result : Except Failure Response) : Prop where
  told : Refusal e r (said result)
  handled : ∀ err, result ≠ .error (.service err)

/-- Any other body is refused, whatever the store is. -/
theorem withPayload_of_none {α : Type} {read : List (String × Json) → Checked α} {model : String}
    {make : α → Operation} (hrejects : ∀ issues, r.Rejected read issues → e.Rejects r issues)
    (h : (r.data?.bind fun v => (Checked.record model read v).accepted?.map make) = none) :
    ∃ result, Refused e r result ∧ ∀ {σ : Type} (go : α → Service σ Response),
      withPayload r read go = ofExcept result := by
  rcases withPayload_cases r read model with
    ⟨v, a, hv, ha, -⟩ | ⟨-, ⟨hunread, hgo⟩ | ⟨issues, hissues, hgo⟩⟩
  · rw [hv, Option.bind_some, Checked.accepted?_eq_some.2 ha] at h
    cases h
  · exact ⟨.ok (.detail 400 "There was an error parsing the body"), ⟨.unread hunread, nofun⟩, hgo⟩
  · obtain ⟨result, hhandled, hresult, hsaid⟩ := rejected_eq issues
    refine ⟨result, ⟨?_, hhandled⟩, fun go => (hgo go).trans hresult⟩
    rcases hsaid with ⟨hsaid, hall⟩ | ⟨hsaid, hsome⟩
    · rw [hsaid]
      exact .told (hrejects issues hissues) hall
    · rw [hsaid]
      exact .untold (hrejects issues hissues) hsome

/-- An endpoint answers a body that is no valid payload without the store. -/
theorem Endpoint.answer_of_refused (hplace : e.place?.isSome) (h : e.operation? r = none) :
    ∃ result, Refused e r result ∧
      ∀ {σ : Type} (b : Backend σ), e.answer b r = ofExcept result := by
  cases e with
  | ready | health | document => cases hplace
  | listFeatures | listStates | deleteFeature | deleteState => cases h
  | createFeature =>
    obtain ⟨result, hrefused, hgo⟩ := withPayload_of_none (e := .createFeature) (fun _ h => h) h
    exact ⟨result, hrefused, fun b => hgo _⟩
  | updateFeature id =>
    obtain ⟨result, hrefused, hgo⟩ := withPayload_of_none (e := .updateFeature id) (fun _ h => h) h
    exact ⟨result, hrefused, fun b => hgo _⟩
  | createState =>
    obtain ⟨result, hrefused, hgo⟩ := withPayload_of_none (e := .createState) (fun _ h => h) h
    exact ⟨result, hrefused, fun b => hgo _⟩
  | updateState id =>
    obtain ⟨result, hrefused, hgo⟩ := withPayload_of_none (e := .updateState id) (fun _ h => h) h
    exact ⟨result, hrefused, fun b => hgo _⟩

theorem route_of_operation (hasks : Asks root e r) (h : e.operation? r = some op) (b : Backend σ)
    {w w' : Served σ} {o : Except Failure Reply} (hrun : (b.run op).run.run w = (o, w')) :
    (route root b r).run.run w =
      (e.outcome o, { w' with entries := w'.entries ++ r.faultEntries o }) := by
  rw [route, hasks.find]
  show (tryCatch (e.answer b r) (tellError r)).run.run w = _
  rw [Endpoint.answer_of_operation h b, ExceptT.run_tryCatch, StateT.run_bind, Service.run_map,
    hrun]
  rcases o with f | reply
  · cases f with
    | service err => exact tellError_run r err w'
    | _ => simp only [Request.faultEntries, List.append_nil]; rfl
  · simp only [Request.faultEntries, List.append_nil]
    rfl

theorem route_of_refused (hasks : Asks root e r) {result : Except Failure Response}
    (hresult : Refused e r result) {b : Backend σ} (h : e.answer b r = ofExcept result)
    (w : Served σ) : (route root b r).run.run w = (result, w) := by
  rw [route, hasks.find]
  show (tryCatch (e.answer b r) (tellError r)).run.run w = _
  rw [h, ExceptT.run_tryCatch, StateT.run_bind, Service.run_ofExcept]
  rcases result with f | answer
  · cases f with
    | service err => exact absurd rfl (hresult.handled err)
    | _ => rfl
  · rfl

theorem respond_run (s : Settings) (b : Backend σ) (hmethod : r.method ≠ "OPTIONS")
    (w : Served σ) :
    (respond s b r).run w =
      (deliver s r ((route s.apiRoot b r).run.run w).1, ((route s.apiRoot b r).run.run w).2) := by
  have hnone : CrossOrigin.preflightMethod? r = none := by
    simp [CrossOrigin.preflightMethod?, hmethod]
  unfold respond deliver
  simp only [hnone]
  cases r.header? "origin" <;> rfl

end

end FeatureFlags.Http
