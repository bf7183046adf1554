import FeatureFlags.Proofs.Database.Program
import FeatureFlags.Proofs.Failure
import FeatureFlags.Proofs.Http.Surface
import FeatureFlags.Proofs.Targeting.Overrides
import Mathlib.Data.Finset.Card

/-!
# A document or none

A backend is read in two steps, the features and then the states, and either can fail in any way.
Whatever comes of it (`Backend.Reads`), there is a document only of what both reads gave, all of it;
a failure that means that the store could not be read is told as that, and any other stays what it
is. `Outcome` has a case for each, with what the client is told and what is logged.
-/

namespace FeatureFlags

namespace Backend

variable {σ : Type} {b : Backend σ} {w w' : Served σ}

/-! ## Reading a backend -/

/-- Asked for a list, the backend gives one, unless it fails. -/
structure GivesLists (b : Backend σ) : Prop where
  features : ∀ w reply w', (b.run .listFeatures).run.run w = (.ok reply, w') →
    ∃ features, reply = .features features
  states : ∀ w reply w', (b.run .listStates).run.run w = (.ok reply, w') →
    ∃ states, reply = .states states

/-- What the two reads of a backend come to. The states are read when the features have been. -/
inductive Reads (b : Backend σ) (w : Served σ) :
    Except Failure (List Feature × List FeatureState) → Served σ → Prop
  | both {features : List Feature} {states : List FeatureState} {w₁ w₂ : Served σ} :
      (b.run .listFeatures).run.run w = (.ok (.features features), w₁) →
      (b.run .listStates).run.run w₁ = (.ok (.states states), w₂) →
      Reads b w (.ok (features, states)) w₂
  | noFeatures {f : Failure} {w₁ : Served σ} :
      (b.run .listFeatures).run.run w = (.error f, w₁) → Reads b w (.error f) w₁
  | noStates {features : List Feature} {f : Failure} {w₁ w₂ : Served σ} :
      (b.run .listFeatures).run.run w = (.ok (.features features), w₁) →
      (b.run .listStates).run.run w₁ = (.error f, w₂) → Reads b w (.error f) w₂

theorem GivesLists.reads (hb : b.GivesLists) (w : Served σ) : ∃ read w', b.Reads w read w' := by
  rcases hfeatures : (b.run .listFeatures).run.run w with ⟨f | reply, w₁⟩
  · exact ⟨_, _, .noFeatures hfeatures⟩
  · obtain ⟨features, rfl⟩ := hb.features w reply w₁ hfeatures
    rcases hstates : (b.run .listStates).run.run w₁ with ⟨f | reply, w₂⟩
    · exact ⟨_, _, .noStates hfeatures hstates⟩
    · obtain ⟨states, rfl⟩ := hb.states w₁ reply w₂ hstates
      exact ⟨_, _, .both hfeatures hstates⟩

theorem map_eq_ok {α β : Type} {f : α → β} {r : Except Failure α} {y : β} (h : r.map f = .ok y) :
    ∃ x, r = .ok x ∧ f x = y := by
  cases r with
  | error e => cases h
  | ok x => exact ⟨x, rfl, Except.ok.inj h⟩

theorem memory_givesLists (out : Outages) : (memory out).GivesLists := by
  have hreply : ∀ (op : Operation) (w : Served Store) (reply : Reply) (w' : Served Store),
      ((memory out).run op).run.run w = (.ok reply, w') →
      ∃ store, w.contents.run op = .ok (reply, store) := by
    intro op w reply w' h
    rw [memory_run_with] at h
    obtain ⟨⟨reply', store⟩, hrun, rfl⟩ := map_eq_ok (congrArg Prod.fst h)
    exact ⟨store, Store.run_of_runWith hrun⟩
  constructor
  · intro w reply w' h
    obtain ⟨store, hrun⟩ := hreply .listFeatures w reply w' h
    cases hrun
    exact ⟨_, rfl⟩
  · intro w reply w' h
    obtain ⟨store, hrun⟩ := hreply .listStates w reply w' h
    cases hrun
    exact ⟨_, rfl⟩

theorem database_givesLists {τ : Type} (engine : Database.Engine τ) : (database engine).GivesLists := by
  have hreply : ∀ {α : Type} (make : α → Reply) (p : Database.Program α)
      (w : Served (Database.Session τ)) (reply : Reply) (w' : Served (Database.Session τ)),
      (Service.onDatabase engine (make <$> p)).run.run w = (.ok reply, w') →
      ∃ x, make x = reply := by
    intro α make p w reply w' h
    have hrun : ((make <$> p).run engine { w.contents with entries := [] }).1 = .ok reply :=
      congrArg Prod.fst h
    rw [Database.Program.run_map] at hrun
    obtain ⟨x, -, hx⟩ := map_eq_ok hrun
    exact ⟨x, hx⟩
  constructor
  · intro w reply w' h
    obtain ⟨features, rfl⟩ := hreply Reply.features Database.listFeatures w reply w' h
    exact ⟨features, rfl⟩
  · intro w reply w' h
    obtain ⟨states, rfl⟩ := hreply Reply.states Database.listStates w reply w' h
    exact ⟨states, rfl⟩

theorem absent_givesLists : (absent : Backend σ).GivesLists where
  features := fun _ _ _ h => nomatch h
  states := fun _ _ _ h => nomatch h

/-! ## From the reads to the document -/

theorem contents_of_error {f : Failure} (h : b.Reads w (.error f) w') :
    b.contents.run.run w = (.error f, w') := by
  unfold contents
  cases h with
  | noFeatures hfeatures =>
    rw [Service.run_bind, hfeatures]
  | @noStates features _ _ _ hfeatures hstates =>
    rw [Service.run_bind, hfeatures]
    show ((b.run .listStates) >>= fun r => pure (features, r.listedStates)).run.run _ = _
    rw [Service.run_bind, hstates]

/-- A failure to read goes by what is made of it. -/
theorem document_of_error {f : Failure} (h : b.Reads w (.error f) w') :
    b.document.run.run w =
      if f.isReadError then
        (.error (.service .noDocument),
          { w' with
            entries := w'.entries ++
              [⟨.error, documentLogger, "Flag store read failed: " ++ f.message, []⟩] })
      else (.error f, w') := by
  have hread : (tryCatch b.contents unread).run.run w = (unread f).run.run w' := by
    rw [ExceptT.run_tryCatch, StateT.run_bind, contents_of_error h]
    rfl
  unfold document
  rw [Service.run_bind, hread, unread]
  by_cases hf : f.isReadError = true
  · simp only [hf, if_true]
    rfl
  · simp only [hf]
    rfl

end Backend

namespace Targeting

/-- A document has one flag for every feature key. -/
theorem length_entries_compile (features : List Feature) (states : List FeatureState) :
    (compile features states).flags.entries.length =
      (features.map Feature.key).toFinset.card := by
  have hkeys : (compile features states).flags.keys.toFinset =
      (features.map Feature.key).toFinset := by
    ext key
    rw [List.mem_toFinset, List.mem_toFinset, keys_compile_eq_eraseDups, List.mem_eraseDups]
  have hnodup : (compile features states).flags.keys.Nodup :=
    (compile features states).flags.nodup_keys
  rw [← hkeys, List.toFinset_card_of_nodup hnodup, Table.keys, List.length_map]

/-- The rules of all flags, in the order of the flags. -/
def Document.rules (d : Document) : List Rule := d.flags.values.flatMap fun f => f.targeting.getD []

theorem Document.ruleCount_eq_length (d : Document) : d.ruleCount = d.rules.length := by
  rw [ruleCount_eq_sum, Document.rules, List.length_flatMap]
  congr 1
  refine List.map_congr_left fun f _ => ?_
  cases h : f.targeting <;> simp [Flag.ruleCount, h]

end Targeting

theorem ServiceError.status_ne_ok (e : ServiceError) : e.status ≠ 200 := by
  cases e <;> simp [status]

namespace Http

variable {σ : Type} {b : Backend σ} {w w' : Served σ}

/-! ## From the reads to the answer -/

/-- What the reads of a backend come to: the document or the failure, what a client is told who
asks for the document, and what is logged of its making. -/
inductive Outcome : Except Failure (List Feature × List FeatureState) →
    Except Failure Targeting.Document → Told → List Log.Entry → Prop
  /-- Both lists were read. -/
  | compiled {features : List Feature} {states : List FeatureState} {d : Targeting.Document} :
      d = Targeting.compile features states →
      Outcome (.ok (features, states)) (.ok d) ⟨200, .json d.toJson⟩
        [⟨.info, Backend.documentLogger, "Flagd config compiled",
          [("flags_count", .int (features.map Feature.key).toFinset.card),
            ("rules_count", .int d.rules.length)]⟩]
  /-- The store could not be read, and nothing is compiled. -/
  | unavailable {f : Failure} : f.MeansUnread →
      Outcome (.error f) (.error (.service .noDocument))
        ⟨503, .json (.object [("error", .string "Failed to generate flagd config")])⟩
        [⟨.error, Backend.documentLogger, "Flag store read failed: " ++ f.message, []⟩]
  /-- Another error of the service goes on as it is, under its own status. -/
  | ownStatus {e : ServiceError} : ¬ (Failure.service e).MeansUnread →
      Outcome (.error (.service e)) (.error (.service e))
        ⟨e.status, .json (.object [("error", .string e.message)])⟩ []
  /-- Any other failure goes on as it is, and nothing is told of it. -/
  | broken {f : Failure} : ¬ f.MeansUnread → (∀ e, f ≠ .service e) →
      Outcome (.error f) (.error f) ⟨500, .text "Internal Server Error"⟩ []

variable {read : Except Failure (List Feature × List FeatureState)}
  {result : Except Failure Targeting.Document} {told : Told} {entries : List Log.Entry}

theorem exists_outcome (h : b.Reads w read w') : ∃ result told entries,
    Outcome read result told entries ∧
      b.document.run.run w = (result, { w' with entries := w'.entries ++ entries }) := by
  rcases read with f | ⟨features, states⟩
  · by_cases hf : f.MeansUnread
    · refine ⟨_, _, _, .unavailable hf, ?_⟩
      rw [Backend.document_of_error h, if_pos ((Failure.isReadError_iff f).2 hf)]
    · have hrun : b.document.run.run w = (.error f, { w' with entries := w'.entries ++ [] }) := by
        rw [Backend.document_of_error h, if_neg fun hread => hf ((Failure.isReadError_iff f).1 hread),
          List.append_nil]
      cases f with
      | service e => exact ⟨_, _, _, .ownStatus hf, hrun⟩
      | _ => exact ⟨_, _, _, .broken hf nofun, hrun⟩
  · obtain ⟨h₁, h₂⟩ := h
    refine ⟨_, _, _, .compiled rfl, ?_⟩
    rw [b.document_of_reads h₁ h₂, Targeting.length_entries_compile,
      Targeting.Document.ruleCount_eq_length]

theorem Outcome.result_ok_iff (h : Outcome read result told entries) :
    (∃ d, result = .ok d) ↔ ∃ lists, read = .ok lists := by
  cases h <;> simp

theorem Outcome.status_iff (h : Outcome read result told entries) :
    told.status = 200 ↔ ∃ lists, read = .ok lists := by
  cases h with
  | ownStatus _ => simp [ServiceError.status_ne_ok]
  | _ => simp

section

variable [Json.DepthLimit]

/-- A client who asks for the document is told what comes of it. -/
theorem Outcome.route (h : Outcome read result told entries) {w'' : Served σ}
    (hdocument : b.document.run.run w = (result, w'')) {root : String} {r : Request}
    (hfind : Route.find root r.method r.path = .endpoint .document) :
    said ((Http.route root b r).run.run w).1 = told ∧
      ((Http.route root b r).run.run w).2.contents = w''.contents := by
  have hanswer : (Endpoint.document.answer b r : Service σ Response) =
      (fun d => Response.json 200 d.toJson) <$> b.document := (map_eq_pure_bind _ _).symm
  have hroute : (Http.route root b r).run.run w =
      (match result with
        | .ok d => (pure (Response.json 200 d.toJson) : Service σ Response)
        | .error f => tellError r f).run.run w'' := by
    rw [Http.route, hfind]
    show (tryCatch (Endpoint.document.answer b r) (tellError r)).run.run w = _
    rw [hanswer, ExceptT.run_tryCatch, StateT.run_bind, Service.run_map, hdocument]
    cases result <;> rfl
  rw [hroute]
  cases h with
  | compiled _ => exact ⟨rfl, rfl⟩
  | unavailable _ | ownStatus _ =>
    simp only [tellError_run]
    exact ⟨rfl, trivial⟩
  | @broken f _ hf =>
    cases f with
    | service e => exact absurd rfl (hf e)
    | _ => exact ⟨rfl, rfl⟩

/-- **There is no partial document.** A backend has a document just when both of its reads give a
list, and it is compiled from these two lists. A failure that means that the store could not be read
is told as that, and any other is the one of the read. A client who asks for the document is told
the same, and is never told of success when a read has failed. -/
theorem document_of_both_reads (b : Backend σ) (hb : b.GivesLists) (w : Served σ) :
    ∃ read w' result told entries, b.Reads w read w' ∧ Outcome read result told entries ∧
      b.document.run.run w = (result, { w' with entries := w'.entries ++ entries }) ∧
      ((∃ d, result = .ok d) ↔ ∃ lists, read = .ok lists) ∧
      (told.status = 200 ↔ ∃ lists, read = .ok lists) ∧
      ∀ (s : Settings) (r : Request), r.method = "GET" → r.path = s.apiRoot ++ "/flagd.json" →
        ((respond s b r).run w).1.told = told ∧
          ((respond s b r).run w).2.contents = w'.contents := by
  obtain ⟨read, w', hreads⟩ := hb.reads w
  obtain ⟨result, told, entries, houtcome, hdocument⟩ := exists_outcome hreads
  refine ⟨read, w', result, told, entries, hreads, houtcome, hdocument, houtcome.result_ok_iff,
    houtcome.status_iff, ?_⟩
  intro s r hmethod hpath
  have hfind : Route.find s.apiRoot r.method r.path = .endpoint .document := by
    rw [hmethod, hpath]
    exact Route.find_append s.apiRoot (by decide)
  obtain ⟨htold, hcontents⟩ := houtcome.route hdocument hfind
  have hoptions : r.method ≠ "OPTIONS" := by rw [hmethod]; decide
  have hhead : r.method ≠ "HEAD" := by rw [hmethod]; decide
  rw [respond_run s b hoptions w]
  exact ⟨(told_deliver s hhead _).trans htold, hcontents⟩

end

/-- Features can be listed, but a list of states takes too long. -/
def statesDown : Outages
  | .listStates => some (.system .timeout "timed out")
  | _ => none

/-- When the states cannot be read, the features alone make no document. -/
theorem document_of_both_reads_statesDown :
    (Backend.memory statesDown).GivesLists ∧
      (simple "GET" "/flagd.json" "").path = Settings.plain.apiRoot ++ "/flagd.json" ∧
      ((respond .plain (Backend.memory statesDown) (simple "GET" "/flagd.json" "")).run
        ⟨.empty, []⟩).1.told =
          ⟨503, .json (.object [("error", .string "Failed to generate flagd config")])⟩ := by
  have hlists : (Backend.memory statesDown).GivesLists := Backend.memory_givesLists statesDown
  have hpath : (simple "GET" "/flagd.json" "").path = Settings.plain.apiRoot ++ "/flagd.json" := by
    decide
  obtain ⟨read, w', result, told, entries, hreads, houtcome, -, -, -, hrespond⟩ :=
    document_of_both_reads (Backend.memory statesDown) hlists ⟨.empty, []⟩
  obtain ⟨htold, -⟩ := hrespond .plain (simple "GET" "/flagd.json" "") rfl hpath
  refine ⟨hlists, hpath, htold.trans ?_⟩
  have hread : read = .error (.system .timeout "timed out") := by
    cases hreads with
    | both _ hstates => cases hstates
    | noFeatures hfeatures => cases hfeatures
    | noStates _ hstates => cases hstates; rfl
  have hunread : (Failure.system .timeout "timed out").MeansUnread :=
    ⟨.system, by decide, .single rfl⟩
  subst hread
  cases houtcome with
  | unavailable _ => rfl
  | broken hnot _ => exact absurd hunread hnot

end Http

end FeatureFlags
