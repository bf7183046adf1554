import FeatureFlags.Proofs.Database.Reference
import FeatureFlags.Proofs.Database.Simulation

/-!
# Two backends side by side

A client asks a backend in memory and one with a database the same questions, in the same order. It
knows every record by the identifier that each of the two gave it when it was created (`Sides`),
and what it asks of the database it asks by the names that the database knows.

On a database that follows SQL and that starts with empty tables, the client never gets answers
that differ in anything but names, times and the order of listed states, and the contents of the
two never differ otherwise either (`alike_of_visits`).
-/

namespace FeatureFlags

open Database

/-- What a client asks a service: an operation of its store, or the document. -/
inductive Question where
  | operation (op : Operation)
  | document

/-- What a service answers. -/
inductive Response where
  | reply (r : Reply)
  | document (d : Targeting.Document)

def Backend.respond {σ : Type} (b : Backend σ) : Question → Service σ Response
  | .operation op => .reply <$> b.run op
  | .document => .document <$> b.document

def Question.renamed (φ : Renaming) : Question → Question
  | .operation op => .operation (op.renamed φ)
  | .document => .document

/-- Are two answers the same but for names and times? Documents have to be equal. -/
def Response.Alike (φ : Renaming) : Except Failure Response → Except Failure Response → Prop
  | .ok (.reply r), .ok (.reply r') => r.Alike φ r'
  | .ok (.document d), .ok (.document d') => d' = d
  | .error f, .error f' => f' = f.renamed φ
  | _, _ => False

/-- The client may ask the question: its payload is valid, and it is no update of a state. -/
def Question.Asked : Question → Prop
  | .operation op => op.Validated ∧ op.method ≠ .updateState
  | .document => True

/-! ## Runs of one question -/

theorem Response.alike_reply_iff {φ : Renaming} {r r' : Except Failure Reply} :
    Response.Alike φ (r.map .reply) (r'.map .reply) ↔ AnsweredAlike φ r r' := by
  cases r <;> cases r' <;> rfl

/-- What is seen of the database behind a backend. -/
def Served.seen {σ : Type} (view : σ → View) (w : Served (Session σ)) : View :=
  view w.contents.database

/-- The backend with a database performs an operation on its tables. -/
theorem Backend.database_performs {σ : Type} {engine : Engine σ} {view : σ → View}
    (sql : engine.FollowsSql view) {w : Served (Session σ)} (op : Operation)
    (hidle : (w.seen view).stage = .idle) (htidy : op.Tidy) (hop : op.method ≠ .updateState)
    (htyped : (w.seen view).tables.Typed)
    (hfeature : op.method = .createFeature →
      (w.seen view).tables.features (Identifier.next .feature w.contents.issued) = none)
    (hstate : op.method = .createState →
      (w.seen view).tables.states (Identifier.next .featureState w.contents.issued) = none) :
    ∃ r w', ((Backend.database engine).run op).run.run w = (r, w') ∧
      (w'.seen view).stage = .idle ∧
      Performed (w.seen view).tables w.contents.issued op r (w'.seen view).tables := by
  have hseen : Session.seen view { w.contents with entries := [] } =
      ⟨(w.seen view).tables, .idle, w.contents.issued⟩ := by
    rw [← hidle]
    rfl
  exact ⟨_, _, rfl, program_ensures sql htidy hop htyped hfeature hstate _ hseen⟩

/-- The document of the backend with a database is compiled from what its tables list. -/
theorem Backend.database_document {σ : Type} {engine : Engine σ} {view : σ → View}
    (sql : engine.FollowsSql view) {w : Served (Session σ)}
    (hidle : (w.seen view).stage = .idle) (htyped : (w.seen view).tables.Typed) :
    ∃ ids sids w', Lists (w.seen view).tables.features ids ∧
      (w.seen view).tables.InKeyOrder ids ∧ Lists (w.seen view).tables.joined? sids ∧
      (w'.seen view).tables = (w.seen view).tables ∧ (w'.seen view).stage = .idle ∧
      (Backend.database engine).document.run.run w =
        (.ok (Targeting.compile (ids.filterMap (w.seen view).tables.feature?)
          (sids.filterMap (w.seen view).tables.state?)), w') := by
  obtain ⟨r, w₁, hrun₁, hidle₁, hp₁⟩ :=
    database_performs sql .listFeatures hidle trivial nofun htyped nofun nofun
  generalize ht₁ : (w₁.seen view).tables = t₁ at hp₁
  cases hp₁ with
  | @listFeatures ids hids hkeys =>
    rw [← ht₁] at htyped
    obtain ⟨r, w₂, hrun₂, hidle₂, hp₂⟩ :=
      database_performs sql .listStates hidle₁ trivial nofun htyped nofun nofun
    rw [ht₁] at hp₂
    generalize ht₂ : (w₂.seen view).tables = t₂ at hp₂
    cases hp₂ with
    | @listStates sids hsids =>
      refine ⟨ids, sids, _, hids, hkeys, hsids, ?_, ?_, document_of_reads _ hrun₁ hrun₂⟩
      · exact ht₂
      · exact hidle₂

/-! ## Both sides -/

/-- Two backends and the names that records have on both sides. -/
structure Sides (σ : Type) where
  names : Renaming
  memory : Served Store
  database : Served (Session σ)

namespace Sides

variable {σ : Type}

/-- Two new backends: an empty store, and a database that nobody has asked anything yet. -/
def new (database : σ) : Sides σ := ⟨.same, ⟨.empty, []⟩, ⟨.new database, []⟩⟩

/-- The run of a question in memory. -/
def inMemory (b : Sides σ) (q : Question) : Except Failure Response × Served Store :=
  ((Backend.memory Outages.none).respond q).run.run b.memory

/-- The run of a question in the database, by the names that it knows. -/
def inDatabase (engine : Engine σ) (b : Sides σ) (q : Question) :
    Except Failure Response × Served (Session σ) :=
  ((Backend.database engine).respond (q.renamed b.names)).run.run b.database

/-- The names that are known after a question was answered. -/
def learnt (engine : Engine σ) (b : Sides σ) (q : Question) : Renaming :=
  match q, (b.inMemory q).1, (b.inDatabase engine q).1 with
  | .operation op, .ok (.reply r), .ok (.reply r') => b.names.learn op (.ok r) (.ok r')
  | _, _, _ => b.names

/-- Both backends after a question. -/
def after (engine : Engine σ) (b : Sides σ) (q : Question) : Sides σ :=
  ⟨b.learnt engine q, (b.inMemory q).2, (b.inDatabase engine q).2⟩

/-- Both answer the question alike, by the names that are known then. -/
def AnswersAlike (engine : Engine σ) (b : Sides σ) (q : Question) : Prop :=
  Response.Alike (b.after engine q).names (b.inMemory q).1 (b.inDatabase engine q).1

/-- The questions of a client, each with the backends as they are when it is asked. -/
def visits (engine : Engine σ) : Sides σ → List Question → List (Sides σ × Question)
  | _, [] => []
  | b, q :: rest => (b, q) :: visits engine (b.after engine q) rest

variable (view : σ → View)

/-- The tables of the database. -/
def tables (b : Sides σ) : Tables := (b.database.seen view).tables

/-- A question that creates a record draws identifiers that are not in use, on both sides. -/
def DrawsFresh (b : Sides σ) : Question → Prop
  | .operation op => op.DrawsFresh b.memory.contents (b.tables view) b.database.contents.issued
  | .document => True

instance (b : Sides σ) (q : Question) : Decidable (b.DrawsFresh view q) :=
  match q with
  | .operation op =>
    inferInstanceAs (Decidable (op.DrawsFresh b.memory.contents (b.tables view) _))
  | .document => .isTrue trivial

/-- The contents of the backends are the same but for names and times. -/
def SameContents (b : Sides σ) : Prop := Matches b.names b.memory.contents (b.tables view)

/-- What holds of two backends that are asked the same. -/
structure InStep (b : Sides σ) : Prop where
  simulates : Simulates b.names b.memory.contents (b.tables view)
  idle : (b.database.seen view).stage = .idle

variable {engine : Engine σ} {b : Sides σ} {view}

theorem InStep.new {database : σ} (h : view database = ⟨Tables.empty, .idle⟩) :
    (new database).InStep view := by
  refine ⟨⟨?_, Store.sound_empty, ?_, rfl⟩, ?_⟩
  · show Matches .same Store.empty (view database).tables
    rw [h]
    exact .empty
  · show (view database).tables.Typed
    rw [h]
    exact .empty
  · show (view database).stage = .idle
    rw [h]

/-- In memory an operation is answered by the store. -/
theorem inMemory_operation (b : Sides σ) (op : Operation) :
    b.inMemory (.operation op) =
      ((b.memory.contents.reply op).map .reply,
        { b.memory with contents := b.memory.contents.after op }) := by
  show (Response.reply <$> (Backend.memory Outages.none).run op).run.run b.memory = _
  rw [Service.run_map, Backend.memory_run]

/-- What is learnt of an operation is what its two answers tell. -/
theorem learnt_operation {op : Operation} {r' : Except Failure Reply} {w' : Served (Session σ)}
    (h : b.inDatabase engine (.operation op) = (r'.map .reply, w')) :
    b.learnt engine (.operation op) = b.names.learn op (b.memory.contents.reply op) r' := by
  unfold learnt
  rw [inMemory_operation, h]
  cases b.memory.contents.reply op with
  | error f => exact (b.names.learn_error_left op f r').symm
  | ok r =>
    cases r' with
    | error f' => exact (b.names.learn_error_right op (.ok r) f').symm
    | ok r' => rfl

section
variable (sql : engine.FollowsSql view)

include sql

/-- Both answer an operation alike, and they are in step afterwards. -/
theorem InStep.operation (h : b.InStep view) {op : Operation} (hop : op.Validated)
    (hmethod : op.method ≠ .updateState) (hfresh : b.DrawsFresh view (.operation op)) :
    b.AnswersAlike engine (.operation op) ∧ (b.after engine (.operation op)).InStep view := by
  rw [← op.method_renamed b.names] at hmethod
  obtain ⟨r', w', hrun, hidle, hp⟩ := Backend.database_performs sql (op.renamed b.names) h.idle
    (hop.tidy.renamed b.names) hmethod h.simulates.typed
    (fun hcreate => hfresh.feature_unused (op.method_renamed b.names ▸ hcreate))
    (fun hcreate => hfresh.state_unused (op.method_renamed b.names ▸ hcreate))
  have hdatabase : b.inDatabase engine (.operation op) = (r'.map .reply, w') := by
    show (Response.reply <$> (Backend.database engine).run (op.renamed b.names)).run.run
      b.database = _
    rw [Service.run_map, hrun]
  obtain ⟨halike, hsimulates⟩ := h.simulates.step hop.tidy hfresh hp
  unfold AnswersAlike after
  rw [learnt_operation hdatabase, inMemory_operation, hdatabase]
  exact ⟨Response.alike_reply_iff.2 halike, hsimulates, hidle⟩

/-- Both have the same document, and they are in step afterwards. -/
theorem InStep.document (h : b.InStep view) :
    b.AnswersAlike engine .document ∧ (b.after engine .document).InStep view := by
  obtain ⟨ids, sids, w', hids, hkeys, hsids, htables, hidle, hrun⟩ :=
    Backend.database_document sql h.idle h.simulates.typed
  obtain ⟨entries, hmemory⟩ : ∃ entries, b.inMemory .document =
      (.ok (.document (Targeting.compile b.memory.contents.listFeatures
        b.memory.contents.listStates)), ⟨b.memory.contents, entries⟩) := by
    show ∃ entries, (Response.document <$> (Backend.memory Outages.none).document).run.run
      b.memory = _
    rw [Service.run_map, Store.document_memory]
    exact ⟨_, rfl⟩
  have hdatabase : b.inDatabase engine .document =
      (.ok (.document (Targeting.compile (ids.filterMap (b.tables view).feature?)
        (sids.filterMap (b.tables view).state?))), w') := by
    show (Response.document <$> (Backend.database engine).document).run.run b.database = _
    rw [Service.run_map, hrun]
    rfl
  have hsame : Targeting.compile (ids.filterMap (b.tables view).feature?)
      (sids.filterMap (b.tables view).state?) =
        Targeting.compile b.memory.contents.listFeatures b.memory.contents.listStates :=
    h.simulates.contents.compile_eq h.simulates.sound hids hkeys hsids
  unfold AnswersAlike after
  rw [hmemory, hdatabase]
  refine ⟨hsame, ?_, hidle⟩
  show Simulates b.names b.memory.contents (w'.seen view).tables
  rw [htables]
  exact h.simulates

/-! ## Whole runs -/

/-- Two backends that are in step stay so, and answer alike, as long as what they draw is fresh. -/
theorem InStep.visits (h : b.InStep view) {questions : List Question}
    (hasked : ∀ q ∈ questions, q.Asked)
    (hfresh : ∀ x ∈ b.visits engine questions, x.1.DrawsFresh view x.2) :
    ∀ x ∈ b.visits engine questions,
      x.1.AnswersAlike engine x.2 ∧ (x.1.after engine x.2).InStep view := by
  induction questions generalizing b with
  | nil => nofun
  | cons q rest ih =>
    have hnow : b.AnswersAlike engine q ∧ (b.after engine q).InStep view := by
      have hfresh := hfresh (b, q) (List.mem_cons_self ..)
      cases q with
      | operation op =>
        obtain ⟨hop, hmethod⟩ := hasked (.operation op) (List.mem_cons_self ..)
        exact h.operation sql hop hmethod hfresh
      | document => exact h.document sql
    intro x hx
    rcases List.mem_cons.1 hx with rfl | hx
    · exact hnow
    · exact ih hnow.2 (fun q hq => hasked q (List.mem_cons_of_mem _ hq))
        (fun x hx => hfresh x (List.mem_cons_of_mem _ hx)) x hx

/-- **The store in a database and the store in memory are the same to a client.** -/
theorem alike_of_visits {database : σ} (hempty : view database = ⟨Tables.empty, .idle⟩)
    (questions : List Question) (hasked : ∀ q ∈ questions, q.Asked)
    (hfresh : ∀ x ∈ (new database).visits engine questions, x.1.DrawsFresh view x.2) :
    ∀ x ∈ (new database).visits engine questions,
      x.1.AnswersAlike engine x.2 ∧ (x.1.after engine x.2).SameContents view := by
  intro x hx
  obtain ⟨halike, hstep⟩ := (InStep.new hempty).visits sql hasked hfresh x hx
  exact ⟨halike, hstep.simulates.contents⟩

end

/-- New Year's midnight, as the database gives it. -/
def newYear : Stamp where
  json := .string "2024-01-01T00:00:00Z"
  time := ⟨⟨2024, 1, 1, 0, 0, 0, 0, some 0⟩, by decide⟩
  reads := by rfl

/-- A key is given twice, so that the two sides know the next feature by different names; that
feature gets a state, and is asked to go before and after the state does. -/
def renamedQuestions : List Question :=
  [.operation (.createFeature ⟨"checkout", "Checkout", none⟩),
    .operation (.createFeature ⟨"checkout", "Checkout", none⟩),
    .operation (.createFeature ⟨"search", "Search", none⟩),
    .operation (.createState ⟨none, some "search", .organization, some "org-1", true⟩),
    .document,
    .operation (.deleteFeature (Identifier.next .feature 1)),
    .operation (.deleteState (Identifier.next .featureState 2)),
    .operation (.deleteFeature (Identifier.next .feature 1))]

theorem renamedQuestions_asked : ∀ q ∈ renamedQuestions, q.Asked := by
  have hfeature : ∀ key name, Feature.Draft.ofJson
      (.object [("key", .string key), ("name", .string name)]) = .accepted ⟨key, name, none⟩ →
      (Question.operation (.createFeature ⟨key, name, none⟩)).Asked :=
    fun _ _ h => ⟨⟨_, h⟩, nofun⟩
  have hstate : FeatureState.Draft.ofJson
      (.object [("featureKey", .string "search"), ("contextType", .string "organization"),
        ("contextId", .string "org-1"), ("state", .bool true)]) =
      .accepted ⟨none, some "search", .organization, some "org-1", true⟩ := rfl
  simp only [renamedQuestions, List.forall_mem_cons]
  refine ⟨hfeature _ _ rfl, hfeature _ _ rfl, hfeature _ _ rfl, ⟨⟨_, hstate⟩, nofun⟩, trivial,
    ?_, ?_, ?_, nofun⟩
  · exact ⟨trivial, nofun⟩
  · exact ⟨trivial, nofun⟩
  · exact ⟨trivial, nofun⟩

theorem alike_of_visits_renamed :
    let engine := Reference.engine newYear
    let both := Sides.new Reference.empty
    engine.FollowsSql Reference.view ∧ Reference.view Reference.empty = ⟨Tables.empty, .idle⟩ ∧
      (∀ q ∈ renamedQuestions, q.Asked) ∧
      (∀ x ∈ both.visits engine renamedQuestions, x.1.DrawsFresh Reference.view x.2) ∧
      ∀ x ∈ both.visits engine renamedQuestions,
        x.1.AnswersAlike engine x.2 ∧ (x.1.after engine x.2).SameContents Reference.view := by
  intro engine both
  have hfresh : ∀ x ∈ both.visits engine renamedQuestions, x.1.DrawsFresh Reference.view x.2 := by
    decide +kernel
  exact ⟨Reference.followsSql newYear, rfl, renamedQuestions_asked, hfresh,
    alike_of_visits (Reference.followsSql newYear) rfl renamedQuestions renamedQuestions_asked
      hfresh⟩

end Sides

end FeatureFlags
