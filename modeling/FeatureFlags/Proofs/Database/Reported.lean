import FeatureFlags.Proofs.Database.Guarded
import FeatureFlags.Proofs.Payload

/-!
# What is reported of a write

What an operation tells its client against what the database told it of the write. An operation on
a record that has to be there gives a record only if its write affected a row
(`change_reported`); a state is deleted without a look at what the deletion reports, which is the
exception. An operation that writes a state and fails has written nothing, unless it is the read
after the write that failed (`nothing_written_or_unread`).

Both hold under every sequence of answers, so whatever other clients do between two statements.
-/

namespace FeatureFlags

open Database

namespace Database

/-! ## Reports -/

/-- The answer says that there is no row, or that none was affected. -/
def Statement.ReportsNone (s : Statement) (v : Json) : Prop :=
  match s with
  | .insertState .. => v = .string "INSERT 0 0"
  | .updateState .. => v = .string "UPDATE 0"
  | .deleteState _ => v = .string "DELETE 0"
  | s => s.want = .row ∧ v.isTruthy = false

/-- The answer to a write says that a row was affected: it is a row with columns, or any other status
than that of no row. -/
def Statement.ReportsRow (s : Statement) (v : Json) : Prop :=
  match s.want with
  | .row => ∃ row, row ≠ [] ∧ v = .object row
  | _ => ¬ s.ReportsNone v

theorem Statement.isTruthy_of_reportsNone {s : Statement} {v : Json} (hs : s.want = .row)
    (h : s.ReportsNone v) : v.isTruthy = false := by
  cases s with
  | insertState | updateState | deleteState => cases hs
  | _ => exact h.2

def Event.ReportsNone : Event → Prop
  | .asked s (.ok v) => s.ReportsNone v
  | _ => False

/-- The answer to a read is the row of a state. -/
def HoldsState (a : Except Failure Json) : Prop :=
  ∃ row st, a = .ok (.object row) ∧ FeatureState.ofJson (.object row) = .accepted st

end Database

/-- The failure of an operation on a record that has to be there and is not. -/
def Operation.missing? : Operation → Option ServiceError
  | .updateFeature .. => some .noFeature
  | .deleteFeature _ => some .noFeature
  | .updateState .. => some .noState
  | .deleteState _ => some .noState
  | _ => none

/-- None of the statements is a write of the operation. -/
def Operation.OnlyReads (op : Operation) (events : List Event) : Prop :=
  ∀ s a, .asked s a ∈ events → ¬ op.Writes s

/-- After reads, a write of the operation is the one that was sent then. -/
theorem Operation.OnlyReads.eq_of_mem {op : Operation} {reads : List Event} {write s : Statement}
    {a b : Except Failure Json} (hreads : op.OnlyReads reads) (hs : op.Writes s)
    (hmem : .asked s a ∈ reads ++ [.asked write b]) : s = write ∧ a = b := by
  rcases List.mem_append.1 hmem with hmem | hmem
  · exact absurd hs (hreads s a hmem)
  · simpa using hmem

theorem Operation.onlyReads_nil (op : Operation) : op.OnlyReads [] :=
  fun _ _ hmem => absurd hmem List.not_mem_nil

theorem Operation.onlyReads_singleton {op : Operation} {s : Statement} {a : Except Failure Json}
    (hs : ¬ op.Writes s) : op.OnlyReads [.asked s a] := by
  intro s' a' hmem
  obtain ⟨rfl, rfl⟩ := by simpa using hmem
  exact hs

/-- The write of the operation was not sent, failed, affected no row or was rolled back. -/
def Operation.WroteNothing (op : Operation) (events : List Event) : Prop :=
  ∀ s v, op.Writes s → .asked s (.ok v) ∈ events →
    s.ReportsNone v ∨ .controlled .rollback ∈ events

/-- The operation gives a record only if its write affected a row, and it says that there is no such
record when a statement told that there is none. -/
structure Operation.Reported (op : Operation) (missing : ServiceError) (events : List Event)
    (r : Except Failure Reply) : Prop where
  affected : ∀ reply, r = .ok reply →
    ∃ s v, op.Writes s ∧ .asked s (.ok v) ∈ events ∧ s.ReportsRow v
  missing : ∀ e ∈ events, e.ReportsNone → r = .error (.service missing)

theorem Operation.Reported.of_error {op : Operation} {missing : ServiceError}
    {events : List Event} {f : Failure}
    (h : ∀ e ∈ events, e.ReportsNone → f = .service missing) :
    op.Reported missing events (.error f) :=
  ⟨fun _ hr => (nomatch hr), fun e he hnone => congrArg Except.error (h e he hnone)⟩

/-- What is done with connections reports nothing. -/
theorem Operation.Reported.inTransaction {op : Operation} {missing : ServiceError}
    {events : List Event} {r : Except Failure Reply} (h : op.Reported missing events r)
    {c₁ c₂ c₃ c₄ : Control} :
    op.Reported missing
      ([.controlled c₁, .controlled c₂] ++ events ++ [.controlled c₃, .controlled c₄]) r := by
  constructor
  · intro reply hr
    obtain ⟨s, v, hs, hsv, hv⟩ := h.affected reply hr
    exact ⟨s, v, hs, by simp [hsv], hv⟩
  · intro e he hnone
    have hmem : e ∈ events := by
      cases e with
      | asked s a => simpa using he
      | controlled c => exact hnone.elim
    exact h.missing e hmem hnone

namespace Database

/-! ## Writing a state -/

/-- How the read of a state ends by its answer. -/
inductive ReadsState : Except Failure Json → Except Failure FeatureState → Prop
  | read {a : Except Failure Json} {st : FeatureState} (h : HoldsState a) : ReadsState a (.ok st)
  | failed {a : Except Failure Json} {f : Failure} (h : ¬ HoldsState a)
      (hf : ∀ v, a = .ok v → v.isTruthy = false → f = .service .noState) : ReadsState a (.error f)

/-- What is asked for a write of a state after these reads, and how it ends: the write, and a read
of what was written. -/
inductive StateWrite (op : Operation) (reads : List Event) :
    List Event → Except Failure FeatureState → Prop
  | unresolved {f : Failure} : StateWrite op reads reads (.error f)
  | refused {write : Statement} {e f : Failure} (hwrite : op.Writes write) :
      StateWrite op reads (reads ++ [.asked write (.error e)]) (.error f)
  | nothing {write : Statement} {v : Json} (hwrite : op.Writes write)
      (hv : write.ReportsNone v) :
      StateWrite op reads (reads ++ [.asked write (.ok v)]) (.error (.service .noState))
  | reread {write : Statement} {v : Json} {id : String} {a : Except Failure Json}
      {r : Except Failure FeatureState} (hwrite : op.Writes write)
      (hv : op.method = .updateState → ¬ write.ReportsNone v) (hr : ReadsState a r) :
      StateWrite op reads (reads ++ [.asked write (.ok v)] ++ [.asked (.selectState id) a]) r

section
variable {α : Type} {past : List Event}

theorem find?_always {read : Json → Checked α} {s : Statement}
    {post : List Event → Except Failure (Option α) → Prop}
    (h : ∀ a r, post (past ++ [.asked s a]) r) : (find? read s).Always past post := by
  refine .bind (.query fun a => ?_)
  cases a with
  | error f => exact h _ _
  | ok v =>
    refine .bind (rowOf?_always (fun _ => h _ _) (fun row _ _ => ?_) fun f _ _ => h _ _)
    exact .map (checked_always fun r => h _ _)

/-- The row of a state has columns. -/
theorem HoldsState.isTruthy {v : Json} (h : HoldsState (.ok v)) : v.isTruthy = true := by
  obtain ⟨row, st, hv, hst⟩ := h
  obtain rfl := Except.ok.inj hv
  cases row with
  | nil =>
    have hrejected : ∃ issues, FeatureState.ofJson (.object []) = .rejected issues := ⟨_, rfl⟩
    obtain ⟨issues, hissues⟩ := hrejected
    rw [hissues] at hst
    cases hst
  | cons column row => rfl

theorem readState_always {id : String} {post : List Event → Except Failure FeatureState → Prop}
    (h : ∀ a r, ReadsState a r → post (past ++ [.asked (.selectState id) a]) r) :
    (readState id).Always past post := by
  refine .bind (.query fun a => ?_)
  cases a with
  | error f =>
    refine h _ _ (.failed ?_ fun _ hv => nomatch hv)
    rintro ⟨row, st, hrow, -⟩
    cases hrow
  | ok v =>
    refine .bind (rowOf?_always (fun hv => ?_) (fun row hne hv => ?_) fun f htruthy hv => ?_)
    · refine h _ _ (.failed (fun hholds => ?_) fun _ _ _ => rfl)
      rw [hholds.isTruthy] at hv
      cases hv
    · subst hv
      show (checked (FeatureState.ofJson (.object row))).Always _ _
      cases hst : FeatureState.ofJson (.object row) with
      | accepted st => exact h _ _ (.read ⟨row, st, rfl, hst⟩)
      | rejected issues =>
        refine h _ _ (.failed ?_ fun v hv hfalsy => ?_)
        · rintro ⟨row', st, hrow, hst'⟩
          obtain rfl : row = row' := by simpa using hrow
          rw [hst] at hst'
          cases hst'
        · obtain rfl := Except.ok.inj hv
          rw [isTruthy_of_ne_nil hne] at hfalsy
          cases hfalsy
    · refine h _ _ (.failed ?_ fun v' hv' hfalsy => ?_)
      · rintro ⟨row, st, hrow, -⟩
        exact hv row (Except.ok.inj hrow)
      · obtain rfl := Except.ok.inj hv'
        rw [htruthy] at hfalsy
        cases hfalsy

/-- The owner is found by at most one read. -/
theorem ownerOf_always {d : FeatureState.Draft} {post : List Event → Except Failure Feature → Prop}
    (h : ∀ reads r, (Operation.createState d).OnlyReads reads → post reads r) :
    (ownerOf d).Always [] post := by
  unfold ownerOf
  dsimp only
  cases given d.featureId with
  | some id =>
    refine .bind (find?_always fun a r => ?_)
    have hread : ¬ (Operation.createState d).Writes (.selectFeature id) := not_false
    rcases r with e | _ | f <;> exact h _ _ (Operation.onlyReads_singleton hread)
  | none =>
    cases given d.featureKey with
    | some key =>
      refine .bind (find?_always fun a r => ?_)
      have hread : ¬ (Operation.createState d).Writes (.selectFeatureByKey key) := not_false
      rcases r with e | _ | f <;> exact h _ _ (Operation.onlyReads_singleton hread)
    | none => exact .bind (h _ _ (Operation.onlyReads_nil _))

theorem createState_always (d : FeatureState.Draft) :
    (createState d).Always [] fun es r =>
      ∃ reads, (Operation.createState d).OnlyReads reads ∧
        StateWrite (.createState d) reads es r := by
  refine .bind (ownerOf_always fun reads owner hreads => ?_)
  cases owner with
  | error f => exact ⟨reads, hreads, .unresolved⟩
  | ok owner =>
    intro id
    refine .bind (.mapFailure (.query fun a => ?_))
    have hwrite : (Operation.createState d).Writes
        (.insertState id owner.id d.contextType d.contextId d.state) := trivial
    cases a with
    | error e => exact ⟨reads, hreads, .refused hwrite⟩
    | ok v =>
      exact readState_always fun a r hr =>
        ⟨reads, hreads, .reread hwrite (fun h => nomatch h) hr⟩

theorem updatedNothing_iff {status : Json} :
    updatedNothing status = true ↔ status = .string "UPDATE 0" := by
  cases status <;> simp [updatedNothing]

theorem updateState_always (id : String) (p : FeatureState.Patch) :
    (updateState id p).Always [] (StateWrite (.updateState id p) []) := by
  have hwrite : (Operation.updateState id p).Writes
      (.updateState id p.featureId p.contextType p.contextId p.state) := rfl
  refine .bind (.mapFailure (.query fun a => ?_))
  cases a with
  | error e => exact .refused hwrite
  | ok status =>
    show Program.Always (if updatedNothing status then _ else _) _ _
    cases hstatus : updatedNothing status with
    | true => exact .nothing hwrite (updatedNothing_iff.1 hstatus)
    | false =>
      refine readState_always fun a r hr => .reread hwrite (fun _ hnone => ?_) hr
      rw [updatedNothing_iff.2 hnone] at hstatus
      cases hstatus

end

/-- An update of a state reports what its write does. -/
theorem StateWrite.reported {id : String} {p : FeatureState.Patch} {events : List Event}
    {r : Except Failure FeatureState} (h : StateWrite (.updateState id p) [] events r) :
    (Operation.updateState id p).Reported .noState events (r.map .state) := by
  cases h with
  | unresolved => exact .of_error fun _ he => absurd he List.not_mem_nil
  | refused hwrite =>
    refine .of_error fun e he hnone => ?_
    obtain rfl := List.mem_singleton.1 he
    exact hnone.elim
  | nothing hwrite hv => exact .of_error fun _ _ _ => rfl
  | @reread write v id' a r hwrite hv hr =>
    have hsome := hv rfl
    have hwant : write.want = .status := by
      cases write <;> first | rfl | cases hwrite
    constructor
    · intro _ _
      refine ⟨write, v, hwrite, by simp, ?_⟩
      rw [Statement.ReportsRow, hwant]
      exact hsome
    · intro e he hnone
      rcases List.mem_cons.1 he with rfl | he
      · exact absurd hnone hsome
      obtain rfl := List.mem_singleton.1 he
      cases a with
      | error f => exact hnone.elim
      | ok v' =>
        have hfalsy := Statement.isTruthy_of_reportsNone (s := .selectState id') rfl hnone
        cases hr with
        | read hholds =>
          rw [hholds.isTruthy] at hfalsy
          cases hfalsy
        | failed _ hf => exact congrArg Except.error (hf v' rfl hfalsy)

/-- The operations that write a state and read it back. -/
theorem stateWrite_always {op : Operation}
    (h : op.method = .createState ∨ op.method = .updateState) :
    (program op).Always [] fun es r =>
      ∃ reads r', op.OnlyReads reads ∧ StateWrite op reads es r' ∧ r = r'.map .state := by
  cases op with
  | createState d =>
    refine .map ((createState_always d).mono fun es r hr => ?_)
    obtain ⟨reads, hreads, hwrite⟩ := hr
    exact ⟨reads, r, hreads, hwrite, rfl⟩
  | updateState id p =>
    exact .map ((updateState_always id p).mono fun es r hwrite =>
      ⟨[], r, Operation.onlyReads_nil _, hwrite, rfl⟩)
  | _ => rcases h with h | h <;> cases h

/-! ## Writing in a transaction -/

/-- Only the deletion of a state answers by a status inside of a transaction. -/
theorem Guarded.deletes_state {g : Guarded} {write : Statement} (hwrite : g.operation.Writes write)
    (hs : write.want = .status) : ∃ id, write = .deleteState id := by
  cases write with
  | deleteState id => exact ⟨id, rfl⟩
  | insertState | updateState => cases g <;> cases hwrite
  | createVersions | recordVersion | define => cases g <;> cases hwrite
  | _ => cases hs

/-- Between the read of a row and the write nothing tells that there is no row. -/
theorem Guarded.Cleared.not_reportsNone {g : Guarded} {row : Row} {write : Statement}
    {count : List Event} (h : g.Cleared row write count) : ∀ e ∈ count, ¬ e.ReportsNone := by
  cases h with
  | uncounted _ => exact fun _ he => absurd he List.not_mem_nil
  | counted _ _ =>
    intro e he
    obtain rfl := List.mem_singleton.1 he
    exact fun h => nomatch h.1

theorem Guarded.want_firstRead (g : Guarded) : g.firstRead.want = .row := by
  cases g <;> rfl

/-- The read of a row does not tell that there is none. -/
theorem Guarded.not_reportsNone_row (g : Guarded) {row : Row} (hrow : row ≠ []) :
    ¬ g.firstRead.ReportsNone (.object row) := by
  intro h
  have hfalsy := Statement.isTruthy_of_reportsNone g.want_firstRead h
  rw [isTruthy_of_ne_nil hrow] at hfalsy
  cases hfalsy

/-- A guarded operation reports what its statements tell, unless a state is deleted and the deletion
affects none. -/
theorem Guarded.Body.reported {g : Guarded} {inside : List Event}
    {r : Except Failure (Option Row)} (h : g.Body inside r) {result : Except Failure Reply}
    (herror : ∀ e, r = .error e → result = .error e)
    (hnone : r = .ok none → result = .error (.service g.missing))
    (hdelete : ∀ id, .asked (.deleteState id) (.ok (.string "DELETE 0")) ∉ inside) :
    g.operation.Reported g.missing inside result := by
  cases h with
  | @unread a f hf =>
    rw [herror _ rfl]
    refine .of_error fun e he hreport => ?_
    obtain rfl := List.mem_singleton.1 he
    cases a with
    | error e => exact hreport.elim
    | ok v => exact hf v rfl (Statement.isTruthy_of_reportsNone g.want_firstRead hreport)
  | @uncleared row a f hlock hrow =>
    rw [herror _ rfl]
    refine .of_error fun e he hreport => ?_
    rcases List.mem_cons.1 he with rfl | he
    · exact absurd hreport (g.not_reportsNone_row hrow)
    · obtain rfl := List.mem_singleton.1 he
      cases a with
      | error e => exact hreport.elim
      | ok v => exact nomatch hreport.1
  | @written row count write a r hrow hcount hwrite hr =>
    -- the answer to a deletion of a state is another than that of no row
    have hstatus : write.want = .status → ∀ v, a = .ok v → ¬ write.ReportsNone v := by
      rintro hs v rfl hv
      obtain ⟨id, rfl⟩ := deletes_state hwrite hs
      obtain rfl : v = .string "DELETE 0" := hv
      exact hdelete id (by simp)
    constructor
    · intro reply hreply
      cases hr with
      | refused => cases (herror _ rfl).symm.trans hreply
      | nothing => cases (hnone rfl).symm.trans hreply
      | malformed => cases (herror _ rfl).symm.trans hreply
      | @affected row' hs hrow' =>
        refine ⟨write, .object row', hwrite, by simp, ?_⟩
        rw [Statement.ReportsRow, hs]
        exact ⟨row', hrow', rfl⟩
      | @done v hs =>
        refine ⟨write, v, hwrite, by simp, ?_⟩
        rw [Statement.ReportsRow, hs]
        exact hstatus hs v rfl
    · intro e he hreport
      rcases List.mem_append.1 he with he | he
      · rcases List.mem_cons.1 he with rfl | he
        · exact absurd hreport (g.not_reportsNone_row hrow)
        · exact absurd hreport (hcount.not_reportsNone e he)
      obtain rfl := List.mem_singleton.1 he
      cases hr with
      | refused => exact hreport.elim
      | nothing => exact hnone rfl
      | affected hs hrow' =>
        have hfalsy := Statement.isTruthy_of_reportsNone hs hreport
        rw [isTruthy_of_ne_nil hrow'] at hfalsy
        cases hfalsy
      | malformed hs htruthy =>
        have hfalsy := Statement.isTruthy_of_reportsNone hs hreport
        rw [htruthy] at hfalsy
        cases hfalsy
      | done hs => exact absurd hreport (hstatus hs _ rfl)

end Database

section
variable {σ : Type} {op : Operation}

/-- **An operation reports what its write did.** Unless the deletion of a state affects none, an
operation on a record that has to be there gives a record only if its write affected a row, and says
that there is no such record when a statement told so. -/
theorem change_reported {e : ServiceError} (hop : op.missing? = some e) (engine : Engine σ)
    (w : Session σ)
    (hdelete : ∀ id, .asked (.deleteState id) (.ok (.string "DELETE 0")) ∉
      (program op).events engine w) :
    op.Reported e ((program op).events engine w) ((program op).run engine w).1 := by
  have guarded : ∀ g : Guarded, g.operation = op → g.missing = e →
      op.Reported e ((program op).events engine w) ((program op).run engine w).1 := by
    rintro g rfl rfl
    obtain ⟨body, hprogram, hbody⟩ := g.exists_body
    have hinside : g.Body _ _ := hbody.run engine (Program.inTransaction engine w)
    have hresult : (body.run engine (Program.inTransaction engine w)).1 = _ := rfl
    obtain ⟨hevents, herror, hnone⟩ := Guarded.run_of_body hprogram hresult
    rw [hevents] at hdelete ⊢
    refine (hinside.reported herror hnone fun id hmem => hdelete id ?_).inTransaction
    simpa using hmem
  cases op with
  | updateFeature id p => exact guarded (.updateFeature id p) rfl (Option.some.inj hop)
  | deleteFeature id => exact guarded (.deleteFeature id) rfl (Option.some.inj hop)
  | deleteState id => exact guarded (.deleteState id) rfl (Option.some.inj hop)
  | updateState id p =>
    obtain rfl := Option.some.inj hop
    have hreported : (program (.updateState id p)).Always []
        ((Operation.updateState id p).Reported .noState) :=
      .map ((updateState_always id p).mono fun _ _ h => h.reported)
    exact hreported.run engine w
  | _ => cases hop

end

/-- The row of a state that is on everywhere. -/
def onEverywhere : Json := .object
  [("id", .string "fst_1"), ("feature_id", .string "ftr_1"), ("feature_key", .string "checkout"),
    ("context_type", .string "global"), ("context_id", .null), ("state", .bool true),
    ("created_at", .string "2024-01-01T00:00:00Z"), ("updated_at", .string "2024-01-01T00:00:00Z")]

/-- A client that deletes a state: it reads the row of the state, and then its deletion reports this
status. -/
def deleting (status : String) : Session Script :=
  .new ⟨[], [.ok onEverywhere], [], [.ok (.string status)]⟩

theorem deleting_events (status : String) :
    (program (.deleteState "fst_1")).events Script.engine (deleting status) =
      [.controlled .acquire, .controlled .start,
        .asked (.selectState "fst_1") (.ok onEverywhere),
        .asked (.deleteState "fst_1") (.ok (.string status)),
        .controlled .commit, .controlled .release] :=
  rfl

theorem change_reported_deleted :
    let op := Operation.deleteState "fst_1"
    let events := (program op).events Script.engine (deleting "DELETE 1")
    op.missing? = some .noState ∧
      (∀ id, .asked (.deleteState id) (.ok (.string "DELETE 0")) ∉ events) ∧
      op.Reported .noState events ((program op).run Script.engine (deleting "DELETE 1")).1 := by
  intro op events
  have hdelete : ∀ id, .asked (.deleteState id) (.ok (.string "DELETE 0")) ∉ events := by
    intro id hmem
    rw [show events = _ from deleting_events "DELETE 1"] at hmem
    simp at hmem
  exact ⟨rfl, hdelete, change_reported rfl Script.engine (deleting "DELETE 1") hdelete⟩

/-- Two clients read a state and delete it. One deletion affects the row and the other affects none,
and both clients are given the state. -/
theorem both_deletions_succeed :
    (∀ status ∈ ["DELETE 1", "DELETE 0"], ∃ reply,
      ((program (.deleteState "fst_1")).run Script.engine (deleting status)).1 = .ok reply) ∧
    ¬ ∀ (op : Operation) (e : ServiceError) (w : Session Script), op.missing? = some e →
      op.Validated → op.Reported e ((program op).events Script.engine w)
        ((program op).run Script.engine w).1 := by
  have hreply : ∀ status, ∃ reply,
      ((program (.deleteState "fst_1")).run Script.engine (deleting status)).1 = .ok reply :=
    fun _ => ⟨_, rfl⟩
  refine ⟨fun status _ => hreply status, fun hall => ?_⟩
  obtain ⟨reply, hreply⟩ := hreply "DELETE 0"
  have h := hall (.deleteState "fst_1") .noState (deleting "DELETE 0") rfl trivial
  have hmem : .asked (.deleteState "fst_1") (.ok (.string "DELETE 0")) ∈
      (program (.deleteState "fst_1")).events Script.engine (deleting "DELETE 0") := by
    simp [deleting_events]
  have herror := h.missing _ hmem rfl
  rw [hreply] at herror
  cases herror

section
variable {σ : Type} {op : Operation}

/-- **A failure after the write comes from the read after the write.** When an operation that writes
a state fails, then either its write changed nothing, or it is the last statement, the read of the
state that was written, whose answer holds no state. -/
theorem nothing_written_or_unread (hop : op.method = .createState ∨ op.method = .updateState)
    (engine : Engine σ) (w : Session σ) {f : Failure}
    (hf : ((program op).run engine w).1 = .error f) :
    op.WroteNothing ((program op).events engine w) ∨
      ∃ before id a, (program op).events engine w = before ++ [.asked (.selectState id) a] ∧
        ¬ HoldsState a := by
  obtain ⟨reads, r, hreads, hwrite, hr⟩ := (stateWrite_always hop).run engine w
  rw [List.nil_append] at hwrite
  generalize (program op).events engine w = events at hwrite ⊢
  rw [hr] at hf
  cases hwrite with
  | unresolved => exact .inl fun s v hs hmem => absurd hs (hreads s _ hmem)
  | refused hwrite =>
    refine .inl fun s v hs hmem => ?_
    cases (hreads.eq_of_mem hs hmem).2
  | nothing hwrite hv =>
    refine .inl fun s v hs hmem => ?_
    obtain ⟨rfl, hv'⟩ := hreads.eq_of_mem hs hmem
    obtain rfl := Except.ok.inj hv'
    exact .inl hv
  | reread hwrite hv hread =>
    cases hread with
    | read _ => cases hf
    | failed hunread _ => exact .inr ⟨_, _, _, rfl, hunread⟩

end

/-- The row of a feature. -/
def checkout : Json := .object
  [("id", .string "ftr_1"), ("key", .string "checkout"), ("name", .string "Checkout"),
    ("description", .null), ("created_at", .string "2024-01-01T00:00:00Z"),
    ("updated_at", .string "2024-01-01T00:00:00Z")]

/-- Switches a feature on everywhere. -/
def switchOn : Operation := .createState ⟨some "ftr_1", none, .global, none, true⟩

/-- A client that switches a feature on: the feature is there, its state is written, and the read
after that is answered by this. -/
def rereading (a : Except Failure Json) : Session Script :=
  .new ⟨[], [.ok checkout, a], [], [.ok (.string "INSERT 0 1")]⟩

/-- What a call says on a connection that was lost. -/
def connectionLost : Failure := .connection "connection is closed"

theorem nothing_written_or_unread_lost :
    let events := (program switchOn).events Script.engine (rereading (.error connectionLost))
    (switchOn.method = .createState ∨ switchOn.method = .updateState) ∧
      ((program switchOn).run Script.engine (rereading (.error connectionLost))).1 =
        .error connectionLost ∧
      (switchOn.WroteNothing events ∨
        ∃ before id a, events = before ++ [.asked (.selectState id) a] ∧ ¬ HoldsState a) :=
  ⟨.inl rfl, rfl, nothing_written_or_unread (.inl rfl) Script.engine
    (rereading (.error connectionLost)) rfl⟩

/-- The state is written for good, and then the client is told of a failure: of the connection, or
that there is no such state when another client has taken it away meanwhile. -/
theorem written_and_failed :
    (¬ ∀ (op : Operation) (w : Session Script) (f : Failure),
      (op.method = .createState ∨ op.method = .updateState) → op.Validated →
      ((program op).run Script.engine w).1 = .error f →
      op.WroteNothing ((program op).events Script.engine w)) ∧
    ((program switchOn).run Script.engine (rereading (.ok .null))).1 =
      .error (.service .noState) := by
  refine ⟨fun hall => ?_, rfl⟩
  have hvalidated : switchOn.Validated :=
    ⟨.object [("featureId", .string "ftr_1"), ("contextType", .string "global"),
      ("state", .bool true)], rfl⟩
  have h := hall switchOn (rereading (.error connectionLost)) connectionLost (.inl rfl) hvalidated
    rfl
  have hevents : (program switchOn).events Script.engine (rereading (.error connectionLost)) =
      [.asked (.selectFeature "ftr_1") (.ok checkout),
        .asked (.insertState (Identifier.next .featureState 0) "ftr_1" .global none true)
          (.ok (.string "INSERT 0 1")),
        .asked (.selectState (Identifier.next .featureState 0)) (.error connectionLost)] := rfl
  rw [hevents] at h
  rcases h (.insertState (Identifier.next .featureState 0) "ftr_1" .global none true)
    (.string "INSERT 0 1") trivial (by simp) with hnone | hrolled
  · simp [Statement.ReportsNone] at hnone
  · simp at hrolled

end FeatureFlags
