import FeatureFlags.Database.FlagTables
import FeatureFlags.Proofs.Database.Trace

/-!
# Operations inside of transactions

Three operations are done in a transaction: a feature is changed or deleted behind a lock on its
row, and a state is deleted behind a read of it. `Guarded.Body` lists what can happen inside: a read
of the row comes first, then perhaps a count of the states that refer to it, then at most one write,
and the write is sent only if the row was there and nothing forbids it. `Guarded.exists_body` is
proved along the text of the operations; `Guarded.runs_in_transaction` says the same of the log of
every run.
-/

namespace FeatureFlags

open Database

/-- The statements with which an operation changes the tables. -/
def Operation.Writes : Operation → Statement → Prop
  | .createFeature _, .insertFeature .. => True
  | .updateFeature id _, .updateFeature id' .. => id' = id
  | .deleteFeature id, .deleteFeature id' => id' = id
  | .createState _, .insertState .. => True
  | .updateState id _, .updateState id' .. => id' = id
  | .deleteState id, .deleteState id' => id' = id
  | _, _ => False

namespace Database

/-! ## Answers -/

/-- Nothing was counted: the answer is null or zero. An answer that is no whole number is one that
reads as zero. -/
def CountsNone : Json → Prop
  | .null => True
  | .int n => n = 0
  | v => countsSome v = .ok false

theorem countsNone_of_countsSome {v : Json} (h : countsSome v = .ok false) : CountsNone v := by
  cases v with
  | null => trivial
  | int n => simpa [countsSome, Json.isTruthy, CountsNone] using h
  | _ => exact h

/-- A row with columns counts as a row. -/
theorem isTruthy_of_ne_nil {row : Row} (h : row ≠ []) : (Json.object row).isTruthy = true := by
  simp [Json.isTruthy, h]

section
variable {α : Type} {past : List Event}

theorem rowOf?_always {v : Json} {post : List Event → Except Failure (Option Row) → Prop}
    (hnone : v.isTruthy = false → post past (.ok none))
    (hrow : ∀ row, row ≠ [] → v = .object row → post past (.ok (some row)))
    (hbad : ∀ f, v.isTruthy = true → (∀ row, v ≠ .object row) → post past (.error f)) :
    (rowOf? v).Always past post := by
  unfold rowOf?
  cases ht : v.isTruthy with
  | false => exact hnone ht
  | true =>
    rw [if_pos rfl]
    refine .map ?_
    cases v with
    | object row => exact hrow row (by simpa [Json.isTruthy] using ht) rfl
    | _ => exact hbad _ ht nofun

theorem column_always {row : Row} {name : String} {post : List Event → Except Failure Json → Prop}
    (hsome : ∀ v, Json.member? row name = some v → post past (.ok v))
    (hnone : ∀ f, post past (.error f)) : (column row name).Always past post := by
  unfold column
  cases hv : Json.member? row name with
  | none => exact hnone _
  | some v => exact hsome v hv

theorem givenOr_always {text : Option String} {row : Row} {name : String}
    {post : List Event → Except Failure Json → Prop}
    (hgive : ∀ v, (∀ s, given text = some s → v = .string s) →
      (given text = none → Json.member? row name = some v) → post past (.ok v))
    (hfail : ∀ f, post past (.error f)) : (givenOr text row name).Always past post := by
  unfold givenOr
  cases hs : given text with
  | none => exact column_always (fun v hv => hgive v (by simp [hs]) fun _ => hv) hfail
  | some s => exact hgive (.string s) (by simp [hs]) (by simp [hs])

/-- Programs that only read a record out of a row ask nothing. -/
theorem checked_always {c : Checked α} {post : List Event → Except Failure α → Prop}
    (h : ∀ r, post past r) : (checked c).Always past post := by
  cases c with
  | accepted a => exact h _
  | rejected issues => exact h _

/-- The first thing asked for is a row, and the program goes on when there is one. -/
theorem rowOr_always {s : Statement} {missing : ServiceError} {p : Row → Program α}
    {post : List Event → Except Failure α → Prop}
    (hnone : ∀ a f, (∀ v, a = .ok v → v.isTruthy = false → f = .service missing) →
      post (past ++ [.asked s a]) (.error f))
    (hrow : ∀ row, row ≠ [] → (p row).Always (past ++ [.asked s (.ok (.object row))]) post) :
    Program.Always (do
      match ← rowOf? (← .query s) with
      | none => .fail (.service missing)
      | some row => p row) past post := by
  refine .bind (.query fun a => ?_)
  cases a with
  | error e => exact hnone _ _ fun _ h => nomatch h
  | ok v =>
    refine .bind (rowOf?_always (fun _ => ?_) (fun row hne hv => ?_) fun f htruthy _ => ?_)
    · exact hnone _ _ fun _ _ _ => rfl
    · subst hv
      exact hrow row hne
    · refine hnone _ _ fun v' hv hfalsy => ?_
      obtain rfl := Except.ok.inj hv
      rw [htruthy] at hfalsy
      cases hfalsy

/-- The count is asked, and what it says is read off its answer. -/
theorem isReferenced_always {id : String} {post : List Event → Except Failure Bool → Prop}
    (hfree : ∀ v, CountsNone v → post (past ++ [.asked (.countStates id) (.ok v)]) (.ok false))
    (helse : ∀ a r, r ≠ .ok false → post (past ++ [.asked (.countStates id) a]) r) :
    (isReferenced id).Always past post := by
  refine .bind (.query fun a => ?_)
  cases a with
  | error f => exact helse _ _ nofun
  | ok v =>
    refine .ofExcept ?_
    cases hv : countsSome v with
    | error f => exact helse _ _ nofun
    | ok b =>
      cases b with
      | false => exact hfree v (countsNone_of_countsSome hv)
      | true => exact helse _ _ nofun

/-- A program behind the question whether states refer to the feature, when it is asked at all: it
goes on after no question, or after a count of none. -/
theorem unlessReferenced_always {id : String} {asked : Bool} {e : Failure} {p : Program α}
    {post : List Event → Except Failure α → Prop}
    (hlocked : ∀ a f, post (past ++ [.asked (.countStates id) a]) (.error f))
    (hp : ∀ count, asked = false ∧ count = [] ∨
        (∃ v, CountsNone v ∧ count = [.asked (.countStates id) (.ok v)]) →
      p.Always (past ++ count) post) :
    Program.Always
      (if asked = true then do
        if ← isReferenced id then
          (Program.fail e : Program Unit)
          p
        else p
      else p) past post := by
  cases asked with
  | false => simpa using hp [] (.inl ⟨rfl, rfl⟩)
  | true =>
    refine .bind (isReferenced_always (fun v hv => hp _ (.inr ⟨v, hv, rfl⟩)) fun a r hr => ?_)
    cases r with
    | error f => exact hlocked a f
    | ok b =>
      obtain rfl : b = true := by simpa using hr
      exact hlocked a e

end

/-! ## What happens inside of a transaction -/

/-- The operations that are done in a transaction. -/
inductive Guarded where
  | updateFeature (id : String) (p : Feature.Patch)
  | deleteFeature (id : String)
  | deleteState (id : String)

/-- Is the write allowed only when no state refers to the feature in the row? A deletion is, and a
change that gives the feature another key. -/
def Statement.NeedsCount (row : Row) : Statement → Prop
  | .updateFeature _ key _ _ => Json.member? row "key" ≠ some key
  | .deleteFeature _ => True
  | _ => False

/-- What a body ends with when its write got this answer: a write that answers by a row gives that
row, and one that answers by a status gives the row that was read. -/
inductive Statement.Ends (read : Row) (s : Statement) :
    Except Failure Json → Except Failure (Option Row) → Prop
  | refused {e f : Failure} : s.Ends read (.error e) (.error f)
  | nothing {v : Json} (hs : s.want = .row) (h : v.isTruthy = false) :
      s.Ends read (.ok v) (.ok none)
  | affected {row : Row} (hs : s.want = .row) (h : row ≠ []) :
      s.Ends read (.ok (.object row)) (.ok (some row))
  | malformed {v : Json} {f : Failure} (hs : s.want = .row) (h : v.isTruthy = true) :
      s.Ends read (.ok v) (.error f)
  | done {v : Json} (hs : s.want = .status) : s.Ends read (.ok v) (.ok (some read))

namespace Guarded

def operation : Guarded → Operation
  | .updateFeature id p => .updateFeature id p
  | .deleteFeature id => .deleteFeature id
  | .deleteState id => .deleteState id

def id : Guarded → String
  | .updateFeature id _ => id
  | .deleteFeature id => id
  | .deleteState id => id

/-- The read of the record; that of a feature locks its row. -/
def firstRead : Guarded → Statement
  | .updateFeature id _ => .lockFeature id
  | .deleteFeature id => .lockFeature id
  | .deleteState id => .selectState id

/-- The failure that says that there is no such record. -/
def missing : Guarded → ServiceError
  | .deleteState _ => .noState
  | _ => .noFeature

/-- What is done with the row after the transaction. -/
def conclude (g : Guarded) (row : Option Row) : Program Reply :=
  match g with
  | .deleteState _ => .state <$> recordOr .noState FeatureState.ofJson row
  | _ => .feature <$> recordOr .noFeature Feature.ofJson row

/-- The events between the read of this row and the write: none, or behind a lock a count of no
states. -/
inductive Cleared (g : Guarded) (row : Row) (write : Statement) : List Event → Prop
  | uncounted (h : ¬ write.NeedsCount row) : g.Cleared row write []
  | counted {v : Json} (hlock : g.firstRead = .lockFeature g.id) (h : CountsNone v) :
      g.Cleared row write [.asked (.countStates g.id) (.ok v)]

/-- What can happen inside of the transaction, and how the body ends then. -/
inductive Body (g : Guarded) : List Event → Except Failure (Option Row) → Prop
  | unread {a : Except Failure Json} {f : Failure}
      (hf : ∀ v, a = .ok v → v.isTruthy = false → f = .service g.missing) :
      g.Body [.asked g.firstRead a] (.error f)
  | uncleared {row : Row} {a : Except Failure Json} {f : Failure}
      (hlock : g.firstRead = .lockFeature g.id) (hrow : row ≠ []) :
      g.Body [.asked g.firstRead (.ok (.object row)), .asked (.countStates g.id) a] (.error f)
  | written {row : Row} {count : List Event} {write : Statement} {a : Except Failure Json}
      {r : Except Failure (Option Row)} (hrow : row ≠ []) (hcount : g.Cleared row write count)
      (hwrite : g.operation.Writes write) (hr : write.Ends row a r) :
      g.Body (.asked g.firstRead (.ok (.object row)) :: count ++ [.asked write a]) r

/-- A failure after a row was read. -/
theorem Body.of_row {g : Guarded} {row : Row} {f : Failure} (hrow : row ≠ []) :
    g.Body [.asked g.firstRead (.ok (.object row))] (.error f) := by
  refine .unread fun v hv hnone => ?_
  obtain rfl := Except.ok.inj hv
  rw [isTruthy_of_ne_nil hrow] at hnone
  cases hnone

/-- A failure after the read and before the write. -/
theorem Body.of_cleared {g : Guarded} {row : Row} {write : Statement} {count : List Event}
    {f : Failure} (hrow : row ≠ []) (h : g.Cleared row write count) :
    g.Body (.asked g.firstRead (.ok (.object row)) :: count) (.error f) := by
  cases h with
  | uncounted _ => exact .of_row hrow
  | counted hlock _ => exact .uncleared hlock hrow

/-- A write that answers by a row, behind all that has to come before it. -/
theorem write_always {g : Guarded} {row : Row} {write : Statement} {count : List Event}
    {tell : Failure → Failure} (hrow : row ≠ []) (hcount : g.Cleared row write count)
    (hwrite : g.operation.Writes write) (hs : write.want = .row) :
    (Program.mapFailure tell (Program.query write >>= rowOf?)).Always
      (.asked g.firstRead (.ok (.object row)) :: count) g.Body := by
  refine .mapFailure (.bind (.query fun a => ?_))
  cases a with
  | error e => exact .written hrow hcount hwrite .refused
  | ok v =>
    refine rowOf?_always (fun hv => ?_) (fun row' hrow' hv => ?_) fun f hv _ => ?_
    · exact .written hrow hcount hwrite (.nothing hs hv)
    · subst hv
      exact .written hrow hcount hwrite (.affected hs hrow')
    · exact .written hrow hcount hwrite (.malformed hs hv)

/-- A patch that leaves the key as it is writes the key that was read. -/
theorem member?_key_of_unchanged {p : Feature.Patch} {row : Row} {key old : Json}
    (hgiven : ∀ s, given p.key = some s → key = .string s)
    (hkept : given p.key = none → Json.member? row "key" = some key)
    (hold : Json.member? row "key" = some old) (h : changesKey p.key old = false) :
    Json.member? row "key" = some key := by
  unfold changesKey at h
  cases hs : given p.key with
  | none => exact hkept hs
  | some s =>
    rw [hs] at h
    cases old with
    | string o =>
      obtain rfl : s = o := by simpa using h
      rw [hold, hgiven s hs]
    | _ => cases h

/-- **The transaction of a guarded operation.** -/
theorem exists_body (g : Guarded) :
    ∃ body : Program (Option Row),
      program g.operation = body.transaction.withConnection >>= g.conclude ∧
        body.Always [] g.Body := by
  cases g with
  | updateFeature id p =>
    refine ⟨_, map_bind _ _ _, ?_⟩
    refine rowOr_always (fun a f hf => .unread hf) fun row hrow => ?_
    refine .bind (givenOr_always (fun key hgiven hkept => ?_) fun f => .of_row hrow)
    refine .bind (column_always (fun old hold => ?_) fun f => .of_row hrow)
    refine unlessReferenced_always (fun a f => .uncleared rfl hrow) fun count hcount => ?_
    have hcleared : ∀ name description, (updateFeature id p).Cleared row
        (.updateFeature id key name description) count := by
      rcases hcount with ⟨hsame, rfl⟩ | ⟨v, hv, rfl⟩
      · exact fun _ _ => .uncounted
          (not_not_intro (member?_key_of_unchanged hgiven hkept hold hsame))
      · exact fun _ _ => .counted rfl hv
    have hwrite : ∀ name description,
        (updateFeature id p).operation.Writes (.updateFeature id key name description) :=
      fun _ _ => rfl
    have hfailed : ∀ f, (updateFeature id p).Body
        ([.asked (updateFeature id p).firstRead (.ok (.object row))] ++ count) (.error f) :=
      fun f => .of_cleared hrow (hcleared .null .null)
    refine .bind (givenOr_always (fun name _ _ => ?_) hfailed)
    refine .bind (column_always (fun description _ => ?_) hfailed)
    exact write_always hrow (hcleared _ _) (hwrite _ _) rfl
  | deleteFeature id =>
    refine ⟨_, map_bind _ _ _, ?_⟩
    refine rowOr_always (fun a f hf => .unread hf) fun row hrow => ?_
    have hwrite : (deleteFeature id).operation.Writes (.deleteFeature id) := rfl
    refine .bind (isReferenced_always (fun v hv => ?_) fun a r hr => ?_)
    · exact write_always hrow (.counted rfl hv) hwrite rfl
    · cases r with
      | error f => exact .uncleared rfl hrow
      | ok b =>
        obtain rfl : b = true := by simpa using hr
        exact .uncleared rfl hrow
  | deleteState id =>
    -- the body gives the row that was read, in any case
    have hsome : ∀ body : Program Row,
        (body.transaction.withConnection >>= fun row =>
          Reply.state <$> record FeatureState.ofJson row) =
        (some <$> body).transaction.withConnection >>= (deleteState id).conclude := by
      intro body
      rw [Program.transaction_map, Program.withConnection_map, bind_map_left]
      rfl
    refine ⟨some <$> _, (map_bind _ _ _).trans (hsome _), .map ?_⟩
    refine rowOr_always (fun a f hf => .unread hf) fun row hrow => ?_
    have hwrite : (deleteState id).operation.Writes (.deleteState id) := rfl
    refine .bind (.query fun a => ?_)
    cases a with
    | error e => exact .written hrow (.uncounted not_false) hwrite .refused
    | ok v => exact .written hrow (.uncounted not_false) hwrite (.done rfl)

/-- What is done after the transaction asks nothing. -/
theorem conclude_always (g : Guarded) (row : Option Row) :
    (g.conclude row).Always [] fun es r =>
      es = [] ∧ (row = none → r = .error (.service g.missing)) := by
  cases row with
  | none => cases g <;> exact ⟨rfl, fun _ => rfl⟩
  | some row => cases g <;> exact .map (checked_always fun r => ⟨rfl, nofun⟩)

/-- A statement that fails ends the body by a failure. -/
theorem Body.error_of_asked {g : Guarded} {events : List Event}
    {r : Except Failure (Option Row)} (h : g.Body events r) {s : Statement} {f : Failure}
    (hs : .asked s (.error f) ∈ events) : ∃ e, r = .error e := by
  cases h with
  | unread => exact ⟨_, rfl⟩
  | uncleared => exact ⟨_, rfl⟩
  | written hrow hcount hwrite hr =>
    cases hcount with
    | uncounted _ =>
      obtain ⟨rfl, rfl⟩ := by simpa using hs
      cases hr
      exact ⟨_, rfl⟩
    | counted _ _ =>
      obtain ⟨rfl, rfl⟩ := by simpa using hs
      cases hr
      exact ⟨_, rfl⟩

/-- The events of the operation are those of its transaction, and its result comes from the one of
the body. -/
theorem run_of_body {g : Guarded} {body : Program (Option Row)}
    (h : program g.operation = body.transaction.withConnection >>= g.conclude)
    {σ : Type} {engine : Engine σ} {w : Session σ} {r : Except Failure (Option Row)}
    (hr : (body.run engine (Program.inTransaction engine w)).1 = r) :
    (program g.operation).events engine w =
        [.controlled .acquire, .controlled .start] ++
          body.events engine (Program.inTransaction engine w) ++
          [.controlled (Program.closing r), .controlled .release] ∧
      (∀ e, r = .error e → ((program g.operation).run engine w).1 = .error e) ∧
      (r = .ok none → ((program g.operation).run engine w).1 = .error (.service g.missing)) := by
  obtain ⟨w', hrun, hevents⟩ := Program.run_guarded engine w body g.conclude
  rw [← h, hr] at hrun hevents
  have hquiet : (Program.ofExcept r >>= g.conclude).events engine w' = [] := by
    cases r with
    | error e => rfl
    | ok row => exact ((g.conclude_always row).run engine w').1
  refine ⟨by rw [hevents, hquiet, List.append_nil], ?_, ?_⟩
  · rintro e rfl
    exact hrun
  · rintro rfl
    exact hrun.trans (((g.conclude_always none).run engine w').2 rfl)

/-- **The log of a guarded operation.** The operation is a transaction on a borrowed connection, and
whatever the connection answers, its calls are those of the body between the two that open the
transaction and the two that end it. The transaction is committed when the body ends by a value and
rolled back when it ends by a failure, and it does the latter when a statement fails. -/
theorem runs_in_transaction (g : Guarded) :
    ∃ body : Program (Option Row),
      program g.operation = body.transaction.withConnection >>= g.conclude ∧
      ∀ (σ : Type) (engine : Engine σ) (w : Session σ),
        let inside := body.events engine (Program.inTransaction engine w)
        let r := (body.run engine (Program.inTransaction engine w)).1
        let events := [.controlled .acquire, .controlled .start] ++ inside ++
          [.controlled (Program.closing r), .controlled .release]
        g.Body inside r ∧ (∀ s f, .asked s (.error f) ∈ inside → ∃ e, r = .error e) ∧
          (program g.operation).events engine w = events ∧
          ((program g.operation).run engine w).2.calls = w.calls ++ events.map Event.call := by
  obtain ⟨body, hprogram, hbody⟩ := g.exists_body
  refine ⟨body, hprogram, fun σ engine w => ?_⟩
  have hinside : g.Body _ _ := hbody.run engine (Program.inTransaction engine w)
  obtain ⟨hevents, -⟩ := run_of_body hprogram rfl
  refine ⟨hinside, fun s f => hinside.error_of_asked, hevents, ?_⟩
  rw [Program.calls_run, hevents]

end Guarded

end Database

end FeatureFlags
