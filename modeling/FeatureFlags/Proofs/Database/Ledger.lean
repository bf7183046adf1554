import FeatureFlags.Database.FlagTables
import FeatureFlags.Proofs.Database.Trace

/-!
# What a database keeps of its changes

Of a database that is brought up to date, nothing matters but the order of its changes: the
statements that define tables and record versions. `Ledger` is what a database keeps of them, those
that are committed and those of an open transaction. `Engine.KeepsLedger` is what is relied on: a
statement that fails changes nothing outside the open transaction, a transaction is rolled back or
kept as a whole, and the recorded versions are the rows that are listed.

`Program.Commits` is a contract over the ledger. It speaks of every moment of a run, since a run may
break off at any of them, and then of its end; there is one rule for every way to put programs
together.
-/

namespace FeatureFlags.Database

/-- The changes to a database, in order: the committed ones, and those of an open transaction. -/
structure Ledger where
  committed : List Statement
  pending : Option (List Statement)

/-- Does the statement change what a database keeps? -/
def Statement.IsChange : Statement → Prop
  | .define _ => True
  | .recordVersion _ => True
  | _ => False

/-- Is the statement one of those that bring a database up to date? -/
def Statement.Upgrades : Statement → Prop
  | .createVersions => True
  | .selectVersions => True
  | s => s.IsChange

/-- The version that a statement records. -/
def Statement.version? : Statement → Option String
  | .recordVersion version => some version
  | _ => none

/-- The versions that changes record, in order. -/
def recordedVersions (changes : List Statement) : List String :=
  changes.filterMap Statement.version?

/-- The row of a recorded version. -/
def versionRow (version : String) : Json := .object [("version", .string version)]

namespace Ledger

/-- A change that was made, for now or for good. -/
def add (l : Ledger) (s : Statement) : Ledger :=
  match l.pending with
  | some pending => ⟨l.committed, some (pending ++ [s])⟩
  | none => ⟨l.committed ++ [s], none⟩

/-- The changes that are seen by whoever asks. -/
def visible (l : Ledger) : List Statement := l.committed ++ l.pending.getD []

/-- What a statement of an upgrade may answer, and what becomes of the changes. -/
inductive Answers : Ledger → Statement → Except Failure Json → Ledger → Prop where
  /-- A failure may spoil the open transaction, and nothing else. -/
  | failed {l : Ledger} (s : Statement) (f : Failure) {pending : Option (List Statement)}
      (h : pending.isSome = l.pending.isSome) : Answers l s (.error f) ⟨l.committed, pending⟩
  | changed {l : Ledger} {s : Statement} (h : s.IsChange) (v : Json) :
      Answers l s (.ok v) (l.add s)
  | created {l : Ledger} (v : Json) : Answers l .createVersions (.ok v) l
  /-- The recorded versions are listed, in any order. -/
  | listed {l : Ledger} {versions : List String}
      (h : ∀ v, v ∈ versions ↔ v ∈ recordedVersions l.visible) :
      Answers l .selectVersions (.ok (.array (versions.map versionRow))) l

/-- What connections and transactions do to the ledger, where it is said. -/
def controlled? : Ledger → Control → Option Ledger
  | ⟨committed, none⟩, .acquire => some ⟨committed, none⟩
  | ⟨committed, none⟩, .start => some ⟨committed, some []⟩
  | ⟨committed, some pending⟩, .commit => some ⟨committed ++ pending, none⟩
  | ⟨committed, some _⟩, .rollback => some ⟨committed, none⟩
  | ⟨committed, none⟩, .release => some ⟨committed, none⟩
  | _, _ => none

end Ledger

/-- The engine keeps the ledger that `view` shows. -/
structure Engine.KeepsLedger {σ : Type} (engine : Engine σ) (view : σ → Ledger) : Prop where
  answers : ∀ d s, s.Upgrades →
    (view d).Answers s (engine.answer d s).1 (view (engine.answer d s).2)
  controls : ∀ d c l, (view d).controlled? c = some l → view (engine.control d c) = l

namespace Program

variable {α β σ : Type}

/-- The database at every moment of a run: before it, and after every call. -/
def moments (engine : Engine σ) : Program α → Session σ → List σ
  | .give _, w => [w.database]
  | .fail _, w => [w.database]
  | .ask s next, w =>
    let (r, w') := w.asked engine s
    w.database :: (next r).moments engine w'
  | .control c next, w => w.database :: next.moments engine (w.controlled engine c)
  | .draw e next, w => (next (Identifier.next e w.issued)).moments engine w.drawn
  | .note entry next, w => next.moments engine (w.noted entry)

theorem mem_moments_finish {engine : Engine σ} {p : Program α}
    {after : Except Failure α → Program β} {w : Session σ} {d : σ}
    (h : d ∈ (p.finish after).moments engine w) :
    d ∈ p.moments engine w ∨
      d ∈ (after (p.run engine w).1).moments engine (p.run engine w).2 := by
  induction p generalizing w with
  | give a => exact .inr h
  | fail f => exact .inr h
  | ask s next ih =>
    rcases List.mem_cons.1 h with rfl | h
    · exact .inl List.mem_cons_self
    · exact (ih _ h).imp_left (List.mem_cons_of_mem _)
  | control c next ih =>
    rcases List.mem_cons.1 h with rfl | h
    · exact .inl List.mem_cons_self
    · exact (ih h).imp_left (List.mem_cons_of_mem _)
  | draw e next ih => exact ih _ h
  | note entry next ih => exact ih h

/-- A run ends at the last of its moments. -/
theorem database_mem_moments (engine : Engine σ) (p : Program α) (w : Session σ) :
    (p.run engine w).2.database ∈ p.moments engine w := by
  induction p generalizing w with
  | give a => exact List.mem_singleton_self _
  | fail f => exact List.mem_singleton_self _
  | ask s next ih => exact List.mem_cons_of_mem _ (ih _ _)
  | control c next ih => exact List.mem_cons_of_mem _ (ih _)
  | draw e next ih => exact ih _ _
  | note entry next ih => exact ih _

/-- Every run from a database that shows the ledger has at every moment committed what `always`
allows, and ends as `post` says of all events up to its end, those of `past` before its own. -/
def Commits (engine : Engine σ) (view : σ → Ledger) (always : List Statement → Prop)
    (p : Program α) (past : List Event) (l : Ledger)
    (post : List Event → Except Failure α → Ledger → Prop) : Prop :=
  ∀ w : Session σ, view w.database = l →
    (∀ d ∈ p.moments engine w, always (view d).committed) ∧
      post (past ++ p.events engine w) (p.run engine w).1 (view (p.run engine w).2.database)

namespace Commits

variable {engine : Engine σ} {view : σ → Ledger} {always : List Statement → Prop}
  {past : List Event} {l : Ledger} {committed : List Statement}

theorem mono {p : Program α} {post post' : List Event → Except Failure α → Ledger → Prop}
    (hp : p.Commits engine view always past l post)
    (h : ∀ es r l', always l'.committed → post es r l' → post' es r l') :
    p.Commits engine view always past l post' := by
  intro w hw
  obtain ⟨hmoments, hpost⟩ := hp w hw
  exact ⟨hmoments, h _ _ _ (hmoments _ (database_mem_moments engine p w)) hpost⟩

/-- What is always committed also is at the end, and may be said in other words. -/
theorem weaken {p : Program α} {always' : List Statement → Prop}
    {post : List Event → Except Failure α → Ledger → Prop}
    (hp : p.Commits engine view always past l post) (h : ∀ c, always c → always' c) :
    p.Commits engine view always' past l fun es r l' => post es r l' ∧ always l'.committed := by
  intro w hw
  obtain ⟨hmoments, hpost⟩ := hp w hw
  exact ⟨fun d hd => h _ (hmoments d hd), hpost, hmoments _ (database_mem_moments engine p w)⟩

theorem give {a : α} {post : List Event → Except Failure α → Ledger → Prop}
    (hnow : always l.committed) (h : post past (.ok a) l) :
    (Program.give a).Commits engine view always past l post := by
  rintro w rfl
  refine ⟨fun d hd => ?_, ?_⟩
  · obtain rfl := List.mem_singleton.1 hd
    exact hnow
  · simpa [events, run] using h

theorem fail {f : Failure} {post : List Event → Except Failure α → Ledger → Prop}
    (hnow : always l.committed) (h : post past (.error f) l) :
    (Program.fail f : Program α).Commits engine view always past l post := by
  rintro w rfl
  refine ⟨fun d hd => ?_, ?_⟩
  · obtain rfl := List.mem_singleton.1 hd
    exact hnow
  · simpa [events, run] using h

theorem finish {p : Program α} {after : Except Failure α → Program β}
    {post : List Event → Except Failure β → Ledger → Prop}
    (hp : p.Commits engine view always past l fun es r l' =>
      (after r).Commits engine view always es l' post) :
    (p.finish after).Commits engine view always past l post := by
  intro w hw
  obtain ⟨hmoments, hafter⟩ := hp w hw
  obtain ⟨hmoments', hpost⟩ := hafter _ rfl
  refine ⟨fun d hd => ?_, ?_⟩
  · rcases mem_moments_finish hd with hd | hd
    · exact hmoments d hd
    · exact hmoments' d hd
  · rw [run_finish, events_finish, ← List.append_assoc]
    exact hpost

/-- After a value the program goes on; a failure is its end. -/
theorem bind {p : Program α} {f : α → Program β}
    {post : List Event → Except Failure β → Ledger → Prop}
    (hp : p.Commits engine view always past l fun es r l' =>
      match r with
      | .ok a => (f a).Commits engine view always es l' post
      | .error e => post es (.error e) l') :
    (p >>= f).Commits engine view always past l post := by
  refine finish (hp.mono fun es r l' hnow h => ?_)
  cases r with
  | ok a => exact h
  | error e => exact fail hnow h

theorem log {entry : Log.Entry} {post : List Event → Except Failure Unit → Ledger → Prop}
    (hnow : always l.committed) (h : post past (.ok ()) l) :
    (Program.log entry).Commits engine view always past l post := by
  have hend : (Program.give ()).Commits engine view always past l post := give hnow h
  exact fun w hw => hend (w.noted entry) hw

variable (keeps : engine.KeepsLedger view)

include keeps

theorem ask {s : Statement} {next : Except Failure Json → Program α}
    {post : List Event → Except Failure α → Ledger → Prop} (hs : s.Upgrades)
    (hnow : always l.committed)
    (h : ∀ r l', l.Answers s r l' →
      (next r).Commits engine view always (past ++ [.asked s r]) l' post) :
    (Program.ask s next).Commits engine view always past l post := by
  rintro w rfl
  obtain ⟨hmoments, hpost⟩ := h _ _ (keeps.answers w.database s hs) (w.asked engine s).2 rfl
  refine ⟨List.forall_mem_cons.2 ⟨hnow, hmoments⟩, ?_⟩
  rw [List.append_assoc] at hpost
  exact hpost

theorem query {s : Statement} {post : List Event → Except Failure Json → Ledger → Prop}
    (hs : s.Upgrades) (hnow : always l.committed)
    (h : ∀ r l', l.Answers s r l' → always l'.committed ∧ post (past ++ [.asked s r]) r l') :
    (Program.query s).Commits engine view always past l post := by
  refine ask keeps hs hnow fun r l' hr => ?_
  obtain ⟨hnow', hpost⟩ := h r l' hr
  cases r with
  | ok v => exact give hnow' hpost
  | error f => exact fail hnow' hpost

theorem control {c : Control} {p : Program α} {l' : Ledger}
    {post : List Event → Except Failure α → Ledger → Prop} (hc : l.controlled? c = some l')
    (hnow : always l.committed)
    (hp : p.Commits engine view always (past ++ [.controlled c]) l' post) :
    (Program.control c p).Commits engine view always past l post := by
  rintro w rfl
  obtain ⟨hmoments, hpost⟩ := hp (w.controlled engine c) (keeps.controls w.database c l' hc)
  refine ⟨List.forall_mem_cons.2 ⟨hnow, hmoments⟩, ?_⟩
  rw [List.append_assoc] at hpost
  exact hpost

/-- A transaction commits all that its body changed, or nothing. -/
theorem transaction {p : Program α} {post : List Event → Except Failure α → Ledger → Prop}
    (hnow : always committed)
    (hp : p.Commits engine view (· = committed) (past ++ [.controlled .start])
      ⟨committed, some []⟩ fun es r l' => ∃ pending, l'.pending = some pending ∧
        match r with
        | .ok a => always (committed ++ pending) ∧
            post (es ++ [.controlled .commit]) (.ok a) ⟨committed ++ pending, none⟩
        | .error e => post (es ++ [.controlled .rollback]) (.error e) ⟨committed, none⟩) :
    p.transaction.Commits engine view always past ⟨committed, none⟩ post := by
  have hbody := hp.weaken fun c (h : c = committed) => (h ▸ hnow : always c)
  refine control keeps rfl hnow (finish (hbody.mono fun es r l' _ h => ?_))
  obtain ⟨⟨pending, hpending, hr⟩, hsame⟩ := h
  obtain ⟨_, _⟩ := l'
  obtain rfl : _ = committed := hsame
  obtain rfl : _ = some pending := hpending
  cases r with
  | ok a => exact control keeps rfl hnow (give hr.1 hr.2)
  | error e => exact control keeps rfl hnow (fail hnow hr)

/-- A connection is given back with no transaction open. -/
theorem withConnection {p : Program α} {post : List Event → Except Failure α → Ledger → Prop}
    (hnow : always committed)
    (hp : p.Commits engine view always (past ++ [.controlled .acquire]) ⟨committed, none⟩
      fun es r l' => l'.pending = none ∧ post (es ++ [.controlled .release]) r l') :
    p.withConnection.Commits engine view always past ⟨committed, none⟩ post := by
  refine control keeps rfl hnow (finish (hp.mono fun es r l' hnow' h => ?_))
  obtain ⟨committed', pending⟩ := l'
  obtain ⟨rfl, hpost⟩ := h
  refine control keeps rfl hnow' ?_
  cases r with
  | ok a => exact give hnow' hpost
  | error e => exact fail hnow' hpost

end Commits

end Program

end FeatureFlags.Database
