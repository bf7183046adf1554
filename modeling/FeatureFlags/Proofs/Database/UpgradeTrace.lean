import FeatureFlags.Proofs.Database.Migrated
import Mathlib.Data.List.Forall2

/-!
# What an upgrade does, step by step

`Program.deeds` is everything that a run does, in one list: the calls with their answers, and the
entries of the log between them. It is taken from an engine that may answer a statement by anything.
`Program.Does` is a contract over deeds, with one rule for every way to put programs together.

`Migration.Upgrades` lists what the deeds of an upgrade can be: the table of versions is made, the
recorded versions are read, and the migrations that are not among them are applied in order, each in
a transaction of its own that also records its version. The first failure ends it: an open
transaction is rolled back, nothing more is asked, and the failure is the result. There is one such
inductive for every part of the program; `upgrade_deeds` says that every run is a case of the last,
and what is committed, logged and given in it.
-/

namespace FeatureFlags.Database

/-- What a program does: it asks a statement and is answered, it does something with a connection or
a transaction, or it writes to the log. -/
inductive Deed where
  | asked (s : Statement) (answer : Except Failure Json)
  | controlled (c : Control)
  | noted (entry : Log.Entry)

namespace Deed

def call? : Deed → Option Call
  | .asked s _ => some (.asked s)
  | .controlled c => some (.controlled c)
  | .noted _ => none

def control? : Deed → Option Control
  | .asked _ _ => none
  | .controlled c => some c
  | .noted _ => none

def entry? : Deed → Option Log.Entry
  | .asked _ _ => none
  | .controlled _ => none
  | .noted entry => some entry

/-- The versions whose records were committed, when `pending` are those of the open transaction. -/
def committedAfter : List String → List Deed → List String
  | _, [] => []
  | _, .controlled .start :: rest => committedAfter [] rest
  | pending, .controlled .commit :: rest => pending ++ committedAfter [] rest
  | _, .controlled .rollback :: rest => committedAfter [] rest
  | pending, .asked (.recordVersion version) (.ok _) :: rest =>
    committedAfter (pending ++ [version]) rest
  | pending, _ :: rest => committedAfter pending rest

/-- The versions whose records were committed, in order. -/
def committedVersions (deeds : List Deed) : List String := committedAfter [] deeds

end Deed

namespace Program

variable {α β σ : Type}

/-- All that a run does, in order. -/
def deeds (engine : Engine σ) : Program α → Session σ → List Deed
  | .give _, _ => []
  | .fail _, _ => []
  | .ask s next, w =>
    let (r, w) := w.asked engine s
    .asked s r :: (next r).deeds engine w
  | .control c next, w => .controlled c :: next.deeds engine (w.controlled engine c)
  | .draw e next, w => (next (Identifier.next e w.issued)).deeds engine w.drawn
  | .note entry next, w => .noted entry :: next.deeds engine (w.noted entry)

section
variable (engine : Engine σ) (w : Session σ)

/-- The calls that a session records are those among the deeds. -/
theorem calls_of_deeds (p : Program α) :
    (p.run engine w).2.calls = w.calls ++ (p.deeds engine w).filterMap Deed.call? := by
  induction p generalizing w with
  | give a => simp [run, deeds]
  | fail f => simp [run, deeds]
  | ask s next ih => simp [run, deeds, ih, Session.asked, Deed.call?]
  | control c next ih => simp [run, deeds, ih, Session.controlled, Deed.call?]
  | draw e next ih => exact ih _ _
  | note entry next ih => simp [run, deeds, ih, Session.noted, List.filterMap_cons, Deed.call?]

/-- What a session logs is what is noted. -/
theorem entries_of_deeds (p : Program α) :
    (p.run engine w).2.entries = w.entries ++ (p.deeds engine w).filterMap Deed.entry? := by
  induction p generalizing w with
  | give a => simp [run, deeds]
  | fail f => simp [run, deeds]
  | ask s next ih => simp [run, deeds, ih, Session.asked, List.filterMap_cons, Deed.entry?]
  | control c next ih =>
    simp [run, deeds, ih, Session.controlled, List.filterMap_cons, Deed.entry?]
  | draw e next ih => exact ih _ _
  | note entry next ih => simp [run, deeds, ih, Session.noted, Deed.entry?]

theorem deeds_finish (p : Program α) (after : Except Failure α → Program β) :
    (p.finish after).deeds engine w =
      p.deeds engine w ++ (after (p.run engine w).1).deeds engine (p.run engine w).2 := by
  induction p generalizing w with
  | give a => rfl
  | fail f => rfl
  | ask s next ih => exact congrArg _ (ih _ _)
  | control c next ih => exact congrArg _ (ih _)
  | draw e next ih => exact ih _ _
  | note entry next ih => exact congrArg _ (ih _)

end

/-! ## Contracts over deeds -/

/-- Every run of the program does what `post` says of its deeds and its end. -/
def Does (engine : Engine σ) (p : Program α) (post : List Deed → Except Failure α → Prop) : Prop :=
  ∀ w, post (p.deeds engine w) (p.run engine w).1

namespace Does

variable {engine : Engine σ} {post post' : List Deed → Except Failure α → Prop}

theorem mono {p : Program α} (hp : p.Does engine post) (h : ∀ ds r, post ds r → post' ds r) :
    p.Does engine post' := fun w => h _ _ (hp w)

theorem give {a : α} (h : post [] (.ok a)) : (Program.give a).Does engine post := fun _ => h

theorem fail {f : Failure} (h : post [] (.error f)) : (Program.fail f).Does engine post :=
  fun _ => h

theorem control {c : Control} {p : Program α}
    (hp : p.Does engine fun ds r => post (.controlled c :: ds) r) :
    (Program.control c p).Does engine post := fun w => hp (w.controlled engine c)

theorem finish {p : Program β} {after : Except Failure β → Program α}
    (hp : p.Does engine fun ds r => (after r).Does engine fun ds' => post (ds ++ ds')) :
    (p.finish after).Does engine post := by
  intro w
  rw [deeds_finish, run_finish]
  exact hp w _

/-- After a value the program goes on; a failure is its end. -/
theorem bind {p : Program β} {f : β → Program α}
    (hp : p.Does engine fun ds r =>
      match r with
      | .ok a => (f a).Does engine fun ds' => post (ds ++ ds')
      | .error e => post ds (.error e)) :
    (p >>= f).Does engine post := by
  refine finish (hp.mono fun ds r h => ?_)
  cases r with
  | ok a => exact h
  | error e => exact fail (by rwa [List.append_nil])

theorem query {s : Statement} {post : List Deed → Except Failure Json → Prop}
    (h : ∀ r, post [.asked s r] r) : (Program.query s).Does engine post := by
  intro w
  have hanswer := h (w.asked engine s).1
  simp only [Program.query, deeds, run]
  cases hr : (w.asked engine s).1 with
  | ok v => rwa [hr] at hanswer
  | error f => rwa [hr] at hanswer

theorem log {entry : Log.Entry} {post : List Deed → Except Failure Unit → Prop}
    (h : post [.noted entry] (.ok ())) : (Program.log entry).Does engine post := fun _ => h

theorem transaction {p : Program α}
    (hp : p.Does engine fun ds r =>
      post (.controlled .start :: ds ++ [.controlled (closing r)]) r) :
    p.transaction.Does engine post := by
  refine control (finish (hp.mono fun ds r h => ?_))
  cases r with
  | ok a => exact control (give h)
  | error e => exact control (fail h)

theorem withConnection {p : Program α}
    (hp : p.Does engine fun ds r => post (.controlled .acquire :: ds ++ [.controlled .release]) r) :
    p.withConnection.Does engine post := by
  refine control (finish (hp.mono fun ds r h => ?_))
  cases r with
  | ok a => exact control (give h)
  | error e => exact control (fail h)

end Does

end Program

namespace Migration

open Deed (committedAfter committedVersions)

/-! ## What the parts of an upgrade do -/

/-- The statements are asked one after the other, and none of them fails. -/
def Answered (ss : List Statement) (ds : List Deed) : Prop :=
  List.Forall₂ (fun s d => ∃ v, d = .asked s (.ok v)) ss ds

/-- Statements are asked up to the first that fails. -/
inductive Executes : List Statement → List Deed → Except Failure Unit → Prop
  | done {ss : List Statement} {ds : List Deed} (h : Answered ss ds) : Executes ss ds (.ok ())
  | stopped {before after : List Statement} {s : Statement} {ds : List Deed} {f : Failure}
      (h : Answered before ds) :
      Executes (before ++ s :: after) (ds ++ [.asked s (.error f)]) (.error f)

/-- What is logged of a version that is in place. -/
def appliedEntry (version : String) : Log.Entry :=
  ⟨.info, logger, "Migration applied", [("migration", .string version)]⟩

/-- One migration is committed and logged, or rolled back. -/
inductive Applies (m : Migration) : List Deed → Except Failure Unit → Prop
  | committed {ds : List Deed} (h : Answered m.script ds) :
      m.Applies
        (.controlled .start :: ds ++ [.controlled .commit, .noted (appliedEntry m.version)])
        (.ok ())
  | undone {before after : List Statement} {s : Statement} {ds : List Deed} {f : Failure}
      (hscript : m.script = before ++ s :: after) (h : Answered before ds) :
      m.Applies (.controlled .start :: ds ++ [.asked s (.error f), .controlled .rollback])
        (.error f)

/-- Migrations are applied up to the first that fails. -/
inductive AppliesAll : List Migration → List Deed → Except Failure (List String) → Prop
  | done {ms : List Migration} {blocks : List (List Deed)}
      (h : List.Forall₂ (fun m ds => m.Applies ds (.ok ())) ms blocks) :
      AppliesAll ms blocks.flatten (.ok (ms.map version))
  | stopped {before after : List Migration} {m : Migration} {blocks : List (List Deed)}
      {ds : List Deed} {f : Failure}
      (h : List.Forall₂ (fun m ds => m.Applies ds (.ok ())) before blocks)
      (hm : m.Applies ds (.error f)) :
      AppliesAll (before ++ m :: after) (blocks.flatten ++ ds) (.error f)

/-- The row has this version. A list and an object are none. -/
def Versioned (row v : Json) : Prop :=
  row.get? "version" = some v ∧ (∀ items, v ≠ .array items) ∧ ∀ members, v ≠ .object members

/-- The rows have these versions, one each. -/
def Record (rows : Json) (versions : List Json) : Prop :=
  ∃ items, rows = .array items ∧ List.Forall₂ Versioned items versions

/-- Reads the versions of rows. -/
def readVersions (rows : Json) : Program (List Json) := do
  (← rowsOf rows).mapM versionOf

/-- All that can happen in an upgrade. -/
inductive Upgrades (ms : List Migration) : List Deed → Except Failure (List String) → Prop
  | uncreated {f : Failure} :
      Upgrades ms
        [.controlled .acquire, .asked .createVersions (.error f), .controlled .release] (.error f)
  | unlisted {v : Json} {f : Failure} :
      Upgrades ms
        [.controlled .acquire, .asked .createVersions (.ok v), .asked .selectVersions (.error f),
          .controlled .release]
        (.error f)
  | unreadable {v rows : Json} {f : Failure} (h : ∀ recorded, ¬ Record rows recorded)
      (hf : readVersions rows = .fail f) :
      Upgrades ms
        [.controlled .acquire, .asked .createVersions (.ok v), .asked .selectVersions (.ok rows),
          .controlled .release]
        (.error f)
  | listed {v rows : Json} {recorded : List Json} {ds : List Deed}
      {r : Except Failure (List String)} (h : Record rows recorded)
      (hall : AppliesAll (ms.filter fun m => !isRecorded recorded m.version) ds r) :
      Upgrades ms
        (.controlled .acquire :: .asked .createVersions (.ok v) ::
          .asked .selectVersions (.ok rows) :: ds ++ [.controlled .release])
        r

/-! ## Every run is one of these -/

theorem Executes.cons {ss : List Statement} {ds : List Deed} {r : Except Failure Unit}
    (h : Executes ss ds r) (s : Statement) (v : Json) :
    Executes (s :: ss) (.asked s (.ok v) :: ds) r := by
  cases h with
  | done h => exact .done (.cons ⟨v, rfl⟩ h)
  | @stopped before after s' ds f h =>
    have hanswered : Answered (s :: before) (.asked s (.ok v) :: ds) := .cons ⟨v, rfl⟩ h
    exact .stopped hanswered

theorem AppliesAll.cons {m : Migration} {ms : List Migration} {block ds : List Deed}
    {r : Except Failure (List String)} (hm : m.Applies block (.ok ())) (h : AppliesAll ms ds r) :
    AppliesAll (m :: ms) (block ++ ds) (r.map (m.version :: ·)) := by
  cases h with
  | done h => exact .done (.cons hm h)
  | @stopped before after m' blocks ds f h hfailed =>
    have hall : AppliesAll (m :: before ++ m' :: after) _ (.error f) :=
      .stopped (.cons hm h) hfailed
    rwa [List.flatten_cons, List.append_assoc] at hall

section

variable {σ : Type} (engine : Engine σ)

theorem execute_does (ss : List Statement) : (execute ss).Does engine (Executes ss) := by
  induction ss with
  | nil => exact .give (.done .nil)
  | cons s ss ih =>
    refine .bind (.query fun r => ?_)
    cases r with
    | error f =>
      have hanswered : Answered [] [] := .nil
      exact .stopped hanswered
    | ok v => exact ih.mono fun ds r h => h.cons s v

theorem apply_does (m : Migration) : m.apply.Does engine m.Applies := by
  refine .bind (.transaction ((execute_does engine m.script).mono fun ds r h => ?_))
  generalize hscript : m.script = ss at h
  cases h with
  | done h =>
    subst hscript
    refine .log ?_
    rw [List.append_assoc]
    exact .committed h
  | @stopped before after s ds f h =>
    have hundone : m.Applies _ (.error f) := .undone hscript h
    simpa [Program.closing] using hundone

theorem applyAll_does (ms : List Migration) : (applyAll ms).Does engine (AppliesAll ms) := by
  induction ms with
  | nil => exact .give (.done .nil)
  | cons m ms ih =>
    refine .bind ((apply_does engine m).mono fun block r hm => ?_)
    cases r with
    | error f =>
      have hnone : List.Forall₂ (fun m ds => Applies m ds (.ok ())) [] [] := .nil
      exact .stopped hnone hm
    | ok _ =>
      refine .bind (ih.mono fun ds r h => ?_)
      have hall := h.cons hm
      cases r with
      | error f => exact hall
      | ok versions =>
        refine .give ?_
        rw [List.append_nil]
        exact hall

end

/-! ## Recorded versions -/

theorem versionOf_of_versioned {row v : Json} (h : Versioned row v) : versionOf row = .give v := by
  obtain ⟨hget, hlist, hobject⟩ := h
  cases row with
  | object columns =>
    have hmember : Json.member? columns "version" = some v := hget
    have hcolumn : column columns "version" = .give v := by
      unfold column
      rw [hmember]
    show (column columns "version" >>= _) = _
    rw [hcolumn, Program.give_bind]
    cases v with
    | array items => exact absurd rfl (hlist items)
    | object members => exact absurd rfl (hobject members)
    | _ => rfl
  | _ => cases hget

theorem versionOf_of_not_versioned {row : Json} (h : ∀ v, ¬ Versioned row v) :
    ∃ f, versionOf row = .fail f := by
  cases row with
  | object columns =>
    show ∃ f, (column columns "version" >>= _) = _
    unfold column
    cases hmember : Json.member? columns "version" with
    | none => exact ⟨_, rfl⟩
    | some v =>
      simp only [Program.give_bind]
      cases v with
      | array items => exact ⟨_, rfl⟩
      | object members => exact ⟨_, rfl⟩
      | _ => exact absurd ⟨hmember, nofun, nofun⟩ (h _)
  | _ => exact ⟨_, rfl⟩

theorem mapM_versionOf_cases (items : List Json) :
    (∃ recorded, List.Forall₂ Versioned items recorded ∧ items.mapM versionOf = .give recorded) ∨
      (∀ recorded, ¬ List.Forall₂ Versioned items recorded) ∧
        ∃ f, items.mapM versionOf = .fail f := by
  induction items with
  | nil => exact .inl ⟨[], .nil, rfl⟩
  | cons row items ih =>
    rw [List.mapM_cons]
    by_cases hrow : ∃ v, Versioned row v
    · obtain ⟨v, hv⟩ := hrow
      rw [versionOf_of_versioned hv, Program.give_bind]
      rcases ih with ⟨recorded, hrecorded, hread⟩ | ⟨hnone, f, hread⟩
      · exact .inl ⟨v :: recorded, .cons hv hrecorded, by rw [hread]; rfl⟩
      · refine .inr ⟨?_, f, by rw [hread]; rfl⟩
        rintro _ (_ | ⟨-, hrest⟩)
        exact hnone _ hrest
    · obtain ⟨f, hf⟩ := versionOf_of_not_versioned fun v hv => hrow ⟨v, hv⟩
      refine .inr ⟨?_, f, by rw [hf]; rfl⟩
      rintro _ (_ | ⟨hv, -⟩)
      exact hrow ⟨_, hv⟩

/-- The versions are read just when every row has one. -/
theorem readVersions_cases (rows : Json) :
    (∃ recorded, Record rows recorded ∧ readVersions rows = .give recorded) ∨
      (∀ recorded, ¬ Record rows recorded) ∧ ∃ f, readVersions rows = .fail f := by
  cases rows with
  | array items =>
    rcases mapM_versionOf_cases items with ⟨recorded, hrecorded, hread⟩ | ⟨hnone, hread⟩
    · exact .inl ⟨recorded, ⟨items, rfl, hrecorded⟩, hread⟩
    · refine .inr ⟨?_, hread⟩
      rintro recorded ⟨_, ⟨⟩, h⟩
      exact hnone recorded h
  | _ =>
    refine .inr ⟨?_, _, rfl⟩
    rintro recorded ⟨_, ⟨⟩, -⟩

theorem upgrade_does {σ : Type} (engine : Engine σ) (ms : List Migration) :
    (upgrade ms).Does engine (Upgrades ms) := by
  refine .withConnection (.bind (.query fun created => ?_))
  cases created with
  | error f => exact .uncreated
  | ok v =>
    refine .bind (.query fun listed => ?_)
    cases listed with
    | error f => exact .unlisted
    | ok rows =>
      dsimp only
      -- the rows and the versions in them are read by one program
      rw [← bind_assoc]
      rcases readVersions_cases rows with ⟨recorded, hrecorded, hread⟩ | ⟨hnone, f, hread⟩
      · show Program.Does engine (readVersions rows >>= _) _
        rw [hread, Program.give_bind]
        exact (applyAll_does engine _).mono fun ds r hall => .listed hrecorded hall
      · show Program.Does engine (readVersions rows >>= _) _
        rw [hread]
        exact .fail (.unreadable hnone hread)

/-! ## What is committed -/

theorem committedAfter_answered {ss : List Statement} {ds : List Deed} (h : Answered ss ds)
    (pending : List String) (rest : List Deed) :
    committedAfter pending (ds ++ rest) = committedAfter (pending ++ recordedVersions ss) rest := by
  induction h generalizing pending with
  | nil => simp [recordedVersions]
  | @cons s d ss ds hd _ ih =>
    obtain ⟨v, rfl⟩ := hd
    cases s with
    | recordVersion version =>
      rw [List.cons_append, committedAfter, ih, List.append_assoc]
      rfl
    | _ => exact ih pending

/-- The deeds commit these versions, log them, and keep the connection. -/
structure Commits (ds : List Deed) (versions : List String) : Prop where
  committed : ∀ rest, committedAfter [] (ds ++ rest) = versions ++ committedAfter [] rest
  logged : ds.filterMap Deed.entry? = versions.map appliedEntry
  kept : .release ∉ ds.filterMap Deed.control?

theorem Commits.nil : Commits [] [] := ⟨fun _ => rfl, rfl, List.not_mem_nil⟩

theorem Commits.append {ds ds' : List Deed} {versions versions' : List String}
    (h : Commits ds versions) (h' : Commits ds' versions') :
    Commits (ds ++ ds') (versions ++ versions') where
  committed rest := by rw [List.append_assoc, h.committed, h'.committed, List.append_assoc]
  logged := by rw [List.filterMap_append, h.logged, h'.logged, List.map_append]
  kept := by
    rw [List.filterMap_append, List.mem_append, not_or]
    exact ⟨h.kept, h'.kept⟩

theorem Answered.only_asks {ss : List Statement} {ds : List Deed} (h : Answered ss ds) :
    ds.filterMap Deed.entry? = [] ∧ ds.filterMap Deed.control? = [] := by
  induction h with
  | nil => exact ⟨rfl, rfl⟩
  | cons hd _ ih =>
    obtain ⟨v, rfl⟩ := hd
    exact ih

theorem Applies.commits_of_ok {m : Migration} {ds : List Deed} (h : m.Applies ds (.ok ())) :
    Commits ds [m.version] := by
  cases h with
  | @committed ds h =>
    obtain ⟨hentries, hcontrols⟩ := h.only_asks
    constructor
    case committed =>
      intro rest
      have hpending := committedAfter_answered h [] (.controlled .commit ::
        .noted (appliedEntry m.version) :: rest)
      rw [recordedVersions_script] at hpending
      simpa [committedAfter] using hpending
    case logged => simp [List.filterMap_cons, hentries, Deed.entry?]
    case kept => simp [List.filterMap_cons, hcontrols, Deed.control?]

theorem Applies.commits_of_error {m : Migration} {ds : List Deed} {f : Failure}
    (h : m.Applies ds (.error f)) : Commits ds [] := by
  cases h with
  | @undone before after s ds f hscript h =>
    obtain ⟨hentries, hcontrols⟩ := h.only_asks
    constructor
    case committed =>
      intro rest
      have hpending := committedAfter_answered h [] (.asked s (.error f) :: .controlled .rollback ::
        rest)
      simpa [committedAfter] using hpending
    case logged => simp [List.filterMap_cons, hentries, Deed.entry?]
    case kept => simp [List.filterMap_cons, hcontrols, Deed.control?]

theorem commits_flatten {ms : List Migration} {blocks : List (List Deed)}
    (h : List.Forall₂ (fun m ds => m.Applies ds (.ok ())) ms blocks) :
    Commits blocks.flatten (ms.map version) := by
  induction h with
  | nil => exact .nil
  | cons hm _ ih => exact hm.commits_of_ok.append ih

theorem AppliesAll.commits {ms : List Migration} {ds : List Deed}
    {r : Except Failure (List String)} (h : AppliesAll ms ds r) :
    ∃ versions, Commits ds versions ∧ (r = .ok versions ∨ ∃ f, r = .error f) := by
  cases h with
  | done h => exact ⟨_, commits_flatten h, .inl rfl⟩
  | stopped h hm => exact ⟨_, (commits_flatten h).append hm.commits_of_error, .inr ⟨_, rfl⟩⟩

/-- What an upgrade logs are the versions that it commits, which it gives when it succeeds, and it
gives its connection back once. -/
theorem Upgrades.accounts {ms : List Migration} {ds : List Deed}
    {r : Except Failure (List String)} (h : Upgrades ms ds r) :
    ds.filterMap Deed.entry? = (committedVersions ds).map appliedEntry ∧
      (ds.filterMap Deed.control?).count .release = 1 ∧
      (r = .ok (committedVersions ds) ∨ ∃ f, r = .error f) := by
  cases h with
  | uncreated | unlisted | unreadable => exact ⟨rfl, rfl, .inr ⟨_, rfl⟩⟩
  | @listed v rows recorded ds r _ hall =>
    obtain ⟨versions, hcommits, hr⟩ := hall.commits
    have hversions : committedVersions (.controlled .acquire :: .asked .createVersions (.ok v) ::
        .asked .selectVersions (.ok rows) :: ds ++ [.controlled .release]) = versions :=
      (hcommits.committed [.controlled .release]).trans (List.append_nil _)
    rw [hversions]
    refine ⟨?_, ?_, hr⟩
    · simp [List.filterMap_cons, Deed.entry?, hcommits.logged]
    · simp [List.filterMap_cons, Deed.control?, List.count_eq_zero.2 hcommits.kept]

/-- **The trace of an upgrade.** Whatever the database answers, an upgrade is one of the cases of
`Upgrades`: on one connection it makes the table of versions, reads the versions that are recorded,
and applies the others in order, up to the first failure, which it ends with. What it logs are the
versions that it commits, in order; these it gives when it succeeds. The connection is given back
once in any case. -/
theorem upgrade_deeds {σ : Type} (engine : Engine σ) (ms : List Migration) (w : Session σ) :
    let run := (upgrade ms).run engine w
    let deeds := (upgrade ms).deeds engine w
    Upgrades ms deeds run.1 ∧
      run.2.calls = w.calls ++ deeds.filterMap Deed.call? ∧
      run.2.entries = w.entries ++ (committedVersions deeds).map appliedEntry ∧
      (run.1 = .ok (committedVersions deeds) ∨ ∃ f, run.1 = .error f) ∧
      (deeds.filterMap Deed.control?).count .release = 1 := by
  intro run deeds
  have hupgrades : Upgrades ms deeds run.1 := upgrade_does engine ms w
  obtain ⟨hlogged, hreleased, hgiven⟩ := hupgrades.accounts
  refine ⟨hupgrades, Program.calls_of_deeds engine w _, ?_, hgiven, hreleased⟩
  rw [← hlogged]
  exact Program.entries_of_deeds engine w _

end Migration

end FeatureFlags.Database
