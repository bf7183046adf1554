import FeatureFlags.Database.Migration
import FeatureFlags.Proofs.Database.Ledger
import Mathlib.Logic.Relation

/-!
# Migrations are applied once

A run of an upgrade may fail at any statement, and it may break off at any moment, whereupon the
database is left with what was committed. However many runs there are, the committed changes are at
every moment those of the first migrations of the list, each with the record of its version
(`migrated`), since a migration and its record are committed together and a run begins with the
first migration that is not recorded. A run that succeeds leaves nothing to do for those after it
(`migrations_applied_once`).
-/

namespace FeatureFlags.Database

namespace Migration

/-- The changes that a migration makes, with the record of its version. -/
def script (m : Migration) : List Statement :=
  m.statements.map .define ++ [.recordVersion m.version]

theorem isChange_of_mem_script {m : Migration} {s : Statement} (h : s ∈ m.script) : s.IsChange := by
  rcases List.mem_append.1 h with h | h
  · obtain ⟨text, -, rfl⟩ := List.mem_map.1 h
    trivial
  · obtain rfl := List.mem_singleton.1 h
    trivial

/-- The changes of a database after the first `k` migrations. -/
def migrated (base : List Statement) (ms : List Migration) (k : Nat) : List Statement :=
  base ++ (ms.take k).flatMap script

/-- At least the first `k` migrations are in place, and whole migrations in order. -/
def InPlace (base : List Statement) (ms : List Migration) (k : Nat) (c : List Statement) : Prop :=
  ∃ j, k ≤ j ∧ j ≤ ms.length ∧ c = migrated base ms j

theorem migrated_succ (base : List Statement) {ms rest : List Migration} {m : Migration} {k : Nat}
    (h : ms.drop k = m :: rest) : migrated base ms (k + 1) = migrated base ms k ++ m.script := by
  have hget : ms[k]? = some m := by
    rw [← Nat.add_zero k, ← List.getElem?_drop, h]
    rfl
  rw [migrated, migrated, List.take_add_one, hget, List.flatMap_append, List.append_assoc]
  simp

theorem migrated_length (base : List Statement) (ms : List Migration) :
    migrated base ms ms.length = base ++ ms.flatMap script := by
  rw [migrated, List.take_length]

/-! ## Recorded versions -/

theorem recordedVersions_append (l m : List Statement) :
    recordedVersions (l ++ m) = recordedVersions l ++ recordedVersions m :=
  List.filterMap_append

theorem recordedVersions_script (m : Migration) : recordedVersions m.script = [m.version] := by
  have hdefined : recordedVersions (m.statements.map .define) = [] := by
    simp [recordedVersions, List.filterMap_map, Function.comp_def, Statement.version?]
  rw [script, recordedVersions_append, hdefined]
  rfl

theorem recordedVersions_scripts (ms : List Migration) :
    recordedVersions (ms.flatMap script) = ms.map version := by
  induction ms with
  | nil => rfl
  | cons m ms ih =>
    rw [List.flatMap_cons, recordedVersions_append, recordedVersions_script, ih]
    rfl

theorem recordedVersions_migrated {base : List Statement} (hbase : recordedVersions base = [])
    (ms : List Migration) (k : Nat) :
    recordedVersions (migrated base ms k) = (ms.take k).map version := by
  rw [migrated, recordedVersions_append, hbase, recordedVersions_scripts, List.nil_append]

/-- The rows of recorded versions are read as these versions. -/
theorem mapM_versionOf (versions : List String) :
    (versions.map versionRow).mapM versionOf = .give (versions.map .string) := by
  induction versions with
  | nil => rfl
  | cons v versions ih =>
    rw [List.map_cons, List.mapM_cons, ih]
    rfl

theorem isRecorded_iff {versions : List String} {version : String} :
    isRecorded (versions.map .string) version = true ↔ version ∈ versions := by
  simp [isRecorded, List.any_map, List.any_eq_true]

/-- What is missing when the first migrations are recorded are the others. -/
theorem filter_unrecorded {ms : List Migration} (hversions : (ms.map version).Nodup) {k : Nat}
    {versions : List String} (hrecorded : ∀ v, v ∈ versions ↔ v ∈ (ms.take k).map version) :
    (ms.filter fun m => !isRecorded (versions.map .string) m.version) = ms.drop k := by
  have hsplit : ((ms.take k).map version ++ (ms.drop k).map version).Nodup := by
    rwa [← List.map_append, List.take_append_drop]
  obtain ⟨-, -, hdisjoint⟩ := List.nodup_append.1 hsplit
  have hfirst : ∀ m ∈ ms.take k, isRecorded (versions.map .string) m.version = true :=
    fun m hm => isRecorded_iff.2 ((hrecorded _).2 (List.mem_map_of_mem hm))
  have hothers : ∀ m ∈ ms.drop k, isRecorded (versions.map .string) m.version = false := by
    intro m hm
    refine Bool.eq_false_iff.2 fun h => ?_
    exact hdisjoint _ ((hrecorded _).1 (isRecorded_iff.1 h)) _ (List.mem_map_of_mem hm) rfl
  conv => lhs; rw [← List.take_append_drop k ms]
  rw [List.filter_append, List.filter_eq_nil_iff.2 fun m hm => by simp [hfirst m hm],
    List.filter_eq_self.2 fun m hm => by simp [hothers m hm], List.nil_append]

/-! ## One run -/

/-- The failure is the answer to a statement. -/
def Blamed (es : List Event) (f : Failure) : Prop := ∃ s, .asked s (.error f) ∈ es

/-- The database is not asked for a change. -/
def AsksNoChange (es : List Event) : Prop := ∀ s, s.IsChange → ∀ r, .asked s r ∉ es

theorem asksNoChange_nil : AsksNoChange [] := nofun

theorem AsksNoChange.asked {es : List Event} (h : AsksNoChange es) {s : Statement}
    (hs : ¬ s.IsChange) (r : Except Failure Json) : AsksNoChange (es ++ [.asked s r]) := by
  intro s' hs' r' hmem
  rcases List.mem_append.1 hmem with hmem | hmem
  · exact h s' hs' r' hmem
  · cases List.mem_singleton.1 hmem
    exact hs hs'

theorem AsksNoChange.controlled {es : List Event} (h : AsksNoChange es) (c : Control) :
    AsksNoChange (es ++ [.controlled c]) := by
  intro s' hs' r' hmem
  rcases List.mem_append.1 hmem with hmem | hmem
  · exact h s' hs' r' hmem
  · cases List.mem_singleton.1 hmem

section

variable {σ : Type} {engine : Engine σ} {view : σ → Ledger} (keeps : engine.KeepsLedger view)

include keeps

/-- Changes in a transaction are all made, or one of them fails. -/
theorem execute_commits {committed : List Statement} {ss : List Statement}
    (hss : ∀ s ∈ ss, s.IsChange) (past : List Event) (pending : List Statement) :
    (execute ss).Commits engine view (· = committed) past ⟨committed, some pending⟩
      fun es r l' => match r with
        | .ok () => l'.pending = some (pending ++ ss)
        | .error f => l'.pending.isSome ∧ Blamed es f := by
  induction ss generalizing past pending with
  | nil => exact .give rfl (by simp)
  | cons s ss ih =>
    obtain ⟨hs, hss⟩ := List.forall_mem_cons.1 hss
    have hupgrades : s.Upgrades := by
      cases s <;> first | exact hs | exact hs.elim
    refine .bind (.query keeps hupgrades rfl fun r l' hr => ?_)
    cases hr with
    | failed _ f hopen => exact ⟨rfl, hopen, s, by simp⟩
    | changed _ v =>
      refine ⟨rfl, (ih hss _ (pending ++ [s])).mono fun es r l' _ h => ?_⟩
      rw [List.append_assoc] at h
      exact h
    | created | listed => exact hs.elim

/-- A migration is applied with the record of its version, or not at all. -/
theorem apply_commits {always : List Statement → Prop} {committed : List Statement}
    (m : Migration) (hnow : always committed) (hthen : always (committed ++ m.script))
    (past : List Event) :
    m.apply.Commits engine view always past ⟨committed, none⟩
      fun es r l' => match r with
        | .ok () => l' = ⟨committed ++ m.script, none⟩
        | .error f => l'.pending = none ∧ Blamed es f := by
  refine .bind (.transaction keeps hnow ?_)
  refine (execute_commits keeps (fun s hs => isChange_of_mem_script hs) _ []).mono
    fun es r l' _ h => ?_
  cases r with
  | ok _ => exact ⟨m.script, h, hthen, .log hthen rfl⟩
  | error f =>
    obtain ⟨hopen, s, hs⟩ := h
    obtain ⟨pending, hpending⟩ := Option.isSome_iff_exists.1 hopen
    exact ⟨pending, hpending, rfl, s, List.mem_append_left _ hs⟩

/-- The migrations that are left are applied in order, up to one that fails. -/
theorem applyAll_commits {base : List Statement} {ms : List Migration} {low k : Nat}
    {rest : List Migration} (hrest : ms.drop k = rest) (hlow : low ≤ k) (hk : k ≤ ms.length)
    (past : List Event) :
    (applyAll rest).Commits engine view (InPlace base ms low) past ⟨migrated base ms k, none⟩
      fun es r l' => l'.pending = none ∧ (rest = [] → es = past) ∧
        match r with
        | .ok versions => versions = rest.map version ∧
            l'.committed = migrated base ms ms.length
        | .error f => Blamed es f := by
  induction rest generalizing k past with
  | nil =>
    obtain rfl : k = ms.length := Nat.le_antisymm hk (List.drop_eq_nil_iff.1 hrest)
    exact .give ⟨_, hlow, hk, rfl⟩ ⟨rfl, fun _ => rfl, rfl, rfl⟩
  | cons m rest ih =>
    have hdrop : ms.drop (k + 1) = rest := by
      rw [← List.drop_drop, hrest]
      rfl
    have hlt : k < ms.length := by
      refine Decidable.byContradiction fun h => ?_
      rw [List.drop_eq_nil_iff.2 (Nat.not_lt.1 h)] at hrest
      cases hrest
    have hthen : InPlace base ms low (migrated base ms k ++ m.script) :=
      ⟨k + 1, Nat.le_succ_of_le hlow, hlt, (migrated_succ base hrest).symm⟩
    refine .bind ((apply_commits keeps m ⟨k, hlow, hk, rfl⟩ hthen past).mono fun es r l' _ h => ?_)
    cases r with
    | error f => exact ⟨h.1, nofun, h.2⟩
    | ok _ =>
      subst h
      rw [← migrated_succ base hrest]
      refine .bind ((ih hdrop (Nat.le_succ_of_le hlow) hlt es).mono fun es r l' hnow h => ?_)
      obtain ⟨hidle, -, hr⟩ := h
      cases r with
      | error f => exact ⟨hidle, nofun, hr⟩
      | ok versions => exact .give hnow ⟨hidle, nofun, by rw [hr.1]; rfl, hr.2⟩

/-- A run on a database with the first `k` migrations applies the others in order. It fails when a
statement fails, gives the versions it has applied when none does, and asks for no change when
nothing was missing. -/
theorem upgrade_commits {base : List Statement} {ms : List Migration}
    (hversions : (ms.map version).Nodup) (hbase : recordedVersions base = []) {k : Nat}
    (hk : k ≤ ms.length) :
    (upgrade ms).Commits engine view (InPlace base ms k) [] ⟨migrated base ms k, none⟩
      fun es r l' => l'.pending = none ∧
        (k = ms.length → AsksNoChange es) ∧
        match r with
        | .ok versions => versions = (ms.drop k).map version ∧
            l'.committed = migrated base ms ms.length
        | .error f => Blamed es f := by
  have hnow : InPlace base ms k (migrated base ms k) := ⟨k, Nat.le_refl k, hk, rfl⟩
  refine .withConnection keeps hnow (.bind (.query keeps trivial hnow fun r l' hr => ?_))
  have hacquired : AsksNoChange ([] ++ [.controlled .acquire]) := asksNoChange_nil.controlled _
  cases hr with
  | changed hs => exact hs.elim
  | failed _ f hidle =>
    have hidle := Option.isNone_iff_eq_none.1 (by simpa using hidle)
    exact ⟨hnow, hidle, hidle, fun _ => (hacquired.asked id _).controlled _, .createVersions,
      by simp⟩
  | created v =>
    have hcreated := hacquired.asked (s := .createVersions) id (.ok v)
    refine ⟨hnow, .bind (.query keeps trivial hnow fun r l' hr => ?_)⟩
    cases hr with
    | changed hs => exact hs.elim
    | failed _ f hidle =>
      have hidle := Option.isNone_iff_eq_none.1 (by simpa using hidle)
      exact ⟨hnow, hidle, hidle, fun _ => (hcreated.asked id _).controlled _, .selectVersions,
        by simp⟩
    | @listed versions hlisted =>
      -- the versions that are listed are those of the first migrations
      have hrecorded : ∀ v, v ∈ versions ↔ v ∈ (ms.take k).map version := by
        intro v
        rw [hlisted, Ledger.visible, Option.getD_none, List.append_nil,
          recordedVersions_migrated hbase]
      refine ⟨hnow, ?_⟩
      show Program.Commits engine view _ ((versions.map versionRow).mapM versionOf >>= _) _ _ _
      rw [mapM_versionOf, Program.give_bind, filter_unrecorded hversions hrecorded]
      refine (applyAll_commits keeps rfl (Nat.le_refl k) hk _).mono fun es r l' _ h => ?_
      obtain ⟨hidle, hnone, hr⟩ := h
      refine ⟨hidle, hidle, fun hall => ?_, ?_⟩
      · rw [hnone (List.drop_eq_nil_iff.2 (Nat.le_of_eq hall.symm))]
        exact (hcreated.asked id _).controlled _
      · cases r with
        | ok versions => exact hr
        | error f =>
          obtain ⟨s, hs⟩ := hr
          exact ⟨s, List.mem_append_left _ hs⟩

end

/-! ## Runs one after the other -/

section

variable {σ : Type} (engine : Engine σ) (view : σ → Ledger) (ms : List Migration)

/-- A run from the first database, which may have broken off at any moment, leaves the second: what
was committed is kept, and what was not is rolled back. -/
def Leaves (d d' : σ) : Prop :=
  ∃ w : Session σ, w.database = d ∧
    ∃ m ∈ (upgrade ms).moments engine w, view d' = ⟨(view m).committed, none⟩

variable {engine view ms} {base : List Statement} {d d' : σ}
  (keeps : engine.KeepsLedger view) (hversions : (ms.map version).Nodup)
  (hbase : recordedVersions base = [])

include keeps hversions hbase

/-- One run keeps the migrations that are in place, and may add those that follow. -/
theorem Leaves.migrated {k : Nat} (h : Leaves engine view ms d d') (hk : k ≤ ms.length)
    (hd : view d = ⟨migrated base ms k, none⟩) :
    ∃ j, k ≤ j ∧ j ≤ ms.length ∧ view d' = ⟨Migration.migrated base ms j, none⟩ := by
  obtain ⟨w, rfl, m, hm, hd'⟩ := h
  obtain ⟨hmoments, -⟩ := upgrade_commits keeps hversions hbase hk w hd
  obtain ⟨j, hkj, hj, hc⟩ := hmoments m hm
  exact ⟨j, hkj, hj, by rw [hd', hc]⟩

/-- And so do all runs together. -/
theorem migrated_of_leaves {k : Nat} (h : Relation.ReflTransGen (Leaves engine view ms) d d')
    (hk : k ≤ ms.length) (hd : view d = ⟨migrated base ms k, none⟩) :
    ∃ j, k ≤ j ∧ j ≤ ms.length ∧ view d' = ⟨Migration.migrated base ms j, none⟩ := by
  induction h with
  | refl => exact ⟨k, Nat.le_refl k, hk, hd⟩
  | tail _ hlast ih =>
    obtain ⟨i, hki, hi, hview⟩ := ih
    obtain ⟨j, hij, hj, hview'⟩ := hlast.migrated keeps hversions hbase hi hview
    exact ⟨j, Nat.le_trans hki hij, hj, hview'⟩

/-- A run that comes to its end leaves the database as it is then. -/
theorem leaves_run {k : Nat} {w : Session σ} (hk : k ≤ ms.length)
    (hd : view w.database = ⟨migrated base ms k, none⟩) :
    Leaves engine view ms w.database ((upgrade ms).run engine w).2.database := by
  obtain ⟨-, hidle, -⟩ := upgrade_commits keeps hversions hbase hk w hd
  exact ⟨w, rfl, _, Program.database_mem_moments engine _ w, by rw [← hidle]⟩

/-- **Migrations are applied once.** A database has no version recorded, and upgrades with the same
migrations, which have different versions, are run on it one after the other; any statement may
fail, and a run may break off anywhere. During one more run, at every moment, the recorded versions
are those of the first migrations, and the committed changes are just the statements of these, each
once and in order. The run leaves the database it ends with; it fails only as one of its statements
does. Once a run has succeeded, all migrations are in place, and whatever runs follow, a run asks
for no change and gives no version, unless one of its statements fails. -/
theorem migrations_applied_once {start : σ} (hstart : view start = ⟨base, none⟩) {w : Session σ}
    (hruns : Relation.ReflTransGen (Leaves engine view ms) start w.database) :
    (∀ m ∈ (upgrade ms).moments engine w, ∃ k ≤ ms.length,
      (view m).committed = base ++ (ms.take k).flatMap script ∧
        recordedVersions (view m).committed = (ms.take k).map version) ∧
      Leaves engine view ms w.database ((upgrade ms).run engine w).2.database ∧
      (∀ f, ((upgrade ms).run engine w).1 = .error f → Blamed ((upgrade ms).events engine w) f) ∧
      ∀ versions, ((upgrade ms).run engine w).1 = .ok versions →
        view ((upgrade ms).run engine w).2.database = ⟨base ++ ms.flatMap script, none⟩ ∧
          recordedVersions (base ++ ms.flatMap script) = ms.map version ∧
          ∀ later : Session σ, Relation.ReflTransGen (Leaves engine view ms)
              ((upgrade ms).run engine w).2.database later.database →
            AsksNoChange ((upgrade ms).events engine later) ∧
              (((upgrade ms).run engine later).1 = .ok [] ∨
                ∃ f, ((upgrade ms).run engine later).1 = .error f ∧
                  Blamed ((upgrade ms).events engine later) f) := by
  have hfirst : view start = ⟨migrated base ms 0, none⟩ := by
    rw [hstart, migrated, List.take_zero, List.flatMap_nil, List.append_nil]
  obtain ⟨k, -, hk, hview⟩ := migrated_of_leaves keeps hversions hbase hruns (Nat.zero_le _) hfirst
  obtain ⟨hmoments, hidle, -, hend⟩ := upgrade_commits keeps hversions hbase hk w hview
  refine ⟨fun m hm => ?_, leaves_run keeps hversions hbase hk hview, fun f hf => ?_,
    fun versions hok => ?_⟩
  · obtain ⟨j, -, hj, hc⟩ := hmoments m hm
    exact ⟨j, hj, hc, by rw [hc, recordedVersions_migrated hbase]⟩
  · rw [hf] at hend
    exact hend
  rw [hok] at hend
  have hall : view ((upgrade ms).run engine w).2.database = ⟨migrated base ms ms.length, none⟩ := by
    rw [← hend.2, ← hidle]
  refine ⟨by rw [hall, migrated_length], ?_, fun later hlater => ?_⟩
  · rw [recordedVersions_append, hbase, recordedVersions_scripts, List.nil_append]
  -- nothing can be added to all migrations
  obtain ⟨j, hlow, hj, hview'⟩ :=
    migrated_of_leaves keeps hversions hbase hlater (Nat.le_refl _) hall
  obtain rfl : j = ms.length := Nat.le_antisymm hj hlow
  obtain ⟨-, -, hquiet, hend'⟩ := upgrade_commits keeps hversions hbase hj later hview'
  refine ⟨hquiet rfl, ?_⟩
  cases hresult : ((upgrade ms).run engine later).1 with
  | ok versions =>
    rw [hresult] at hend'
    rw [hend'.1, List.drop_length]
    exact .inl rfl
  | error f =>
    rw [hresult] at hend'
    exact .inr ⟨f, rfl, hend'⟩

end

/-! ## A database that fails now and then -/

/-- A database that is nothing but its ledger; which of the next statements fail is laid down. -/
structure Faulty where
  ledger : Ledger
  faults : List Bool

namespace Faulty

/-- The ledger after a statement that does not fail. -/
def changed (l : Ledger) : Statement → Ledger
  | .define text => l.add (.define text)
  | .recordVersion version => l.add (.recordVersion version)
  | _ => l

/-- The answer of a statement that does not fail. -/
def answer (l : Ledger) : Statement → Json
  | .selectVersions => .array ((recordedVersions l.visible).map versionRow)
  | _ => .null

def lost : Failure := .connection "connection was closed in the middle of operation"

def engine : Engine Faulty where
  answer d s :=
    if d.faults.headD false then (.error lost, ⟨d.ledger, d.faults.tail⟩)
    else (.ok (answer d.ledger s), ⟨changed d.ledger s, d.faults.tail⟩)
  control d c := ⟨(d.ledger.controlled? c).getD d.ledger, d.faults⟩

theorem keepsLedger : engine.KeepsLedger ledger where
  answers := by
    intro d s hs
    cases hfault : d.faults.headD false with
    | true =>
      simp only [engine, hfault, if_true]
      exact .failed s lost rfl
    | false =>
      simp only [engine, hfault, Bool.false_eq_true, if_false]
      cases s with
      | createVersions => exact .created .null
      | selectVersions => exact .listed fun _ => Iff.rfl
      | define text => exact .changed (s := .define text) trivial .null
      | recordVersion version => exact .changed (s := .recordVersion version) trivial .null
      | _ => exact hs.elim
  controls := by
    intro d c l h
    simp only [engine, h, Option.getD_some]

/-- The sixth statement from now, the index of the second migration, fails. -/
def unlucky : Faulty := ⟨⟨[], none⟩, [false, false, false, false, false, true]⟩

end Faulty

theorem migrations_applied_once_unlucky :
    (all.map version).Nodup ∧
      (let first := (upgrade all).run Faulty.engine (.new Faulty.unlucky)
      first.1 = .error Faulty.lost ∧ recordedVersions first.2.database.ledger.committed =
        ["0001_features"] ∧
      (let second := (upgrade all).run Faulty.engine (.new first.2.database)
      second.1 = .ok ["0002_feature_states"] ∧
        second.2.database.ledger = ⟨all.flatMap script, none⟩ ∧
        AsksNoChange ((upgrade all).events Faulty.engine (.new second.2.database)))) := by
  have hversions : (all.map version).Nodup := by decide
  have hbase : recordedVersions [] = [] := rfl
  have hfirst : Leaves Faulty.engine Faulty.ledger all Faulty.unlucky
      ((upgrade all).run Faulty.engine (.new Faulty.unlucky)).2.database :=
    leaves_run (w := .new Faulty.unlucky) Faulty.keepsLedger hversions hbase (Nat.zero_le _) rfl
  obtain ⟨-, -, -, hdone⟩ :=
    migrations_applied_once Faulty.keepsLedger hversions hbase rfl
      (w := .new ((upgrade all).run Faulty.engine (.new Faulty.unlucky)).2.database)
      (.single hfirst)
  obtain ⟨hview, -, hlater⟩ := hdone ["0002_feature_states"] rfl
  exact ⟨hversions, rfl, rfl, rfl, hview, (hlater (.new _) .refl).1⟩

end Migration

end FeatureFlags.Database
