import FeatureFlags.Proofs.Database.SideBySide

/-!
# Updates of a state on both sides

A patch of a state may give the state a new owner. The store in memory keeps the owner when the
patch gives none or the empty text; the database is sent what the patch gives, and keeps the owner
only when that is null. `Updated` says what an update answers and how it changes the tables.

Both sides answer an update alike, unless the empty text meets a stored state: then the database
looks for an owner with the empty name, and finds none (`Sides.updateState_alike`).
-/

namespace FeatureFlags

open Database

/-! ## The update of the tables -/

namespace Database

/-- The owner of a state after a patch, as the database chooses it: null keeps the old one. -/
def ownerAfter (p : FeatureState.Patch) (row : StateRow) : String :=
  p.featureId.getD row.featureId

/-- The row of a state after a patch. -/
def patchedStateRow (p : FeatureState.Patch) (row : StateRow) (updated : Stamp) : StateRow :=
  row.changed p.featureId p.contextType p.contextId p.state updated

/-- What an update of a state answers and which tables it leaves. -/
inductive Updated (t : Tables) (id : String) (p : FeatureState.Patch) :
    Except Failure FeatureState → Tables → Prop
  | done {row : StateRow} {owner : FeatureRow} (updated : Stamp) (h : t.states id = some row)
      (howner : t.features (ownerAfter p row) = some owner)
      (hfree : ¬ t.ContextTaken id (ownerAfter p row) p.contextType p.contextId) :
      Updated t id p (.ok ((patchedStateRow p row updated).record id (some owner.key)))
        (t.putState id (patchedStateRow p row updated))
  | taken {row : StateRow} (h : t.states id = some row)
      (htaken : t.ContextTaken id (ownerAfter p row) p.contextType p.contextId) :
      Updated t id p (.error (.service .duplicate)) t
  | orphan {row : StateRow} (h : t.states id = some row)
      (howner : t.features (ownerAfter p row) = none) :
      Updated t id p (.error (.service .noFeature)) t
  | noState (h : t.states id = none) : Updated t id p (.error (.service .noState)) t

/-- **The program of an update performs it**, if the database executes the statement that is sent. -/
theorem updateState_ensures {σ : Type} {engine : Engine σ} {view : σ → View}
    (sql : engine.FollowsSql view) {t : Tables} {n : Nat} {id : String} {p : FeatureState.Patch}
    (hsent : engine.Executes view
      (.updateState id p.featureId p.contextType p.contextId p.state)) :
    (updateState id p).Ensures engine view ⟨t, .idle, n⟩ fun r x =>
      x.stage = .idle ∧ Updated t id p r x.tables := by
  refine .bind (.mapFailure (.executed hsent trivial fun r t' hr => ?_))
  cases hr with
  | updateState updated h hfree howner =>
    obtain ⟨owner, howner⟩ := Option.ne_none_iff_exists'.1 howner
    refine readState_ensures sql ?_ ⟨rfl, .done updated h howner hfree⟩
    simp [Tables.joined?, Tables.putState, patchedStateRow, StateRow.changed, howner]
  | updateStateTaken message h htaken => exact ⟨rfl, .taken h htaken⟩
  | updateStateOrphan message h hfree howner => exact ⟨rfl, .orphan h howner⟩
  | updateNoState h => exact .fail ⟨rfl, .noState h⟩

end Database

/-! ## The update of a store -/

namespace Store

variable {s s' : Store} {id : String} {p : FeatureState.Patch}

theorem reply_updateState_of_ok {st : FeatureState} (h : s.updateState id p = .ok (st, s')) :
    s.reply (.updateState id p) = .ok (.state st) ∧ s.after (.updateState id p) = s' := by
  have hrun : s.run (.updateState id p) = .ok (.state st, s') := by
    simp [run, h, answer, Except.map]
  simp [reply, after, hrun]

theorem reply_updateState_of_error {e : ServiceError} (h : s.updateState id p = .error e) :
    s.reply (.updateState id p) = .error (.service e) ∧ s.after (.updateState id p) = s := by
  have hrun : s.run (.updateState id p) = .error e := by simp [run, h, answer, Except.map]
  simp [reply, after, hrun]

end Store

/-! ## The same update -/

/-- The patch by the names of the other store. -/
def FeatureState.Patch.renamed (φ : Renaming) (p : FeatureState.Patch) : FeatureState.Patch :=
  { p with featureId := p.featureId.map φ.features }

namespace Matches

variable {φ : Renaming} {s : Store} {t t' : Tables} {id : String} {p : FeatureState.Patch}

/-- A stored state has its row, and the two have the same owner, which is stored. -/
theorem owned (h : Matches φ s t) (hs : s.Coherent) (hst : s.states.get? id ≠ none) :
    ∃ st row owner, s.states.get? id = some st ∧ t.states (φ.states id) = some row ∧
      st.featureId = some owner ∧ row.featureId = φ.features owner ∧ (s.feature? owner).isSome ∧
      (row.record (φ.states id) none).timeless = (st.renamed φ).timeless := by
  obtain ⟨st, hst⟩ := Option.ne_none_iff_exists'.1 hst
  obtain ⟨row, hrow, he⟩ := h.stateRow hst
  obtain ⟨owner, f, howner, hf⟩ := hs.owner_stored id st hst
  have hid : some row.featureId = st.featureId.map φ.features := congrArg FeatureState.featureId he
  rw [howner] at hid
  exact ⟨st, row, owner, hst, hrow, howner, Option.some.inj hid, Option.isSome_of_eq_some hf, he⟩

/-- Another state of the owner has the context when the table says so. -/
theorem otherState_iff (h : Matches φ s t) (hs : s.Coherent) (hgiven : p.contextId ≠ some "")
    {owner : String} :
    t.ContextTaken (φ.states id) (φ.features owner) p.contextType p.contextId ↔
      s.hasState (some id) owner p.contextType p.contextId = true := by
  rw [h.contextTaken_iff hs hgiven, Store.hasState_iff]
  simp only [ne_eq, φ.states.injective.eq_iff, Option.some.injEq, and_left_comm]

/-- A context can be taken only under an owner that is stored. -/
theorem feature_of_taken (h : Matches φ s t) (hs : s.Coherent) (hgiven : p.contextId ≠ some "")
    {owner : String}
    (htaken : t.ContextTaken (φ.states id) (φ.features owner) p.contextType p.contextId) :
    (s.feature? owner).isSome := by
  obtain ⟨sid, st, -, hst, howner, -⟩ := (h.contextTaken_iff hs hgiven).1 htaken
  obtain ⟨owner', f, howner', hf⟩ := hs.owner_stored sid st hst
  obtain rfl := Option.some.inj (howner.symm.trans howner')
  exact Option.isSome_of_eq_some hf

/-- Both refuse an update, for one reason. -/
theorem updateState_refused (h : Matches φ s t) {e : ServiceError}
    (he : s.updateState id p = .error e) (hname : e.renamed φ = e) :
    AnsweredAlike φ (s.reply (.updateState id p)) (.error (.service e)) ∧
      Matches φ (s.after (.updateState id p)) t := by
  obtain ⟨hreply, hafter⟩ := Store.reply_updateState_of_error he
  rw [hreply, hafter]
  exact ⟨congrArg Failure.service hname.symm, h⟩

/-- Both update a state whose new owner is this one. -/
theorem updateState_done (h : Matches φ s t) {owner : String} {st : FeatureState} {row : StateRow}
    {ownerRow : FeatureRow} (updated : Stamp)
    (he : (row.record (φ.states id) none).timeless = (st.renamed φ).timeless)
    (howner : ownerAfter (p.renamed φ) row = φ.features owner)
    (hrow : t.features (φ.features owner) = some ownerRow)
    (hok : s.updateState id p = .ok (s.joined (Store.moved st p owner s.now),
      { s with
        states := s.states.put id (Store.moved st p owner s.now)
        readings := s.readings + 1 })) :
    let row' := patchedStateRow (p.renamed φ) row updated
    AnsweredAlike φ (s.reply (.updateState id p))
        (.ok (.state (row'.record (φ.states id) (some ownerRow.key)))) ∧
      Matches φ (s.after (.updateState id p)) (t.putState (φ.states id) row') := by
  obtain ⟨hreply, hafter⟩ := Store.reply_updateState_of_ok hok
  have hid : some (φ.states id) = st.id.map φ.states := congrArg FeatureState.id he
  have hunjoined : none = st.featureKey := congrArg FeatureState.featureKey he
  have hkey : some ownerRow.key = (s.features.get? owner).map Feature.key := by
    obtain ⟨f, hf, hef⟩ := h.feature hrow
    rw [hf]
    exact congrArg some (congrArg Feature.key hef)
  rw [hreply, hafter]
  refine ⟨FeatureState.timeless_eq hid (congrArg some howner) hkey rfl rfl rfl, ?_⟩
  exact h.putState rfl rfl
    (FeatureState.timeless_eq hid (congrArg some howner) hunjoined rfl rfl rfl)

/-- **An update that gives no empty owner does the same on both sides.** -/
theorem updateState (h : Matches φ s t) (hs : s.Coherent) (hgiven : p.contextId ≠ some "")
    (hblank : p.featureId = some "" → s.states.get? id = none)
    {r' : Except Failure FeatureState} (hp : Updated t (φ.states id) (p.renamed φ) r' t') :
    AnsweredAlike φ (s.reply (.updateState id p)) (r'.map .state) ∧
      Matches φ (s.after (.updateState id p)) t' := by
  by_cases hst : s.states.get? id = none
  · have hrow : t.states (φ.states id) = none := by simpa [hst] using h.state_isSome id
    have hnone : s.updateState id p = .error .noState := by simp [Store.updateState, hst]
    cases hp with
    | noState _ => exact h.updateState_refused hnone rfl
    | done _ hrow' | taken hrow' | orphan hrow' => cases hrow.symm.trans hrow'
  obtain ⟨st, row, old, hst', hrow, hold, hrowOwner, -, he⟩ := h.owned hs hst
  -- the owner that both choose
  have hnew : Store.newOwner? st p = some (p.featureId.getD old) := by
    have hnonempty : ∀ owner, p.featureId = some owner → owner ≠ "" :=
      fun owner howner hempty => hst (hblank (hempty ▸ howner))
    rw [Store.newOwner?, given_eq_self hnonempty, hold]
    cases p.featureId <;> rfl
  have hchosen : ownerAfter (p.renamed φ) row = φ.features (p.featureId.getD old) := by
    unfold ownerAfter FeatureState.Patch.renamed
    rw [hrowOwner]
    cases p.featureId <;> rfl
  have hupdate := Store.updateState_of_stored hst' hnew
  generalize p.featureId.getD old = owner at hchosen hupdate
  cases hp with
  | noState hnone => cases hrow.symm.trans hnone
  | taken hrow' htaken =>
    obtain rfl := Option.some.inj (hrow.symm.trans hrow')
    rw [hchosen] at htaken
    refine h.updateState_refused ?_ rfl
    rw [hupdate, if_pos (h.feature_of_taken hs hgiven htaken),
      if_pos ((h.otherState_iff hs hgiven).1 htaken)]
  | orphan hrow' howner =>
    obtain rfl := Option.some.inj (hrow.symm.trans hrow')
    rw [hchosen] at howner
    have hf : ¬ (s.feature? owner).isSome := by
      rw [Store.feature?, ← h.feature_isSome, howner]
      exact Bool.false_ne_true
    refine h.updateState_refused ?_ rfl
    rw [hupdate, if_neg hf]
  | done updated hrow' howner hfree =>
    obtain rfl := Option.some.inj (hrow.symm.trans hrow')
    rw [hchosen] at howner hfree
    have hfree' := mt (h.otherState_iff hs hgiven).2 hfree
    have hf : (s.feature? owner).isSome := by
      rw [Store.feature?, ← h.feature_isSome, howner]
      rfl
    refine h.updateState_done updated he hchosen howner ?_
    rw [hupdate, if_pos hf, if_neg hfree']

/-- **The empty owner.** When a patch gives the empty text as the owner of a stored state, the
database finds no such feature, and the store in memory does not look for one. -/
theorem updateState_blank (h : Matches φ s t) (hs : s.Coherent) (hgiven : p.contextId ≠ some "")
    (hblank : p.featureId = some "") (hst : s.states.get? id ≠ none)
    (hnone : s.features.get? "" = none) {r' : Except Failure FeatureState}
    (hp : Updated t (φ.states id) (p.renamed φ) r' t') :
    ¬ AnsweredAlike φ (s.reply (.updateState id p)) (r'.map .state) := by
  obtain ⟨st, row, old, hst', hrow, hold, -, hstored, -⟩ := h.owned hs hst
  have hunfound : r' = .error (.service .noFeature) := by
    have hchosen : ∀ row, ownerAfter (p.renamed φ) row = φ.features "" := fun _ => by
      rw [ownerAfter, FeatureState.Patch.renamed, hblank]
      rfl
    cases hp with
    | noState hnone => cases hrow.symm.trans hnone
    | taken _ htaken =>
      rw [hchosen] at htaken
      have hf := h.feature_of_taken hs hgiven htaken
      rw [Store.feature?, hnone] at hf
      cases hf
    | orphan _ _ => rfl
    | done _ _ howner _ =>
      have hf := h.feature_isSome ""
      rw [← hchosen, howner, hnone] at hf
      cases hf
  -- in memory the empty text is no owner, and the state keeps the one it has
  have hnew : Store.newOwner? st p = some old := by
    rw [Store.newOwner?, hblank, hold]
    rfl
  have hupdate := Store.updateState_of_stored hst' hnew
  rw [if_pos hstored] at hupdate
  rw [hunfound]
  cases hhas : s.hasState (some id) old p.contextType p.contextId with
  | true =>
    rw [hhas, if_pos rfl] at hupdate
    rw [(Store.reply_updateState_of_error hupdate).1]
    intro he
    cases he
  | false =>
    rw [hhas, if_neg Bool.false_ne_true] at hupdate
    rw [(Store.reply_updateState_of_ok hupdate).1]
    exact not_false

end Matches

/-! ## Both sides -/

namespace Sides

variable {σ : Type} {engine : Engine σ} {view : σ → View} {b : Sides σ} {id : String}
  {p : FeatureState.Patch}

/-- The backend with a database updates a state in its tables. -/
theorem inDatabase_updateState (sql : engine.FollowsSql view)
    (hidle : (b.database.seen view).stage = .idle)
    (hsent : engine.Executes view (.updateState (b.names.states id)
      (p.featureId.map b.names.features) p.contextType p.contextId p.state)) :
    ∃ (r' : Except Failure FeatureState) (w' : Served (Session σ)),
      b.inDatabase engine (.operation (.updateState id p)) =
        ((r'.map Reply.state).map .reply, w') ∧
      Updated (b.tables view) (b.names.states id) (p.renamed b.names) r'
        (w'.seen view).tables := by
  let w : Session σ := { b.database.contents with entries := [] }
  have hseen : w.seen view = ⟨b.tables view, .idle, w.issued⟩ := by
    rw [← hidle]
    rfl
  have hprogram : (program ((Operation.updateState id p).renamed b.names)).Ensures engine view
      ⟨b.tables view, .idle, w.issued⟩ fun r x =>
        ∃ r', r = r'.map Reply.state ∧
          Updated (b.tables view) (b.names.states id) (p.renamed b.names) r' x.tables :=
    .map ((updateState_ensures (p := p.renamed b.names) sql hsent).mono
      fun r x h => ⟨r, rfl, h.2⟩)
  obtain ⟨r', hr, hupdated⟩ := hprogram _ hseen
  let after := ((program ((Operation.updateState id p).renamed b.names)).run engine w).2
  refine ⟨r', ⟨after, b.database.entries ++ after.entries⟩, ?_, hupdated⟩
  show (Response.reply <$> (Backend.database engine).run _).run.run b.database = _
  rw [Service.run_map, ← hr]
  rfl

/-- **Updates of states on both sides.** Unless a patch gives the empty text as the owner of a stored
state, both backends answer it alike and have the same contents afterwards. If it does, and there is
no feature of that name, they do not answer alike. -/
theorem updateState_alike (sql : engine.FollowsSql view)
    (hidle : (b.database.seen view).stage = .idle) (hsame : b.SameContents view)
    (hs : b.memory.contents.Coherent) (hp : (Operation.updateState id p).Validated)
    (hsent : engine.Executes view (.updateState (b.names.states id)
      (p.featureId.map b.names.features) p.contextType p.contextId p.state)) :
    ((p.featureId = some "" → b.memory.contents.states.get? id = none) →
      b.AnswersAlike engine (.operation (.updateState id p)) ∧
        (b.after engine (.operation (.updateState id p))).SameContents view) ∧
    (p.featureId = some "" → b.memory.contents.states.get? id ≠ none →
      b.memory.contents.features.get? "" = none →
        ¬ b.AnswersAlike engine (.operation (.updateState id p))) := by
  obtain ⟨r', w', hdatabase, hupdated⟩ := inDatabase_updateState sql hidle hsent
  have hgiven : p.contextId ≠ some "" := ContextType.Fits.ne_blank hp.tidy
  have hlearnt : b.learnt engine (.operation (.updateState id p)) = b.names := by
    rw [learnt_operation hdatabase]
    rfl
  unfold AnswersAlike SameContents after
  rw [hlearnt, inMemory_operation, hdatabase]
  constructor
  · intro hblank
    obtain ⟨halike, hcontents⟩ := hsame.updateState hs hgiven hblank hupdated
    exact ⟨Response.alike_reply_iff.2 halike, hcontents⟩
  · intro hblank hst hnone halike
    exact hsame.updateState_blank hs hgiven hblank hst hnone hupdated
      (Response.alike_reply_iff.1 halike)

/-- A feature that is on for one organization, on both sides. -/
def switched : Sides Reference :=
  ((new Reference.empty).after (Reference.engine newYear)
    (.operation (.createFeature ⟨"checkout", "Checkout", none⟩))).after (Reference.engine newYear)
    (.operation (.createState ⟨none, some "checkout", .organization, some "org-1", true⟩))

theorem switched_inStep : switched.InStep Reference.view := by
  have hfeature : (Operation.createFeature ⟨"checkout", "Checkout", none⟩).Validated :=
    ⟨.object [("key", .string "checkout"), ("name", .string "Checkout")], rfl⟩
  have hstate : (Operation.createState
      ⟨none, some "checkout", .organization, some "org-1", true⟩).Validated :=
    ⟨.object [("featureKey", .string "checkout"), ("contextType", .string "organization"),
      ("contextId", .string "org-1"), ("state", .bool true)], rfl⟩
  have sql := Reference.followsSql newYear
  have hnew : (new Reference.empty).InStep Reference.view := .new rfl
  have hfeatured := (hnew.operation sql hfeature nofun (by decide +kernel)).2
  exact (hfeatured.operation sql hstate nofun (by decide +kernel)).2

/-- Switches the feature off for the organization, with this owner. -/
def switchOff (owner : Option String) : Operation :=
  .updateState (Identifier.next .featureState 1) ⟨owner, .organization, some "org-1", false⟩

theorem updateState_alike_switchOff :
    let engine := Reference.engine newYear
    engine.FollowsSql Reference.view ∧ (switched.database.seen Reference.view).stage = .idle ∧
      switched.SameContents Reference.view ∧ switched.memory.contents.Coherent ∧
      (switchOff none).Validated ∧
      engine.Executes Reference.view
        (.updateState (switched.names.states (Identifier.next .featureState 1)) none .organization
          (some "org-1") false) ∧
      switched.AnswersAlike engine (.operation (switchOff none)) ∧
      (switched.after engine (.operation (switchOff none))).SameContents Reference.view := by
  intro engine
  have sql := Reference.followsSql newYear
  have hstep := switched_inStep
  have hsent := Reference.executes_updateState newYear
    (switched.names.states (Identifier.next .featureState 1)) none .organization (some "org-1")
    false
  have hvalidated : (switchOff none).Validated :=
    ⟨.object [("contextType", .string "organization"), ("contextId", .string "org-1"),
      ("state", .bool false)], rfl⟩
  have halike := (updateState_alike sql hstep.idle hstep.simulates.contents
    hstep.simulates.sound.coherent hvalidated hsent).1 nofun
  exact ⟨sql, hstep.idle, hstep.simulates.contents, hstep.simulates.sound.coherent, hvalidated,
    hsent, halike⟩

/-- A patch that gives a blank owner is accepted, and the two backends do not answer it alike. -/
theorem not_updateState_alike :
    ¬ ∀ (b : Sides Reference) (id : String) (p : FeatureState.Patch),
      (b.database.seen Reference.view).stage = .idle → b.SameContents Reference.view →
      b.memory.contents.Coherent → (Operation.updateState id p).Validated →
      b.AnswersAlike (Reference.engine newYear) (.operation (.updateState id p)) := by
  intro hall
  have hvalidated : (switchOff (some "")).Validated :=
    ⟨.object [("featureId", .string "  "), ("contextType", .string "organization"),
      ("contextId", .string "org-1"), ("state", .bool false)], rfl⟩
  have hstep := switched_inStep
  have halike : switched.AnswersAlike (Reference.engine newYear)
      (.operation (switchOff (some ""))) :=
    hall switched _ _ hstep.idle hstep.simulates.contents hstep.simulates.sound.coherent hvalidated
  obtain ⟨r, hmemory⟩ : ∃ r,
      (switched.inMemory (.operation (switchOff (some "")))).1 = .ok (.reply r) :=
    ⟨_, rfl⟩
  obtain ⟨f, hdatabase⟩ : ∃ f, (switched.inDatabase (Reference.engine newYear)
      (.operation (switchOff (some "")))).1 = .error f := ⟨_, rfl⟩
  rw [AnswersAlike, hmemory, hdatabase] at halike
  exact halike

end Sides

end FeatureFlags
