import FeatureFlags.Proofs.Backend
import FeatureFlags.Proofs.Database.Listing

/-!
# The store in a database does what the store in memory does

Both stores are asked the same, each by its own names. `Simulates` relates the store in memory to
the tables of the database: their contents match, and the rules of the store hold. An operation
that is asked of both gets answers that are alike and keeps the relation (`Simulates.step`): what
the store looks for before it writes is what the database refuses.
-/

namespace FeatureFlags

open Database

/-! ## Answers -/

/-- Are two answers the same but for names and times? -/
def AnsweredAlike (φ : Renaming) : Except Failure Reply → Except Failure Reply → Prop
  | .ok r, .ok r' => r.Alike φ r'
  | .error f, .error f' => f' = f.renamed φ
  | _, _ => False

/-- The renaming after both stores have answered: a record that both have created has a name in
each. -/
def Renaming.learn (φ : Renaming) :
    Operation → Except Failure Reply → Except Failure Reply → Renaming
  | .createFeature _, .ok (.feature f), .ok (.feature f') => φ.learnFeature f.id f'.id
  | .createState _, .ok (.state st), .ok (.state st') =>
    φ.learnState (st.id.getD "") (st'.id.getD "")
  | _, _, _ => φ

theorem Renaming.learn_error_left (φ : Renaming) (op : Operation) (f : Failure)
    (r' : Except Failure Reply) : φ.learn op (.error f) r' = φ := by
  cases op <;> rfl

theorem Renaming.learn_error_right (φ : Renaming) (op : Operation) (r : Except Failure Reply)
    (f' : Failure) : φ.learn op r (.error f') = φ := by
  rcases r with _ | _ | _ | _ | _ | _ <;> cases op <;> rfl

/-- An operation that creates a record draws an identifier that no stored record has, on both
sides; `n` identifiers were drawn for the tables before. -/
def Operation.DrawsFresh (s : Store) (t : Tables) (n : Nat) : Operation → Prop
  | .createFeature _ =>
    s.features.get? (Identifier.next .feature s.issued) = none ∧
      t.features (Identifier.next .feature n) = none
  | .createState _ =>
    s.states.get? (Identifier.next .featureState s.issued) = none ∧
      t.states (Identifier.next .featureState n) = none
  | _ => True

instance (s : Store) (t : Tables) (n : Nat) (op : Operation) : Decidable (op.DrawsFresh s t n) :=
  match op with
  | .createFeature _ =>
    @instDecidableAnd _ _ (Option.decidableEqNone _) (Option.decidableEqNone _)
  | .createState _ =>
    @instDecidableAnd _ _ (Option.decidableEqNone _) (Option.decidableEqNone _)
  | .listFeatures | .listStates | .getFeature _ | .getFeatureByKey _ | .updateFeature ..
  | .deleteFeature _ | .updateState .. | .deleteState _ => .isTrue trivial

namespace Operation.DrawsFresh

variable {s : Store} {t : Tables} {n : Nat} {op : Operation}

theorem feature_unused (h : op.DrawsFresh s t n) (hop : op.method = .createFeature) :
    t.features (Identifier.next .feature n) = none := by
  cases op with
  | createFeature d => exact h.2
  | _ => cases hop

theorem state_unused (h : op.DrawsFresh s t n) (hop : op.method = .createState) :
    t.states (Identifier.next .featureState n) = none := by
  cases op with
  | createState d => exact h.2
  | _ => cases hop

end Operation.DrawsFresh

/-- The tables hold what the store holds, by the rules of a store and the types of the tables. -/
structure Simulates (φ : Renaming) (s : Store) (t : Tables) : Prop where
  contents : Matches φ s t
  sound : s.Sound
  typed : t.Typed
  blank : φ.features "" = ""

/-! ## Types of columns -/

namespace Database.Tables.Typed

variable {t : Tables}

theorem empty : Tables.empty.Typed := ⟨nofun, nofun, nofun⟩

theorem putFeature (h : t.Typed) {id : String} {row : FeatureRow} (hid : id.length ≤ columnWidth)
    (hkey : row.key.length ≤ columnWidth) (hname : row.name.length ≤ columnWidth) :
    (t.putFeature id row).Typed := by
  have cases_row : ∀ id' row', (t.putFeature id row).features id' = some row' →
      id' = id ∧ row' = row ∨ t.features id' = some row' := by
    intro id' row' hrow
    by_cases he : id' = id
    · subst he
      exact .inl ⟨rfl, by simpa [Tables.putFeature] using hrow.symm⟩
    · exact .inr (by simpa [Tables.putFeature, Function.update_of_ne he] using hrow)
  constructor
  · intro id' row' hrow
    rcases cases_row id' row' hrow with ⟨rfl, rfl⟩ | hrow
    · exact hid
    · exact h.id_length id' row' hrow
  · intro id' row' hrow
    rcases cases_row id' row' hrow with ⟨rfl, rfl⟩ | hrow
    · exact hkey
    · exact h.key_length id' row' hrow
  · intro id' row' hrow
    rcases cases_row id' row' hrow with ⟨rfl, rfl⟩ | hrow
    · exact hname
    · exact h.name_length id' row' hrow

theorem eraseFeature (h : t.Typed) (id : String) : (t.eraseFeature id).Typed := by
  have old : ∀ id' row, (t.eraseFeature id).features id' = some row →
      t.features id' = some row := by
    intro id' row hrow
    by_cases he : id' = id
    · subst he
      simp [Tables.eraseFeature] at hrow
    · simpa [Tables.eraseFeature, Function.update_of_ne he] using hrow
  exact ⟨fun id' row hrow => h.id_length id' row (old id' row hrow),
    fun id' row hrow => h.key_length id' row (old id' row hrow),
    fun id' row hrow => h.name_length id' row (old id' row hrow)⟩

end Database.Tables.Typed

/-- What an operation leaves has the types of the tables. -/
theorem Database.Performed.typed {t t' : Tables} {n : Nat} {op : Operation}
    {r : Except Failure Reply} (h : Performed t n op r t') (ht : t.Typed) (hop : op.Tidy) :
    t'.Typed := by
  cases h with
  | createFeature created updated hkey =>
    obtain ⟨hk, hn⟩ := hop
    exact ht.putFeature (by rw [Identifier.length_next]; decide) hk.length_le hn.length_le
  | @updateFeature id p row updated hrow _ _ =>
    obtain ⟨hk, hn⟩ := hop
    exact ht.putFeature (ht.id_length id row hrow)
      (length_getD_le hk (ht.key_length id row hrow))
      (length_getD_le hn (ht.name_length id row hrow))
  | deleteFeature => exact ht.eraseFeature _
  | createState => exact ⟨ht.id_length, ht.key_length, ht.name_length⟩
  | deleteState => exact ⟨ht.id_length, ht.key_length, ht.name_length⟩
  | _ => exact ht

/-! ## Steps on both sides -/

/-- Both have answered alike, and the relation goes on under the names that are known then. -/
def Steps (φ : Renaming) (s : Store) (op : Operation) (r' : Except Failure Reply) (t' : Tables) :
    Prop :=
  AnsweredAlike (φ.learn op (s.reply op) r') (s.reply op) r' ∧
    Simulates (φ.learn op (s.reply op) r') (s.after op) t'

namespace Simulates

variable {φ : Renaming} {s : Store} {t t' : Tables} {n : Nat} {op : Operation}

/-- Both refuse, for one reason. -/
theorem refused (h : Simulates φ s t) {e : ServiceError} (hrun : s.run op = .error e) :
    Steps φ s op (.error (.service (e.renamed φ))) t := by
  have hreply : s.reply op = .error (.service e) := by simp [Store.reply, hrun]
  have hafter : s.after op = s := by simp [Store.after, hrun]
  rw [Steps, hreply, hafter, Renaming.learn_error_left]
  exact ⟨rfl, h⟩

/-- Both have done it. -/
theorem done (h : Simulates φ s t) (hop : op.Tidy) {s' : Store} {r r' : Reply} {φ' : Renaming}
    (hrun : s.run op = .ok (r, s')) (hlearn : φ.learn op (.ok r) (.ok r') = φ')
    (halike : r.Alike φ' r') (hcontents : Matches φ' s' t') (htyped : t'.Typed)
    (hblank : φ'.features "" = "") : Steps φ s op (.ok r') t' := by
  have hreply : s.reply op = .ok r := by simp [Store.reply, hrun]
  have hafter : s.after op = s' := by simp [Store.after, hrun]
  have hsound := h.sound.after hop
  rw [hafter] at hsound
  rw [Steps, hreply, hafter, hlearn]
  exact ⟨halike, hcontents, hsound, htyped, hblank⟩

/-! ### Reading -/

theorem step_read (h : Simulates φ s t) (hop : op.Tidy) {r r' : Reply}
    (hrun : s.run op = .ok (r, s)) (hlearn : φ.learn op (.ok r) (.ok r') = φ)
    (halike : r.Alike φ r') : Steps φ s op (.ok r') t :=
  h.done hop hrun hlearn halike h.contents h.typed h.blank

theorem step_getFeature (h : Simulates φ s t) (id : String) :
    Steps φ s (.getFeature id) (.ok (.ofFeature? (t.feature? (φ.features id)))) t := by
  have hop : (Operation.getFeature id).Tidy := trivial
  refine h.step_read hop rfl rfl ?_
  have he := h.contents.feature?_eq id
  show (Reply.ofFeature? (s.features.get? id)).Alike φ _
  cases hf : s.features.get? id with
  | none =>
    rw [hf, Option.map_none, Option.map_eq_none_iff] at he
    rw [he]
    trivial
  | some f =>
    rw [hf] at he
    obtain ⟨f', hf', he⟩ := Option.map_eq_some_iff.1 he
    rw [hf']
    exact he

theorem step_getFeatureByKey (h : Simulates φ s t) {id' key : String} {row : FeatureRow}
    (hrow : t.features id' = some row) (hkey : row.key = key) :
    Steps φ s (.getFeatureByKey key) (.ok (.feature (row.record id'))) t := by
  obtain ⟨id, rfl⟩ := φ.features.surjective id'
  obtain ⟨f, hf, he⟩ := h.contents.feature hrow
  have hfound : s.featureByKey? key = some f :=
    h.sound.featureByKey?_eq_some_iff.2 ⟨id, hf, (congrArg Feature.key he).symm.trans hkey⟩
  have hop : (Operation.getFeatureByKey key).Tidy := trivial
  refine h.step_read (r := .feature f) hop ?_ rfl he
  simp [Store.run, hfound, Reply.ofFeature?]

theorem step_getNoFeatureByKey (h : Simulates φ s t) {key : String}
    (hnone : ∀ id row, t.features id = some row → row.key ≠ key) :
    Steps φ s (.getFeatureByKey key) (.ok .noFeature) t := by
  have hfound : s.featureByKey? key = none := by
    refine Store.featureByKey?_eq_none_iff.2 fun id f hf hkey => ?_
    obtain ⟨row, hrow, he⟩ := h.contents.row hf
    exact hnone _ row hrow ((congrArg Feature.key he).trans hkey)
  have hop : (Operation.getFeatureByKey key).Tidy := trivial
  refine h.step_read (r := .noFeature) hop ?_ rfl trivial
  simp [Store.run, hfound, Reply.ofFeature?]

/-! ### Writes to features -/

/-- A key is free for a new feature when no stored feature has it. -/
theorem featureByKey?_isSome_iff (h : Simulates φ s t) {id' key : String}
    (hid' : t.features id' = none) :
    (s.featureByKey? key).isSome ↔ t.KeyTaken id' key := by
  rw [h.contents.keyTaken_iff, Option.isSome_iff_exists]
  simp only [h.sound.featureByKey?_eq_some_iff]
  constructor
  · rintro ⟨f, id, hf, hkey⟩
    obtain ⟨row, hrow, -⟩ := h.contents.row hf
    have hne : φ.features id ≠ id' := by
      rintro rfl
      rw [hid'] at hrow
      cases hrow
    exact ⟨id, f, hne, hf, hkey⟩
  · rintro ⟨id, f, -, hf, hkey⟩
    exact ⟨f, id, hf, hkey⟩

theorem step_createFeature (h : Simulates φ s t) {d : Feature.Draft}
    (hop : (Operation.createFeature d).Tidy)
    (hfresh : (Operation.createFeature d).DrawsFresh s t n) {r' : Except Failure Reply}
    (hp : Performed t n (.createFeature d) r' t') : Steps φ s (.createFeature d) r' t' := by
  obtain ⟨hm, hd⟩ := hfresh
  have htyped := hp.typed h.typed hop
  cases hp with
  | createFeatureTaken hkey =>
    refine h.refused (e := .keyConflict d.key) ?_
    simp [Store.run, Store.createFeature, (h.featureByKey?_isSome_iff hd).2 hkey, Store.answer,
      Except.map]
  | createFeature created updated hkey =>
    have hfree : s.featureByKey? d.key = none := by
      rw [← Option.not_isSome_iff_eq_none, h.featureByKey?_isSome_iff hd]
      exact hkey
    obtain ⟨s', hok⟩ := Store.createFeature_of_free hfree
    obtain ⟨-, -, hf, hs⟩ := Store.createFeature_eq_ok hok
    have hrun : s.run (.createFeature d) = .ok (.feature (s.newFeature d), s') := by
      simp [Store.run, hok, Store.answer, Except.map]
    have hname : (φ.learnFeature (s.newFeature d).id (Identifier.next .feature n)).features
        (s.newFeature d).id = Identifier.next .feature n := by
      rw [Matches.learnFeature_apply]
    have halike : ((draftRow d created updated).record (Identifier.next .feature n)).timeless =
        ((s.newFeature d).renamed
          (φ.learnFeature (s.newFeature d).id (Identifier.next .feature n))).timeless :=
      Feature.timeless_eq hname.symm rfl rfl rfl
    exact h.done hop hrun rfl halike (h.contents.createFeature h.sound hm hd hf hs halike) htyped
      (Matches.learnFeature_blank h.blank (Identifier.next_ne_empty _ _)
        (Identifier.next_ne_empty _ _))

/-- Another feature has the key when the table says so. -/
theorem keyTaken_iff (h : Simulates φ s t) {id key : String} :
    t.KeyTaken (φ.features id) key ↔
      ∃ other f, other ≠ id ∧ s.features.get? other = some f ∧ f.key = key := by
  simp only [h.contents.keyTaken_iff, ne_eq, φ.features.injective.eq_iff]

/-- A feature may have a key that neither a state nor another feature holds. -/
theorem key_free (h : Simulates φ s t) {id key : String} {f : Feature}
    (hf : s.features.get? id = some f) (hfree : key = f.key ∨ ¬ t.Referenced (φ.features id))
    (hkey : ¬ t.KeyTaken (φ.features id) key) (hnew : key ≠ f.key) :
    s.isReferenced id = false ∧ s.featureByKey? key = none := by
  rw [← Bool.not_eq_true, ← h.contents.referenced_iff]
  refine ⟨hfree.resolve_left hnew, Store.featureByKey?_eq_none_iff.2 fun other f' hf' hk => ?_⟩
  refine hkey (h.keyTaken_iff.2 ⟨other, f', ?_, hf', hk⟩)
  rintro rfl
  rw [hf] at hf'
  cases hf'
  exact hnew hk.symm

/-- A key that another feature holds is a new one, and the store finds its holder. -/
theorem key_taken (h : Simulates φ s t) {id key : String} {f : Feature}
    (hf : s.features.get? id = some f) (hkey : t.KeyTaken (φ.features id) key) :
    key ≠ f.key ∧ ∃ holder, s.featureByKey? key = some holder := by
  obtain ⟨other, f', hne, hf', hkey'⟩ := h.keyTaken_iff.1 hkey
  refine ⟨fun hsame => hne ?_, f', h.sound.featureByKey?_eq_some_iff.2 ⟨other, hf', hkey'⟩⟩
  exact h.sound.key_distinct other id f' f hf' hf (hkey'.trans hsame)

theorem step_updateFeature (h : Simulates φ s t) {id : String} {p : Feature.Patch}
    (hop : (Operation.updateFeature id p).Tidy) {r' : Except Failure Reply}
    (hp : Performed t n (.updateFeature (φ.features id) p) r' t') :
    Steps φ s (.updateFeature id p) r' t' := by
  have htyped := hp.typed h.typed hop
  cases hp with
  | updateNoFeature hrow =>
    have hf : s.features.get? id = none := by simpa [hrow] using h.contents.feature_isSome id
    refine h.refused (e := .noFeature) ?_
    simp [Store.run, Store.updateFeature, Store.feature?, hf, Store.answer, Except.map]
  | @updateFeatureLocked _ _ row hrow hnew href =>
    obtain ⟨f, hf, he⟩ := h.contents.feature hrow
    have hrowKey : row.key = f.key := congrArg Feature.key he
    rw [hrowKey] at hnew ⊢
    refine h.refused (e := .keyLocked f.key) ?_
    simp [Store.run, Store.updateFeature, Store.feature?, hf, Store.newKey?_of_ne hnew,
      Store.keyError?, h.contents.referenced_iff.1 href, Store.answer, Except.map]
  | @updateFeatureTaken _ _ row hrow hfree hkey =>
    obtain ⟨f, hf, he⟩ := h.contents.feature hrow
    have hrowKey : row.key = f.key := congrArg Feature.key he
    rw [hrowKey] at hfree hkey ⊢
    obtain ⟨hnew, holder, hholder⟩ := h.key_taken hf hkey
    have href : s.isReferenced id = false := by
      rw [← Bool.not_eq_true, ← h.contents.referenced_iff]
      exact hfree.resolve_left hnew
    refine h.refused (e := .keyConflict (p.key.getD f.key)) ?_
    simp [Store.run, Store.updateFeature, Store.feature?, hf, Store.newKey?_of_ne hnew,
      Store.keyError?, href, hholder, Store.answer, Except.map]
  | @updateFeature _ _ row updated hrow hfree hkey =>
    obtain ⟨f, hf, he⟩ := h.contents.feature hrow
    have hrowKey : row.key = f.key := congrArg Feature.key he
    have hrowName : row.name = f.name := congrArg Feature.name he
    have hrowDescription : row.description = f.description := congrArg Feature.description he
    rw [hrowKey] at hfree hkey
    obtain ⟨s', hok⟩ := Store.updateFeature_of_free hf (h.key_free hf hfree hkey)
    obtain ⟨-, -, -, -, hfeatures, hstates⟩ := Store.updateFeature_eq_ok hok
    have hrun : s.run (.updateFeature id p) = .ok (.feature (Store.patched f p s.now), s') := by
      simp [Store.run, hok, Store.answer, Except.map]
    have halike : ((patchedRow p row updated).record (φ.features id)).timeless =
        ((Store.patched f p s.now).renamed φ).timeless := by
      refine Feature.timeless_eq (congrArg Feature.id he :) ?_ ?_ ?_
      · exact congrArg p.key.getD hrowKey
      · exact congrArg p.name.getD hrowName
      · exact congrArg p.description.getD hrowDescription
    exact h.done hop hrun rfl halike (h.contents.putFeature hfeatures hstates halike) htyped h.blank

theorem step_deleteFeature (h : Simulates φ s t) {id : String} {r' : Except Failure Reply}
    (hp : Performed t n (.deleteFeature (φ.features id)) r' t') :
    Steps φ s (.deleteFeature id) r' t' := by
  have hop : (Operation.deleteFeature id).Tidy := trivial
  have htyped := hp.typed h.typed trivial
  cases hp with
  | deleteNoFeature hrow =>
    have hf : s.features.get? id = none := by simpa [hrow] using h.contents.feature_isSome id
    refine h.refused (e := .noFeature) ?_
    simp [Store.run, Store.deleteFeature, Store.feature?, hf, Store.answer, Except.map]
  | deleteFeatureReferenced hrow href =>
    obtain ⟨row, hrow⟩ := Option.ne_none_iff_exists'.1 hrow
    obtain ⟨f, hf, -⟩ := h.contents.feature hrow
    refine h.refused (e := .featureInUse id) ?_
    simp [Store.run, Store.deleteFeature, Store.feature?, hf, h.contents.referenced_iff.1 href,
      Store.answer, Except.map]
  | deleteFeature hrow href =>
    obtain ⟨f, hf, he⟩ := h.contents.feature hrow
    rw [h.contents.referenced_iff, Bool.not_eq_true] at href
    obtain ⟨s', hok⟩ := Store.deleteFeature_of_free hf href
    obtain ⟨-, -, hfeatures, hstates⟩ := Store.deleteFeature_eq_ok hok
    have hrun : s.run (.deleteFeature id) = .ok (.feature f, s') := by
      simp [Store.run, hok, Store.answer, Except.map]
    exact h.done hop hrun rfl he (h.contents.eraseFeature hfeatures hstates) htyped h.blank

/-! ### Writes to states -/

/-- A context is free for a new state when no stored state of the owner has it. -/
theorem hasState_iff (h : Simulates φ s t) {id' owner : String} {type : ContextType}
    {contextId : Option String} (hfits : type.Fits contextId) (hid' : t.states id' = none) :
    s.hasState none owner type contextId = true ↔
      t.ContextTaken id' (φ.features owner) type contextId := by
  rw [Store.hasState_iff, h.contents.contextTaken_iff h.sound.coherent hfits.ne_blank]
  constructor
  · rintro ⟨sid, st, hst, -, hrest⟩
    obtain ⟨row, hrow, -⟩ := h.contents.stateRow hst
    have hne : φ.states sid ≠ id' := by
      rintro rfl
      rw [hid'] at hrow
      cases hrow
    exact ⟨sid, st, hne, hst, hrest⟩
  · rintro ⟨sid, st, -, hst, hrest⟩
    exact ⟨sid, st, hst, nofun, hrest⟩

theorem step_createState (h : Simulates φ s t) {d : FeatureState.Draft}
    (hop : (Operation.createState d).Tidy)
    (hfresh : (Operation.createState d).DrawsFresh s t n) {r' : Except Failure Reply}
    (hp : Performed t n ((Operation.createState d).renamed φ) r' t') :
    Steps φ s (.createState d) r' t' := by
  obtain ⟨hm, hd⟩ := hfresh
  have htyped := hp.typed h.typed hop
  have hfits : d.contextType.Fits d.contextId := hop
  cases hp with
  | createStateOfNone hnone =>
    have howner : s.ownerOf? d = none := by
      by_contra hne
      obtain ⟨f, hf⟩ := Option.ne_none_iff_exists'.1 hne
      obtain ⟨row, hnames⟩ := (h.contents.names_iff h.sound h.blank).2 ⟨f, hf, rfl⟩
      exact hnone _ row hnames
    refine h.refused (e := .noFeature) ?_
    simp [Store.run, Store.createState, howner, Store.answer, Except.map]
  | @createStateTaken _ id' row hnames htaken =>
    obtain ⟨owner, rfl⟩ := φ.features.surjective id'
    obtain ⟨f, howner, rfl⟩ := (h.contents.names_iff h.sound h.blank).1 ⟨row, hnames⟩
    refine h.refused (e := .duplicate) ?_
    simp [Store.run, Store.createState, howner, (h.hasState_iff hfits hd).2 htaken, Store.answer,
      Except.map]
  | @createState _ id' row created updated hnames hfree =>
    obtain ⟨owner, rfl⟩ := φ.features.surjective id'
    obtain ⟨f, howner, rfl⟩ := (h.contents.names_iff h.sound h.blank).1 ⟨row, hnames⟩
    have hfree' : s.hasState none f.id d.contextType d.contextId = false := by
      rw [← Bool.not_eq_true, h.hasState_iff hfits hd]
      exact hfree
    obtain ⟨s', hok⟩ := Store.createState_of_free howner hfree'
    obtain ⟨f', howner', -, -, hfeatures, hstates⟩ := Store.createState_eq_ok hok
    obtain rfl := Option.some.inj (howner.symm.trans howner')
    have hrun : s.run (.createState d) = .ok (.state (s.joined (s.newState f d)), s') := by
      simp [Store.run, hok, Store.answer, Except.map]
    have hstored := Store.ownerOf?_stored h.sound.feature_id howner
    have hkey : some row.key = (s.features.get? f.id).map Feature.key := by
      obtain ⟨row', hrow', he⟩ := h.contents.row hstored
      obtain rfl := Option.some.inj (hnames.1.symm.trans hrow')
      rw [hstored]
      exact congrArg some (congrArg Feature.key he)
    have hname : some (Identifier.next .featureState n) = (s.newState f d).id.map
        (φ.learnState (Identifier.next .featureState s.issued)
          (Identifier.next .featureState n)).states :=
      congrArg some (Matches.learnState_apply φ _ _).symm
    refine h.done hop hrun rfl (FeatureState.timeless_eq hname rfl hkey rfl rfl rfl) ?_ htyped
      h.blank
    exact h.contents.createState h.sound hm hd hstates hfeatures
      (FeatureState.timeless_eq hname rfl rfl rfl rfl rfl)

theorem step_deleteState (h : Simulates φ s t) {id : String} {r' : Except Failure Reply}
    (hp : Performed t n (.deleteState (φ.states id)) r' t') :
    Steps φ s (.deleteState id) r' t' := by
  have hop : (Operation.deleteState id).Tidy := trivial
  have htyped := hp.typed h.typed trivial
  have hjoined := h.contents.state?_eq h.sound id
  cases hp with
  | deleteNoState hrow =>
    have hst : s.states.get? id = none := by
      rw [Tables.state?, hrow] at hjoined
      simpa using hjoined.symm
    refine h.refused (e := .noState) ?_
    simp [Store.run, Store.deleteState, hst, Store.answer, Except.map]
  | @deleteState _ key row hrow =>
    rw [Tables.state?, hrow] at hjoined
    obtain ⟨st, hst, he⟩ := Option.map_eq_some_iff.1 hjoined.symm
    obtain ⟨s', hok⟩ := Store.deleteState_of_stored hst
    obtain ⟨_, -, -, hfeatures, hstates⟩ := Store.deleteState_eq_ok hok
    have hrun : s.run (.deleteState id) = .ok (.state (s.joined st), s') := by
      simp [Store.run, hok, Store.answer, Except.map]
    exact h.done hop hrun rfl he.symm (h.contents.eraseState hstates hfeatures) htyped h.blank

/-! ### All operations -/

/-- **What one side does, the other does.** -/
theorem step (h : Simulates φ s t) (hop : op.Tidy) (hfresh : op.DrawsFresh s t n)
    {r' : Except Failure Reply} (hp : Performed t n (op.renamed φ) r' t') : Steps φ s op r' t' := by
  cases op with
  | listFeatures =>
    cases hp with
    | listFeatures hids hkeys =>
      exact h.step_read hop rfl rfl (h.contents.listFeatures_eq h.sound hids hkeys)
  | listStates =>
    cases hp with
    | listStates hids => exact h.step_read hop rfl rfl (h.contents.listStates_perm h.sound hids)
  | getFeature id =>
    cases hp with
    | getFeature => exact h.step_getFeature id
  | getFeatureByKey key =>
    cases hp with
    | featureOfKey hrow hkey => exact h.step_getFeatureByKey hrow hkey
    | noFeatureOfKey hnone => exact h.step_getNoFeatureByKey hnone
  | createFeature d => exact h.step_createFeature hop hfresh hp
  | updateFeature id p => exact h.step_updateFeature hop hp
  | deleteFeature id => exact h.step_deleteFeature hp
  | createState d => exact h.step_createState hop hfresh hp
  | updateState id p => cases hp
  | deleteState id => exact h.step_deleteState hp

end Simulates

end FeatureFlags
