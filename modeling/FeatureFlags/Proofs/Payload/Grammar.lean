import FeatureFlags.Proofs.Payload
import FeatureFlags.Proofs.Validation.Grammar

/-!
# The grammar of feature-state payloads

Which data are a draft or a patch of a feature state, and what is said about data that are not
(`FeatureState.Draft.form` and `FeatureState.Patch.form`). `payloads_follow_form` says that the
readers keep to it.

The kinds of value come first: texts, of which the white ends do not count, the names of context
types, and truth values, for which numbers and words may stand as well.
-/

namespace FeatureFlags

/-! ## Texts -/

/-- Null, or a string that has no more than so many characters once its white ends are off. -/
inductive TextMeans (most : Option Nat) : Json → Option String → Prop
  | null : TextMeans most .null none
  | string {raw : String} : (∀ n, most = some n → (Text.trim Text.isWhite raw).length ≤ n) →
      TextMeans most (.string raw) (some (Text.trim Text.isWhite raw))

/-- What is wrong with a value that is neither, and with a string that is too long. -/
inductive TextFlawed (most : Option Nat) : Json → Flaw → Prop
  | notString {v : Json} : v ≠ .null → (∀ raw, v ≠ .string raw) → TextFlawed most v .notString
  | tooLong {raw : String} {n : Nat} : most = some n → n < (Text.trim Text.isWhite raw).length →
      TextFlawed most (.string raw) (.tooLong n)

/-- There is no text, or one without white ends. -/
def IsTrimmed (text : Option String) : Prop := ∀ s, text = some s → Text.trim Text.isWhite s = s

/-- Texts that may be null, of at most so many characters. -/
def Kind.text (most : Option Nat) : Kind (Option String) := ⟨TextMeans most, TextFlawed most⟩

theorem Kind.text_isClear (most : Option Nat) : (Kind.text most).IsClear where
  meaning h h' := by
    cases h <;> cases h' <;> rfl
  flaw h h' := by
    cases h with
    | notString hnull hstring =>
      cases h' with
      | notString => rfl
      | tooLong => exact absurd rfl (hstring _)
    | tooLong hn =>
      cases h' with
      | notString hnull hstring => exact absurd rfl (hstring _)
      | tooLong hn' =>
        cases hn.symm.trans hn'
        rfl
  disjoint h h' := by
    cases h with
    | null =>
      cases h' with
      | notString hnull => exact hnull rfl
    | string hshort =>
      cases h' with
      | notString hnull hstring => exact hstring _ rfl
      | tooLong hn hlong => exact Nat.not_le_of_lt hlong (hshort _ hn)

theorem Kind.text_isReadBy (most : Option Nat) :
    (Kind.text most).IsReadBy (Checked.nullable (Checked.text { most })) := by
  refine (Kind.text_isClear most).isReadBy fun v => ?_
  cases v with
  | null => exact .inl ⟨none, rfl, .null⟩
  | string raw =>
    cases most with
    | none => exact .inl ⟨_, rfl, .string nofun⟩
    | some n =>
      by_cases hlong : n < (Text.trim Text.isWhite raw).length
      · refine .inr ⟨.tooLong n, ?_, .tooLong rfl hlong⟩
        simp [Checked.nullable, Checked.text, Checked.string, Checked.andThen, Checked.map,
          Checked.Bounds.flaw?, hlong, Checked.flawed]
      · refine .inl ⟨some (Text.trim Text.isWhite raw), ?_, .string ?_⟩
        · simp [Checked.nullable, Checked.text, Checked.string, Checked.andThen, Checked.map,
            Checked.Bounds.flaw?, hlong]
        · rintro _ ⟨⟩
          exact Nat.le_of_not_lt hlong
  | bool | int | real | unpaired | array | object =>
    exact .inr ⟨.notString, rfl, .notString (by simp) (by simp)⟩

/-! ## Context types -/

/-- The names of context types. -/
def Kind.contextType : Kind ContextType where
  Means v type := v = .string type.name
  Flawed v flaw :=
    (∀ type : ContextType, v ≠ .string type.name) ∧ flaw = .notMember ContextType.names

theorem ContextType.ofName?_eq_some_iff {s : String} {type : ContextType} :
    ofName? s = some type ↔ s = type.name := by
  constructor
  · intro h
    unfold ofName? at h
    split at h <;> cases h <;> rfl
  · rintro rfl
    exact ofName?_name type

theorem Kind.contextType_isClear : Kind.contextType.IsClear where
  meaning {_ a b} h h' := by
    have hname : a.name = b.name := Json.string.inj (h.symm.trans h')
    have ha := ContextType.ofName?_name a
    rw [hname, ContextType.ofName?_name] at ha
    exact (Option.some.inj ha).symm
  flaw h h' := h.2.trans h'.2.symm
  disjoint h h' := h'.1 _ h

theorem Kind.contextType_isReadBy : Kind.contextType.IsReadBy FeatureState.contextTypeOf := by
  refine Kind.contextType_isClear.isReadBy fun v => ?_
  cases v with
  | string s =>
    simp only [Kind.Grounds, FeatureState.contextTypeOf, Checked.choice]
    cases htype : ContextType.ofName? s with
    | some type => exact .inl ⟨type, rfl, congrArg _ (ContextType.ofName?_eq_some_iff.1 htype)⟩
    | none =>
      refine .inr ⟨_, rfl, fun type hs => ?_, rfl⟩
      cases hs
      cases htype.symm.trans (ContextType.ofName?_name type)
  | null | bool | int | real | unpaired | array | object =>
    exact .inr ⟨.notMember ContextType.names, rfl, nofun, rfl⟩

/-! ## Truth values -/

/-- What stands for a truth value: itself, a number that is equal to zero or one, or a word in any
case. -/
inductive Json.StandsFor : Json → Bool → Prop
  | bool (b : Bool) : StandsFor (.bool b) b
  | int {i : Int} {b : Bool} : i = b.toInt → StandsFor (.int i) b
  | real {x : Binary64} {b : Bool} : x.toInt? = some b.toInt → StandsFor (.real x) b
  | no {s : String} : Text.lowerAscii s ∈ Checked.falseWords → StandsFor (.string s) false
  | yes {s : String} : Text.lowerAscii s ∈ Checked.trueWords → StandsFor (.string s) true

/-- Strings and the whole numbers of 64 bits, of which the least does not count as a real number:
those that stand for no truth value are unclear, not foreign. -/
def Json.IsLikeTruth : Json → Prop
  | .string _ | .unpaired => True
  | .int i => -9223372036854775808 ≤ i ∧ i ≤ 9223372036854775807
  | .real x =>
    ∃ i, x.toInt? = some i ∧ -9223372036854775808 < i ∧ i ≤ 9223372036854775807
  | _ => False

/-- What is wrong with a value that stands for no truth value. -/
inductive TruthFlawed (v : Json) : Flaw → Prop
  | unclear : (∀ b, ¬ v.StandsFor b) → v.IsLikeTruth → TruthFlawed v .unclearBool
  | foreign : (∀ b, ¬ v.StandsFor b) → ¬ v.IsLikeTruth → TruthFlawed v .notBool

/-- Truth values and what stands for them. -/
def Kind.truth : Kind Bool := ⟨Json.StandsFor, TruthFlawed⟩

theorem eq_of_toInt_eq {b c : Bool} (h : b.toInt = c.toInt) : b = c := by
  revert h
  revert b c
  decide

/-- No word stands for both truth values. -/
theorem Checked.falseWords_disjoint : ∀ word ∈ falseWords, word ∉ trueWords := by
  decide

theorem Kind.truth_isClear : Kind.truth.IsClear where
  meaning h h' := by
    cases h with
    | bool b =>
      cases h'
      rfl
    | int hi =>
      cases h' with
      | int hi' => exact eq_of_toInt_eq (hi.symm.trans hi')
    | real hx =>
      cases h' with
      | real hx' => exact eq_of_toInt_eq (Option.some.inj (hx.symm.trans hx'))
    | no hs =>
      cases h' with
      | no => rfl
      | yes hs' => exact absurd hs' (Checked.falseWords_disjoint _ hs)
    | yes hs =>
      cases h' with
      | no hs' => exact absurd hs (Checked.falseWords_disjoint _ hs')
      | yes => rfl
  flaw h h' := by
    cases h with
    | unclear _ hlike =>
      cases h' with
      | unclear => rfl
      | foreign _ hunlike => exact absurd hlike hunlike
    | foreign _ hunlike =>
      cases h' with
      | unclear _ hlike => exact absurd hlike hunlike
      | foreign => rfl
  disjoint h h' := by
    cases h' with
    | unclear hnone => exact hnone _ h
    | foreign hnone => exact hnone _ h

theorem Checked.boolNumber?_eq_some_iff {i : Int} {b : Bool} :
    boolNumber? i = some b ↔ i = b.toInt := by
  unfold boolNumber?
  cases b <;> grind [Bool.toInt]

theorem Checked.isWord64_iff {i : Int} :
    isWord64 i = true ↔ -9223372036854775808 ≤ i ∧ i ≤ 9223372036854775807 := by
  rw [isWord64, Bool.and_eq_true, decide_eq_true_eq, decide_eq_true_eq]

theorem Checked.wholeReal?_eq_some_iff {x : Binary64} {i : Int} :
    wholeReal? x = some i ↔
      x.toInt? = some i ∧ -9223372036854775808 < i ∧ i ≤ 9223372036854775807 := by
  rw [wholeReal?, Option.filter_eq_some_iff, Bool.and_eq_true, isWord64_iff, bne_iff_ne]
  constructor
  · rintro ⟨hx, ⟨hleast, hmost⟩, hne⟩
    exact ⟨hx, by omega, hmost⟩
  · rintro ⟨hx, hleast, hmost⟩
    exact ⟨hx, ⟨by omega, hmost⟩, by omega⟩

theorem Kind.truth_grounds_int (i : Int) : Kind.truth.Grounds Checked.bool (.int i) := by
  simp only [Kind.Grounds, Checked.bool]
  cases hb : Checked.boolNumber? i with
  | some b =>
    have hi : i = b.toInt := Checked.boolNumber?_eq_some_iff.1 hb
    have hsmall : Checked.isWord64 i = true := by cases b <;> subst hi <;> rfl
    rw [hsmall]
    exact .inl ⟨b, rfl, .int hi⟩
  | none =>
    have hnone : ∀ b, ¬ (Json.int i).StandsFor b := by
      intro b h
      cases h with
      | int hi => cases hb.symm.trans (Checked.boolNumber?_eq_some_iff.2 hi)
    cases hsmall : Checked.isWord64 i with
    | true => exact .inr ⟨.unclearBool, rfl, .unclear hnone (Checked.isWord64_iff.1 hsmall)⟩
    | false =>
      refine .inr ⟨.notBool, rfl, .foreign hnone fun hlike => ?_⟩
      cases hsmall.symm.trans (Checked.isWord64_iff.2 hlike)

theorem Kind.truth_grounds_real (x : Binary64) : Kind.truth.Grounds Checked.bool (.real x) := by
  simp only [Kind.Grounds, Checked.bool]
  cases hwhole : Checked.wholeReal? x with
  | some i =>
    obtain ⟨hx, hleast, hmost⟩ := Checked.wholeReal?_eq_some_iff.1 hwhole
    cases hb : Checked.boolNumber? i with
    | some b =>
      have hi : i = b.toInt := Checked.boolNumber?_eq_some_iff.1 hb
      exact .inl ⟨b, by simp only [hb], .real (hi ▸ hx)⟩
    | none =>
      have hnone : ∀ b, ¬ (Json.real x).StandsFor b := by
        intro b h
        cases h with
        | real hx' =>
          have hi : i = b.toInt := Option.some.inj (hx.symm.trans hx')
          cases hb.symm.trans (Checked.boolNumber?_eq_some_iff.2 hi)
      exact .inr ⟨.unclearBool, by simp only [hb], .unclear hnone ⟨i, hx, hleast, hmost⟩⟩
  | none =>
    have hunlike : ¬ (Json.real x).IsLikeTruth := by
      rintro ⟨i, hlike⟩
      cases hwhole.symm.trans (Checked.wholeReal?_eq_some_iff.2 hlike)
    have hnone : ∀ b, ¬ (Json.real x).StandsFor b := by
      intro b h
      cases h with
      | real hx => exact hunlike ⟨_, hx, by cases b <;> decide⟩
    exact .inr ⟨.notBool, rfl, .foreign hnone hunlike⟩

theorem Kind.truth_grounds_string (s : String) : Kind.truth.Grounds Checked.bool (.string s) := by
  simp only [Kind.Grounds, Checked.bool, Checked.boolWord?]
  by_cases hno : Text.lowerAscii s ∈ Checked.falseWords
  · exact .inl ⟨false, by simp [hno], .no hno⟩
  · by_cases hyes : Text.lowerAscii s ∈ Checked.trueWords
    · exact .inl ⟨true, by simp [hno, hyes], .yes hyes⟩
    · have hnone : ∀ b, ¬ (Json.string s).StandsFor b := by
        intro b h
        cases h with
        | no h => exact hno h
        | yes h => exact hyes h
      exact .inr ⟨.unclearBool, by simp [hno, hyes], .unclear hnone trivial⟩

theorem Kind.truth_isReadBy : Kind.truth.IsReadBy Checked.bool := by
  refine Kind.truth_isClear.isReadBy fun v => ?_
  cases v with
  | bool b => exact .inl ⟨b, rfl, .bool b⟩
  | int i => exact Kind.truth_grounds_int i
  | real x => exact Kind.truth_grounds_real x
  | string s => exact Kind.truth_grounds_string s
  | unpaired => exact .inr ⟨.unclearBool, rfl, .unclear nofun trivial⟩
  | null | array | object => exact .inr ⟨.notBool, rfl, .foreign nofun id⟩

namespace FeatureState

/-! ## Fields -/

def featureIdSlot : Slot (Option String) := ⟨featureIdField, .text none, some none⟩
def featureKeySlot : Slot (Option String) := ⟨featureKeyField, .text none, some none⟩
def contextTypeSlot : Slot ContextType := ⟨contextTypeField, .contextType, none⟩
def contextIdSlot : Slot (Option String) := ⟨contextIdField, .text (some 255), some none⟩
def stateSlot : Slot Bool := ⟨stateField, .truth, none⟩

/-- What the object holds of a draft. -/
structure Draft.HeldBy (d : Draft) (o : List (String × Json)) : Prop where
  featureId : featureIdSlot.Holds o d.featureId
  featureKey : featureKeySlot.Holds o d.featureKey
  contextType : contextTypeSlot.Holds o d.contextType
  contextId : contextIdSlot.Holds o d.contextId
  state : stateSlot.Holds o d.state

/-- What the object holds of a patch. -/
structure Patch.HeldBy (p : Patch) (o : List (String × Json)) : Prop where
  featureId : featureIdSlot.Holds o p.featureId
  contextType : contextTypeSlot.Holds o p.contextType
  contextId : contextIdSlot.Holds o p.contextId
  state : stateSlot.Holds o p.state

/-! ## What is asked of the fields together -/

/-- The context is one that is told apart by an identifier, and no identifier or an empty one is
there. -/
def LacksContextId (type : ContextType) (id : Option String) : Prop :=
  type ≠ .global ∧ (id = none ∨ id = some "")

/-- The identifier of the context, which is left out for everyone. -/
def settledContextId (type : ContextType) (id : Option String) : Option String :=
  if type = .global then none else id

/-- The draft names a feature, by an identifier or a key that is not empty. -/
def Draft.NamesOwner (d : Draft) : Prop :=
  (∃ id, d.featureId = some id ∧ id ≠ "") ∨ ∃ key, d.featureKey = some key ∧ key ≠ ""

/-- Why a draft whose fields have no fault is refused. The owner is asked for first. -/
inductive Draft.Objection (d : Draft) : String → Prop
  | noOwner : ¬ d.NamesOwner → Objection d "featureId or featureKey is required"
  | noContextId : d.NamesOwner → LacksContextId d.contextType d.contextId →
      Objection d ("contextId is required for " ++ d.contextType.name ++ " context")

/-- Why a patch whose fields have no fault is refused. -/
inductive Patch.Objection (p : Patch) : String → Prop
  | noContextId : LacksContextId p.contextType p.contextId →
      Objection p ("contextId is required for " ++ p.contextType.name ++ " context")

/-- The form of `FeatureStateCreate`, with the fields in the order in which their faults are
told. -/
def Draft.form : Form Draft where
  model := "FeatureStateCreate"
  Holds o d := d.HeldBy o
  faults o :=
    [featureIdSlot.Fault o, featureKeySlot.Fault o, contextTypeSlot.Fault o, contextIdSlot.Fault o,
      stateSlot.Fault o]
  Objection := Draft.Objection
  settle d := { d with contextId := settledContextId d.contextType d.contextId }

/-- The form of `FeatureStateUpdate`, with the fields in the order in which their faults are
told. -/
def Patch.form : Form Patch where
  model := "FeatureStateUpdate"
  Holds o p := p.HeldBy o
  faults o :=
    [featureIdSlot.Fault o, contextTypeSlot.Fault o, contextIdSlot.Fault o, stateSlot.Fault o]
  Objection := Patch.Objection
  settle p := { p with contextId := settledContextId p.contextType p.contextId }

/-! ## The readers -/

theorem normalize_cases (type : ContextType) (id : Option String) :
    (type.normalize id = .ok (settledContextId type id) ∧ ¬ LacksContextId type id) ∨
      type.normalize id = .error ⟨type⟩ ∧ LacksContextId type id := by
  cases type with
  | global => exact .inl ⟨rfl, fun h => h.1 rfl⟩
  | organization | workspace =>
    cases id with
    | none => exact .inr ⟨rfl, nofun, .inl rfl⟩
    | some s =>
      by_cases hs : s = ""
      · subst hs
        exact .inr ⟨rfl, nofun, .inr rfl⟩
      · refine .inl ⟨?_, fun h => ?_⟩
        · simp [ContextType.normalize, settledContextId, hs]
        · simpa [hs] using h.2

theorem Draft.namesOwner_iff (d : Draft) :
    d.NamesOwner ↔ ¬ ((given d.featureId).isNone && (given d.featureKey).isNone) = true := by
  have hgiven : ∀ o : Option String, (∃ s, o = some s ∧ s ≠ "") ↔ ¬ (given o).isNone = true := by
    intro o
    rw [Option.isNone_iff_eq_none, given_eq_none_iff]
    cases o <;> simp
  rw [NamesOwner, hgiven, hgiven, Bool.and_eq_true, not_and_or]

theorem Draft.shaped_cases (o : List (String × Json)) (d : Draft) :
    (shaped o d.normalize = .accepted (form.settle d) ∧ ∀ reason, ¬ d.Objection reason) ∨
      ∃ reason, shaped o d.normalize = .flawed (.refused reason) (.object o) ∧
        d.Objection reason := by
  unfold Draft.normalize
  split
  · rename_i hnone
    exact .inr ⟨_, rfl, .noOwner fun howner => d.namesOwner_iff.1 howner hnone⟩
  · rename_i hsome
    have howner := d.namesOwner_iff.2 hsome
    rcases normalize_cases d.contextType d.contextId with ⟨hid, hfine⟩ | ⟨hid, hlacks⟩
    · rw [hid]
      refine .inl ⟨rfl, fun reason h => ?_⟩
      cases h with
      | noOwner hnone => exact hnone howner
      | noContextId _ hlacks => exact hfine hlacks
    · rw [hid]
      exact .inr ⟨_, rfl, .noContextId howner hlacks⟩

theorem Patch.shaped_cases (o : List (String × Json)) (p : Patch) :
    (shaped o p.normalize = .accepted (form.settle p) ∧ ∀ reason, ¬ p.Objection reason) ∨
      ∃ reason, shaped o p.normalize = .flawed (.refused reason) (.object o) ∧
        p.Objection reason := by
  unfold Patch.normalize
  rcases normalize_cases p.contextType p.contextId with ⟨hid, hfine⟩ | ⟨hid, hlacks⟩
  · rw [hid]
    refine .inl ⟨rfl, fun reason h => ?_⟩
    cases h with
    | noContextId hlacks => exact hfine hlacks
  · rw [hid]
    exact .inr ⟨_, rfl, .noContextId hlacks⟩

theorem Draft.form_isReadBy : form.IsReadBy Draft.ofJson := by
  refine form.isReadBy (fun o => ?_) (fun h h' => ?_) Draft.shaped_cases
  · -- the reports of the fields are laid end to end as the reader goes through them
    have hfields := (featureIdSlot.agrees (Kind.text_isReadBy none) o).map Draft.mk
      |>.ap (featureKeySlot.agrees (Kind.text_isReadBy none) o)
      |>.ap (contextTypeSlot.agrees Kind.contextType_isReadBy o)
      |>.ap (contextIdSlot.agrees (Kind.text_isReadBy (some 255)) o)
      |>.ap (stateSlot.agrees Kind.truth_isReadBy o)
    refine hfields.of_iff fun d => ?_
    constructor
    · rintro ⟨_, _, ⟨_, _, ⟨_, _, ⟨_, _, ⟨_, hid, rfl⟩, hkey, rfl⟩, htype, rfl⟩, hcontext, rfl⟩,
        hstate, rfl⟩
      exact ⟨hid, hkey, htype, hcontext, hstate⟩
    · rintro ⟨hid, hkey, htype, hcontext, hstate⟩
      exact ⟨_, _, ⟨_, _, ⟨_, _, ⟨_, _, ⟨_, hid, rfl⟩, hkey, rfl⟩, htype, rfl⟩, hcontext, rfl⟩,
        hstate, rfl⟩
  · cases h with
    | noOwner hnone =>
      cases h' with
      | noOwner => rfl
      | noContextId howner => exact absurd howner hnone
    | noContextId howner =>
      cases h' with
      | noOwner hnone => exact absurd howner hnone
      | noContextId => rfl

theorem Patch.form_isReadBy : form.IsReadBy Patch.ofJson := by
  refine form.isReadBy (fun o => ?_) (fun h h' => ?_) Patch.shaped_cases
  · have hfields := (featureIdSlot.agrees (Kind.text_isReadBy none) o).map Patch.mk
      |>.ap (contextTypeSlot.agrees Kind.contextType_isReadBy o)
      |>.ap (contextIdSlot.agrees (Kind.text_isReadBy (some 255)) o)
      |>.ap (stateSlot.agrees Kind.truth_isReadBy o)
    refine hfields.of_iff fun p => ?_
    constructor
    · rintro ⟨_, _, ⟨_, _, ⟨_, _, ⟨_, hid, rfl⟩, htype, rfl⟩, hcontext, rfl⟩, hstate, rfl⟩
      exact ⟨hid, htype, hcontext, hstate⟩
    · rintro ⟨hid, htype, hcontext, hstate⟩
      exact ⟨_, _, ⟨_, _, ⟨_, _, ⟨_, hid, rfl⟩, htype, rfl⟩, hcontext, rfl⟩, hstate, rfl⟩
  · cases h
    cases h'
    rfl

/-! ## What is read -/

theorem isTrimmed_of_holds {f : Field} {most : Option Nat} {o : List (String × Json)}
    {text : Option String} (h : (Slot.mk f (.text most) (some none)).Holds o text) :
    IsTrimmed text := by
  rintro s rfl
  rcases h with ⟨-, hmeans⟩ | ⟨-, hdefault⟩
  · cases hmeans
    exact Text.trim_trim _ _
  · cases hdefault

/-- **Drafts and patches keep to their form.** Data are read as a draft or a patch when they have
its form, and what is read is trimmed, with the context identifier that fits its type; other data
are rejected for what the form has against them. -/
theorem payloads_follow_form (v : Json) :
    ((∀ d, Draft.ofJson v = .accepted d ↔ Draft.form.Accepts v d) ∧
        (∀ issues, Draft.ofJson v = .rejected issues ↔ Draft.form.Refuses v issues) ∧
        ∀ d, Draft.form.Accepts v d →
          IsTrimmed d.featureId ∧ IsTrimmed d.featureKey ∧ d.contextType.Fits d.contextId) ∧
      (∀ p, Patch.ofJson v = .accepted p ↔ Patch.form.Accepts v p) ∧
        (∀ issues, Patch.ofJson v = .rejected issues ↔ Patch.form.Refuses v issues) ∧
        ∀ p, Patch.form.Accepts v p → IsTrimmed p.featureId ∧ p.contextType.Fits p.contextId := by
  refine ⟨⟨Draft.form_isReadBy.accepted v, Draft.form_isReadBy.rejected v, fun d h => ?_⟩,
    Patch.form_isReadBy.accepted v, Patch.form_isReadBy.rejected v, fun p h => ?_⟩
  · have hfits := Draft.fits_of_ofJson ((Draft.form_isReadBy.accepted v d).2 h)
    cases h with
    | mk hholds _ =>
      exact ⟨isTrimmed_of_holds hholds.featureId, isTrimmed_of_holds hholds.featureKey, hfits⟩
  · have hfits := Patch.fits_of_ofJson ((Patch.form_isReadBy.accepted v p).2 h)
    cases h with
    | mk hholds _ => exact ⟨isTrimmed_of_holds hholds.featureId, hfits⟩

/-- Of two names of a field the first counts, and white ends do not. -/
theorem payloads_follow_form_bothNames :
    Draft.form.Accepts
        (.object
          [("featureId", .string " ftr_1\t"), ("feature_id", .int 1),
            ("contextType", .string "workspace"), ("context_id", .string " ws_1"),
            ("state", .string "Off")])
        ⟨some "ftr_1", none, .workspace, some "ws_1", false⟩ ∧
      IsTrimmed (some "ftr_1") ∧ IsTrimmed none ∧ ContextType.workspace.Fits (some "ws_1") := by
  obtain ⟨⟨haccepted, -, hread⟩, -⟩ := payloads_follow_form <| .object
    [("featureId", .string " ftr_1\t"), ("feature_id", .int 1),
      ("contextType", .string "workspace"), ("context_id", .string " ws_1"),
      ("state", .string "Off")]
  have haccepts := (haccepted ⟨some "ftr_1", none, .workspace, some "ws_1", false⟩).1 rfl
  exact ⟨haccepts, hread _ haccepts⟩

/-- While a field has a fault, nothing is said of the missing owner. -/
example :
    Draft.ofJson (.object [("context_type", .string "team"), ("state", .int 2)]) =
      .rejected
        [⟨.notMember ContextType.names, [.member "context_type"], .string "team"⟩,
          ⟨.unclearBool, [.member "state"], .int 2⟩] :=
  rfl

end FeatureState

end FeatureFlags
