import FeatureFlags.Proofs.Targeting.RuleOrder
import FeatureFlags.Proofs.Text
import FeatureFlags.Targeting.Evaluation

/-!
# What a compiled flag gives a request

`decisive?` says which state decides for a request, without groups, tables or sorted rules: the
last state of the flag for the workspace of the request, else the last for its organization, else
the last global one. `evaluate?_compile` is the adequacy of the compiler: the first rule that
matches gives the variant of that state, and without such a state the flag is off.

What makes it go through: at most one context of each type covers a request (`covers`), and the
rules stand in the order of the types.
-/

namespace FeatureFlags.Targeting

/-! ## The state that decides -/

/-- A request that is known by the names and values of its attributes. -/
def Request.ofNames (values : String → Option String) : Request := fun a => values a.name

/-- Does the state belong to the flag? A feature identifier, when there is one, names the owner, the
last feature that has it; otherwise the feature key has to be the flag's. -/
def ownedBy (features : List Feature) (key : String) (s : FeatureState) : Bool :=
  match given s.featureId with
  | some id => (lastWith (fun f => f.id == id) features).any fun f => f.key == key
  | none => given s.featureKey == some key

/-- Is there more to the context identifier than blanks? -/
def hasContextId (s : FeatureState) : Bool :=
  s.contextId.any fun id => Text.trim Text.isBlank id != ""

/-- The last state of the flag for the context with this type and identifier. -/
def lastScoped (features : List Feature) (states : List FeatureState) (key : String)
    (type : ContextType) (id : Option String) : Option FeatureState :=
  lastWith
    (fun s => ownedBy features key s && s.contextType == type && hasContextId s && s.contextId == id)
    states

/-- The last state of the flag for everyone. -/
def lastGlobal (features : List Feature) (states : List FeatureState) (key : String) :
    Option FeatureState :=
  lastWith (fun s => ownedBy features key s && s.contextType == .global) states

/-- The state that decides what the flag gives a request. -/
def decisive? (features : List Feature) (states : List FeatureState) (key : String)
    (values : String → Option String) : Option FeatureState :=
  (lastScoped features states key .workspace (values "workspaceId")).or <|
    (lastScoped features states key .organization (values "organizationId")).or <|
      lastGlobal features states key

/-! ## Rules that match -/

/-- Does a rule for the context match the request? -/
def covers (r : Request) (c : Context) : Bool :=
  match Context.attribute? c.type with
  | none => true
  | some a => r a == some c.id

theorem applies_ofContext (r : Request) (c : Context) (b : Bool) :
    (Rule.ofContext c b).applies r = covers r c := by
  obtain ⟨type, id⟩ := c
  cases type <;> rfl

theorem firstMatch_rulesOfOverrides (o : Overrides) (r : Request) :
    firstMatch (rulesOfOverrides o) r =
      ((sorted o).find? fun e => covers r e.1).map fun e => Variant.ofState e.2 := by
  unfold firstMatch
  rw [rulesOfOverrides_eq, List.find?_map, Option.map_map]
  simp only [Function.comp_def, applies_ofContext]
  rfl

/-- In a sorted list the first element that passes a test is the least one. -/
theorem find?_of_least {α : Type} {le : α → α → Prop} {p : α → Bool} {e : α} :
    ∀ {l : List α}, l.Pairwise le → e ∈ l → p e = true →
      (∀ x ∈ l, p x = true → le x e → x = e) → l.find? p = some e
  | [], _, he, _, _ => by cases he
  | x :: l, hs, he, hp, hleast => by
    obtain ⟨hx, hl⟩ := List.pairwise_cons.1 hs
    by_cases hpx : p x = true
    · rw [List.find?_cons_of_pos hpx]
      rcases List.mem_cons.1 he with rfl | he
      · rfl
      · rw [hleast x (by simp) hpx (hx e he)]
    · rw [List.find?_cons_of_neg hpx]
      rcases List.mem_cons.1 he with rfl | he
      · exact absurd hp hpx
      · exact find?_of_least hl he hp fun y hy => hleast y (by simp [hy])

theorem find?_sorted {o : Overrides} {r : Request} {c : Context} {b : Bool}
    (hb : o.get? c = some b) (hc : covers r c = true)
    (hleast : ∀ c', (o.get? c').isSome → covers r c' = true → Context.le c' c = true → c' = c) :
    (sorted o).find? (fun e => covers r e.1) = some (c, b) := by
  refine find?_of_least (pairwise_sorted o) (mem_sorted.2 hb) hc ?_
  rintro ⟨c', b'⟩ hm hc' hle
  have hb' := mem_sorted.1 hm
  obtain rfl := hleast c' (by simp [hb']) hc' hle
  rw [hb] at hb'
  cases hb'
  rfl

/-- The value that a request gets in its context of a type, told by an attribute. -/
def scopedValue (o : Overrides) (type : ContextType) (id : Option String) : Option Bool :=
  id.bind fun id => o.get? ⟨type, id⟩

theorem ne_of_scopedValue_eq_none {o : Overrides} {type : ContextType} {id? : Option String}
    (h : scopedValue o type id? = none) {id : String} (hs : (o.get? ⟨type, id⟩).isSome) :
    id? ≠ some id := by
  intro hid
  have := Option.bind_eq_none_iff.1 h id hid
  simp [this] at hs

/-- The rule that matches first is the one for the most special context of the request. -/
theorem firstMatch_eq {o : Overrides} (hg : ∀ id, (o.get? ⟨.global, id⟩).isSome → id = "")
    (r : Request) :
    firstMatch (rulesOfOverrides o) r =
      ((scopedValue o .workspace (r .workspaceId)).or <|
        (scopedValue o .organization (r .organizationId)).or <|
          o.get? ⟨.global, ""⟩).map Variant.ofState := by
  rw [firstMatch_rulesOfOverrides]
  cases hw : scopedValue o .workspace (r .workspaceId) with
  | some b =>
    obtain ⟨id, hid, hb⟩ := Option.bind_eq_some_iff.1 hw
    rw [find?_sorted hb (by simp [covers, Context.attribute?, hid])]
    · rfl
    · rintro ⟨type, id'⟩ _ hc hle
      cases type <;> simp [covers, Context.attribute?, Context.le_iff, Context.rank, hid] at hc hle
      rw [hc]
  | none =>
    cases ho : scopedValue o .organization (r .organizationId) with
    | some b =>
      obtain ⟨id, hid, hb⟩ := Option.bind_eq_some_iff.1 ho
      rw [find?_sorted hb (by simp [covers, Context.attribute?, hid])]
      · rfl
      · rintro ⟨type, id'⟩ hs hc hle
        cases type <;> simp [covers, Context.attribute?, Context.le_iff, Context.rank, hid] at hc hle
        · rw [hc]
        · exact absurd hc (ne_of_scopedValue_eq_none hw hs)
    | none =>
      have onlyGlobal : ∀ c, (o.get? c).isSome → covers r c = true → c = ⟨.global, ""⟩ := by
        rintro ⟨type, id⟩ hs hc
        cases type <;> simp [covers, Context.attribute?] at hc
        · rw [hg id hs]
        · exact absurd hc (ne_of_scopedValue_eq_none ho hs)
        · exact absurd hc (ne_of_scopedValue_eq_none hw hs)
      cases hglobal : o.get? ⟨.global, ""⟩ with
      | some b =>
        rw [find?_sorted hglobal rfl fun c' hs hc _ => onlyGlobal c' hs hc]
        rfl
      | none =>
        have hnone : (sorted o).find? (fun e => covers r e.1) = none := by
          rw [List.find?_eq_none]
          rintro ⟨c, b⟩ hm hc
          have hb := mem_sorted.1 hm
          rw [onlyGlobal c (by simp [hb]) hc, hglobal] at hb
          cases hb
        rw [hnone]
        rfl

theorem evaluate_flagWith (o : Overrides) (r : Request) :
    (flagWith o).evaluate r = (firstMatch (rulesOfOverrides o) r).getD .off := by
  unfold flagWith
  by_cases h : o.entries.isEmpty = true
  · have hnil : o.entries = [] := List.isEmpty_iff.1 h
    simp [hnil, rulesOfOverrides, firstMatch, Flag.evaluate, Flag.plain]
  · simp [h, Flag.evaluate, Flag.plain]

/-! ## Overrides and their states -/

theorem ofState?_eq_some_iff {s : FeatureState} {c : Context} :
    Context.ofState? s = some c ↔
      s.contextType = .global ∧ c = ⟨.global, ""⟩ ∨
        s.contextType ≠ .global ∧ c.type = s.contextType ∧ s.contextId = some c.id ∧
          Text.isBlankText c.id = false := by
  obtain ⟨type, id⟩ := c
  unfold Context.ofState?
  cases htype : s.contextType with
  | global => simp only [Option.some.injEq, true_and, ne_eq, not_true, false_and, or_false, eq_comm]
  | organization | workspace =>
    cases hid : s.contextId with
    | none => simp
    | some id' =>
      by_cases hb : Text.isBlankText id' = true
      · simp [hb]; grind
      · simp [hb]; grind

theorem key_of_featureByKey? {features : List Feature} {key : String} {f : Feature}
    (h : featureByKey? features key = some f) : f.key = key := by
  unfold featureByKey? at h
  simpa using List.find?_some h

theorem owner?_key_iff {features : List Feature} {key : String}
    (hk : key ∈ features.map Feature.key) (s : FeatureState) :
    (∃ f, owner? features s = some f ∧ f.key = key) ↔ ownedBy features key s = true := by
  unfold owner? ownedBy
  cases given s.featureId with
  | some id =>
    simp only [featureById?, lastWith_eq_find?_reverse, Option.any_eq_true, beq_iff_eq]
  | none =>
    simp only [beq_iff_eq, Option.bind_eq_some_iff]
    constructor
    · rintro ⟨f, ⟨key', hgiven, hf⟩, rfl⟩
      rw [hgiven, key_of_featureByKey? hf]
    · intro hgiven
      have hsome : ∃ f, featureByKey? features key = some f := by
        rw [featureByKey?, ← Option.isSome_iff_exists, List.find?_isSome]
        simpa using hk
      obtain ⟨f, hf⟩ := hsome
      exact ⟨f, ⟨key, hgiven, hf⟩, key_of_featureByKey? hf⟩

section
variable {features : List Feature} {key : String} (hk : key ∈ features.map Feature.key)
  (states : List FeatureState)

include hk

theorem override?_scoped {type : ContextType} (ht : type ≠ .global) (id : String) :
    override? features states key ⟨type, id⟩ =
      (lastScoped features states key type (some id)).map FeatureState.state := by
  unfold override? lastScoped
  rw [lastWith_congr fun s _ => ?_]
  rw [Bool.eq_iff_iff]
  simp only [beq_iff_eq, Bool.and_eq_true, target?_eq_some_iff, owner?_key_iff hk,
    ofState?_eq_some_iff, hasContextId]
  constructor
  · rintro ⟨hown, ⟨-, hc⟩ | ⟨-, hty, hid, hb⟩⟩
    · exact absurd (congrArg Context.type hc) ht
    · have hne : Text.trim Text.isBlank id ≠ "" := fun e => by
        rw [(Text.trim_isBlank_eq_empty_iff id).1 e] at hb; cases hb
      exact ⟨⟨⟨hown, hty.symm⟩, by simp [hid, hne]⟩, hid⟩
  · rintro ⟨⟨⟨hown, hty⟩, hne⟩, hid⟩
    have hb : Text.isBlankText id ≠ true := fun e => by
      simp [hid, (Text.trim_isBlank_eq_empty_iff id).2 e] at hne
    exact ⟨hown, .inr ⟨hty ▸ ht, hty.symm, hid, by simpa using hb⟩⟩

theorem override?_global :
    override? features states key ⟨.global, ""⟩ =
      (lastGlobal features states key).map FeatureState.state := by
  unfold override? lastGlobal
  rw [lastWith_congr fun s _ => ?_]
  rw [Bool.eq_iff_iff]
  simp only [beq_iff_eq, Bool.and_eq_true, target?_eq_some_iff, owner?_key_iff hk,
    ofState?_eq_some_iff]
  grind

theorem scopedValue_overridesOf {type : ContextType} (ht : type ≠ .global) (id : Option String) :
    scopedValue (overridesOf (groupStates features states) key) type id =
      (lastScoped features states key type id).map FeatureState.state := by
  cases id with
  | some id => rw [scopedValue, Option.bind_some, get?_groupStates, override?_scoped hk states ht]
  | none =>
    -- an identifier that is missing is no identifier of a state
    have hnone : lastScoped features states key type none = none := by
      rw [lastScoped, lastWith_eq_none_iff]
      intro s _
      cases hid : s.contextId <;> simp [hasContextId, hid]
    rw [hnone]
    rfl

end

/-! ## Adequacy -/

/-- **A compiled flag gives a request what the deciding state says.** Whatever features and states
are compiled, and whatever is known of the request: the flag is on when the state that decides is
on, and off when it is off or when no state decides. -/
theorem evaluate?_compile (features : List Feature) (states : List FeatureState) (key : String)
    (values : String → Option String) (hk : key ∈ features.map Feature.key) :
    (compile features states).evaluate? key (Request.ofNames values) =
      some (.ofState ((decisive? features states key values).any FeatureState.state)) := by
  have hglobal : ∀ id, ((overridesOf (groupStates features states) key).get? ⟨.global, id⟩).isSome →
      id = "" := by
    intro id hs
    rw [get?_groupStates] at hs
    obtain ⟨b, hb⟩ := Option.isSome_iff_exists.1 hs
    obtain ⟨s, -, ht, -⟩ := override?_eq_some hb
    rcases ofState?_eq_some_iff.1 (target?_eq_some_iff.1 ht).2 with ⟨-, hc⟩ | ⟨hne, hty, -⟩
    · exact congrArg Context.id hc
    · exact absurd hty.symm hne
  rw [Document.evaluate?, get?_compile, if_pos hk, Option.map_some, evaluate_flagWith,
    firstMatch_eq hglobal, scopedValue_overridesOf hk states (by decide),
    scopedValue_overridesOf hk states (by decide), get?_groupStates, override?_global hk]
  -- both sides are now one choice between the three states
  simp only [← Option.map_or]
  show some (Option.getD (Option.map _ (Option.map _ (decisive? features states key values))) _) = _
  cases decisive? features states key values <;> rfl

/-- A feature of a list in which two features have one identifier. -/
def sharedId (key : String) : Feature := ⟨"ftr_1", key, key, none, none, none⟩

/-- A state of the feature with the shared identifier. -/
def ofSharedId (type : ContextType) (id : String) (state : Bool) : FeatureState :=
  ⟨none, some "ftr_1", none, type, some id, state, none, none⟩

/-- The later feature owns the states, and of its two states for the workspace the later decides. -/
theorem evaluate?_compile_sharedId :
    "beta" ∈ [sharedId "alpha", sharedId "beta"].map Feature.key ∧
      (compile [sharedId "alpha", sharedId "beta"]
          [ofSharedId .workspace "w" false, ofSharedId .workspace "w" true,
            ofSharedId .global "" false]).evaluate? "beta"
        (Request.ofNames fun name => if name = "workspaceId" then some "w" else none) = some .on :=
  ⟨by decide, (evaluate?_compile _ _ "beta" _ (by decide)).trans (by decide)⟩

end FeatureFlags.Targeting
