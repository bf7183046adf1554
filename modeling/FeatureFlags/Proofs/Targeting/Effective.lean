import FeatureFlags.Proofs.Targeting.Adequacy

/-!
# The overrides that count

A document can be read back: the rules of a flag tell for which contexts they were made and with
what values (`Rule.source_ofContext`), so two lists of states that are compiled into one document
have the same overrides. With `compile_congr` this makes documents the same as overrides, and what
overrides are is said here without groups or tables: for every flag and every context, the value
of the last state that is for both (`SwitchAlike`).

The order of states for different flags or contexts, states that belong to no feature or have a
blank context identifier, and states that a later one for the same flag and context overrules, do
not count for anything (`compile_eq_iff_switchAlike`).
-/

namespace FeatureFlags

/-- A context that an override can be for: everyone, or an organization or a workspace with more to
its identifier than blanks. -/
def Context.IsProper (c : Context) : Prop :=
  match c.type with
  | .global => c.id = ""
  | _ => Text.trim Text.isBlank c.id ≠ ""

theorem Context.isProper_of_ofState? {s : FeatureState} {c : Context}
    (h : Context.ofState? s = some c) : c.IsProper := by
  rcases Targeting.ofState?_eq_some_iff.1 h with ⟨-, rfl⟩ | ⟨hne, htype, -, hblank⟩
  · rfl
  · have hid : Text.trim Text.isBlank c.id ≠ "" := by
      rw [Ne, Text.trim_isBlank_eq_empty_iff, hblank]
      decide
    obtain ⟨type, id⟩ := c
    cases type with
    | global => exact absurd htype.symm hne
    | organization | workspace => exact hid

namespace Targeting

/-! ## The last state for a flag and a context -/

/-- Is the state one of the flag, for the context? -/
def isFor (features : List Feature) (key : String) (c : Context) (s : FeatureState) : Bool :=
  ownedBy features key s && s.contextType == c.type &&
    (c.type == .global || s.contextId == some c.id)

/-- The last state of the flag for the context. -/
def lastFor (features : List Feature) (states : List FeatureState) (key : String) (c : Context) :
    Option FeatureState :=
  lastWith (isFor features key c) states

/-- For every flag and every context, either neither list has a state, or both have one and the last
of each give the same value. -/
def SwitchAlike (features : List Feature) (states states' : List FeatureState) : Prop :=
  ∀ key ∈ features.map Feature.key, ∀ c : Context, c.IsProper →
    Option.Rel (fun s s' => s.state = s'.state)
      (lastFor features states key c) (lastFor features states' key c)

/-- The states for every flag and every context stand in one order in both lists, whatever stands
between them. -/
def SameOrder (features : List Feature) (states states' : List FeatureState) : Prop :=
  ∀ key ∈ features.map Feature.key, ∀ c : Context, c.IsProper →
    states.filter (isFor features key c) = states'.filter (isFor features key c)

/-- The state belongs to no feature of the list, or asks for a context identifier and has nothing
but blanks for it. -/
def IsIdle (features : List Feature) (s : FeatureState) : Prop :=
  (∀ key ∈ features.map Feature.key, ownedBy features key s = false) ∨
    s.contextType ≠ .global ∧ hasContextId s = false

/-- The states are for one flag and one context. -/
def SameTarget (features : List Feature) (s s' : FeatureState) : Prop :=
  ∃ key ∈ features.map Feature.key, ∃ c : Context, c.IsProper ∧
    isFor features key c s = true ∧ isFor features key c s' = true

theorem isFor_iff {features : List Feature} {key : String} (hk : key ∈ features.map Feature.key)
    {c : Context} (hc : c.IsProper) {s : FeatureState} :
    isFor features key c s = true ↔ target? features s = some (key, c) := by
  rw [target?_eq_some_iff, owner?_key_iff hk, ofState?_eq_some_iff]
  obtain ⟨type, id⟩ := c
  have hblank : type ≠ .global → Text.isBlankText id = false := by
    intro ht
    rw [← Bool.not_eq_true, ← Text.trim_isBlank_eq_empty_iff]
    cases type with
    | global => exact absurd rfl ht
    | organization | workspace => exact hc
  cases type with
  | global =>
    obtain rfl : id = "" := hc
    simp only [isFor, Bool.and_eq_true, beq_iff_eq, beq_self_eq_true, Bool.true_or, and_true]
    grind
  | organization | workspace =>
    have hid := hblank (by decide)
    simp only [isFor, Bool.and_eq_true, beq_iff_eq, Bool.or_eq_true]
    grind

theorem mem_of_owner? {features : List Feature} {s : FeatureState} {f : Feature}
    (h : owner? features s = some f) : f ∈ features := by
  unfold owner? at h
  split at h
  · exact List.mem_reverse.1 (List.mem_of_find?_eq_some h)
  · obtain ⟨key, -, hf⟩ := Option.bind_eq_some_iff.1 h
    exact List.mem_reverse.1 (List.mem_of_find?_eq_some hf)

/-- States speak about flags that are there and about proper contexts only. -/
theorem proper_of_target? {features : List Feature} {s : FeatureState} {key : String} {c : Context}
    (h : target? features s = some (key, c)) : key ∈ features.map Feature.key ∧ c.IsProper := by
  obtain ⟨⟨f, hf, rfl⟩, hc⟩ := target?_eq_some_iff.1 h
  exact ⟨List.mem_map_of_mem (mem_of_owner? hf), Context.isProper_of_ofState? hc⟩

section
variable {features : List Feature} {states states' : List FeatureState} {key : String} {c : Context}

theorem override?_eq_lastFor (hk : key ∈ features.map Feature.key) (hc : c.IsProper) :
    override? features states key c = (lastFor features states key c).map FeatureState.state := by
  refine congrArg (Option.map _) (lastWith_congr fun s _ => ?_)
  rw [Bool.eq_iff_iff, beq_iff_eq, isFor_iff hk hc]

theorem proper_of_override? {b : Bool} (h : override? features states key c = some b) :
    key ∈ features.map Feature.key ∧ c.IsProper := by
  obtain ⟨s, -, ht, -⟩ := override?_eq_some h
  exact proper_of_target? ht

/-- States switch flags alike when their overrides are the same. -/
theorem switchAlike_iff :
    SwitchAlike features states states' ↔
      ∀ key c, override? features states key c = override? features states' key c := by
  have hrel : ∀ a b : Option FeatureState,
      Option.Rel (fun s s' => s.state = s'.state) a b ↔
        a.map FeatureState.state = b.map FeatureState.state := by
    rintro (_ | a) (_ | b) <;> simp
  constructor
  · intro h key c
    ext b
    -- where the one side has an override, flag and context are proper, so the two agree
    by_cases hp : key ∈ features.map Feature.key ∧ c.IsProper
    · rw [override?_eq_lastFor hp.1 hp.2, override?_eq_lastFor hp.1 hp.2,
        (hrel _ _).1 (h key hp.1 c hp.2)]
    · exact ⟨fun hb => absurd (proper_of_override? hb) hp,
        fun hb => absurd (proper_of_override? hb) hp⟩
  · intro h key hk c hc
    rw [hrel, ← override?_eq_lastFor hk hc, ← override?_eq_lastFor hk hc, h]

theorem SwitchAlike.of_lastFor
    (h : ∀ key ∈ features.map Feature.key, ∀ c : Context, c.IsProper →
      lastFor features states key c = lastFor features states' key c) :
    SwitchAlike features states states' := by
  intro key hk c hc
  rw [h key hk c hc]
  cases lastFor features states' key c with
  | none => exact .none
  | some s => exact .some rfl

end

/-! ## Rules read back -/

/-- The type of the contexts whose rules look at an attribute. -/
def attributeType : Attribute → ContextType
  | .organizationId => .organization
  | .workspaceId => .workspace

/-- The context that a rule was made for, and the value. -/
def Rule.source (r : Rule) : Context × Bool :=
  match r.condition with
  | none => (⟨.global, ""⟩, r.variant == .on)
  | some c => (⟨attributeType c.subject, c.equals⟩, r.variant == .on)

theorem Rule.source_ofContext {c : Context} (hc : c.IsProper) (b : Bool) :
    (Rule.ofContext c b).source = (c, b) := by
  have hvariant : (Variant.ofState b == .on) = b := by cases b <;> rfl
  obtain ⟨type, id⟩ := c
  cases type with
  | global =>
    obtain rfl : id = "" := hc
    simp [Rule.source, Rule.ofContext, Context.attribute?, hvariant]
  | organization | workspace =>
    simp [Rule.source, Rule.ofContext, Context.attribute?, attributeType, hvariant]

/-- The overrides of a flag, in the order of its rules, are read off the rules. -/
theorem map_source_rules {o : Overrides} (ho : ∀ c b, o.get? c = some b → c.IsProper) :
    ((flagWith o).targeting.getD []).map Rule.source = sorted o := by
  rw [rules_flagWith, rulesOfOverrides_eq, List.map_map]
  refine (List.map_congr_left fun e he => ?_).trans (List.map_id _)
  exact Rule.source_ofContext (ho e.1 e.2 (mem_sorted.1 he)) e.2

/-- **States that are compiled into one document have the same overrides.** -/
theorem override?_eq_of_compile_eq {features : List Feature} {states states' : List FeatureState}
    (h : compile features states = compile features states') (key : String) (c : Context) :
    override? features states key c = override? features states' key c := by
  have hproper : ∀ states c b,
      (overridesOf (groupStates features states) key).get? c = some b → c.IsProper := by
    intro states c b hb
    rw [get?_groupStates] at hb
    exact (proper_of_override? hb).2
  by_cases hk : key ∈ features.map Feature.key
  · have hflag := congrArg (fun d => d.flags.get? key) h
    simp only [get?_compile, if_pos hk, Option.some.injEq] at hflag
    have hsorted : sorted (overridesOf (groupStates features states) key) =
        sorted (overridesOf (groupStates features states') key) := by
      rw [← map_source_rules (hproper states), ← map_source_rules (hproper states'), hflag]
    ext b
    rw [← get?_groupStates, ← get?_groupStates, ← mem_sorted, hsorted, mem_sorted]
  · have hnone : ∀ states, override? features states key c = none := by
      intro states
      refine Option.eq_none_iff_forall_ne_some.2 fun b hb => hk (proper_of_override? hb).1
    rw [hnone, hnone]

/-! ## What does not count -/

theorem lastWith_append {α : Type} (p : α → Bool) (l m : List α) :
    lastWith p (l ++ m) = (lastWith p m).or (lastWith p l) := by
  simp [lastWith, List.getLast?_append]

theorem lastWith_insert_of_neg {α : Type} {p : α → Bool} {a : α} (h : p a = false) (l m : List α) :
    lastWith p (l ++ a :: m) = lastWith p (l ++ m) := by
  simp [lastWith, h]

/-- What stands before the last element that passes does not matter. -/
theorem lastWith_insert_of_later {α : Type} {p : α → Bool} {a b : α} (hb : p b = true)
    (l m n : List α) :
    lastWith p (l ++ a :: m ++ b :: n) = lastWith p (l ++ m ++ b :: n) := by
  have hlater : ∃ x, lastWith p (b :: n) = some x := by
    cases h : lastWith p (b :: n) with
    | none => rw [lastWith_eq_none_iff.1 h b (by simp)] at hb; cases hb
    | some x => exact ⟨x, rfl⟩
  obtain ⟨x, hx⟩ := hlater
  rw [lastWith_append p (l ++ a :: m), lastWith_append p (l ++ m), hx, Option.some_or,
    Option.some_or]

section
variable {features : List Feature}

theorem SameOrder.switchAlike {states states' : List FeatureState}
    (h : SameOrder features states states') : SwitchAlike features states states' := by
  refine .of_lastFor fun key hk c hc => ?_
  rw [lastFor, lastFor, lastWith, lastWith, h key hk c hc]

theorem IsIdle.not_isFor {s : FeatureState} (h : IsIdle features s) {key : String}
    (hk : key ∈ features.map Feature.key) {c : Context} (hc : c.IsProper) :
    isFor features key c s = false := by
  rw [← Bool.not_eq_true]
  intro hfor
  rcases h with horphan | ⟨htype, hblank⟩
  · rw [isFor, horphan key hk] at hfor
    cases hfor
  · obtain ⟨type, id⟩ := c
    simp only [isFor, Bool.and_eq_true, beq_iff_eq, Bool.or_eq_true] at hfor
    obtain ⟨⟨-, rfl⟩, hid⟩ := hfor
    rw [or_iff_right htype] at hid
    have hne : Text.trim Text.isBlank id ≠ "" := by
      unfold Context.IsProper at hc
      split at hc
      · rename_i hglobal
        exact absurd hglobal htype
      · exact hc
    simp [hasContextId, hid, hne] at hblank

theorem IsIdle.switchAlike {s : FeatureState} (h : IsIdle features s)
    (before after : List FeatureState) :
    SwitchAlike features (before ++ s :: after) (before ++ after) :=
  .of_lastFor fun _ hk _ hc => lastWith_insert_of_neg (h.not_isFor hk hc) before after

theorem SameTarget.switchAlike {s s' : FeatureState} (h : SameTarget features s s')
    (before between after : List FeatureState) :
    SwitchAlike features (before ++ s :: between ++ s' :: after)
      (before ++ between ++ s' :: after) := by
  obtain ⟨key, hk, c, hc, hs, hs'⟩ := h
  rw [isFor_iff hk hc] at hs hs'
  refine .of_lastFor fun key' hk' c' hc' => ?_
  by_cases hfor : isFor features key' c' s' = true
  · exact lastWith_insert_of_later hfor before between after
  · -- both states have one target, so neither is for this one
    have hnot : isFor features key' c' s = false := by
      rw [← Bool.not_eq_true, isFor_iff hk' hc', hs, ← hs', ← isFor_iff hk' hc']
      exact hfor
    rw [lastFor, List.append_assoc, List.cons_append, lastWith_insert_of_neg hnot, lastFor,
      List.append_assoc]

end

/-- **A document depends on exactly the overrides that count.** Two lists of states make one
document of a list of features just when, for every flag and every context, both have no state or
the last states of both give one value. Hence only the order among the states for one flag and
context matters, and a state that belongs to nothing, is for a blank context, or is followed by
another for its flag and context may be put in or left out. -/
theorem compile_eq_iff_switchAlike (features : List Feature) :
    (∀ states states', compile features states = compile features states' ↔
        SwitchAlike features states states') ∧
      (∀ states states', SameOrder features states states' →
        compile features states = compile features states') ∧
      (∀ before s after, IsIdle features s →
        compile features (before ++ s :: after) = compile features (before ++ after)) ∧
      ∀ before s between s' after, SameTarget features s s' →
        compile features (before ++ s :: between ++ s' :: after) =
          compile features (before ++ between ++ s' :: after) := by
  have hiff : ∀ states states', compile features states = compile features states' ↔
      SwitchAlike features states states' := by
    intro states states'
    rw [switchAlike_iff]
    exact ⟨override?_eq_of_compile_eq, compile_congr rfl⟩
  refine ⟨hiff, ?_, ?_, ?_⟩
  · exact fun states states' h => (hiff _ _).2 h.switchAlike
  · exact fun before s after h => (hiff _ _).2 (h.switchAlike before after)
  · exact fun before s between s' after h => (hiff _ _).2 (h.switchAlike before between after)

/-- An overruled state and one for a blank organization are left out, and two states for different
contexts change places. -/
theorem compile_eq_iff_switchAlike_sharedId :
    let features := [sharedId "alpha", sharedId "beta"]
    let overruled := ofSharedId .workspace "w" false
    let last := ofSharedId .workspace "w" true
    let everyone := ofSharedId .global "" false
    let nowhere := ofSharedId .organization " " true
    SameOrder features [everyone, last] [last, everyone] ∧ IsIdle features nowhere ∧
      SameTarget features overruled last ∧
      compile features [everyone, last] = compile features [last, everyone] ∧
      compile features [last, nowhere, everyone] = compile features [last, everyone] ∧
      compile features [overruled, everyone, last] = compile features [everyone, last] := by
  intro features overruled last everyone nowhere
  obtain ⟨-, hmoved, hidle, hsame⟩ := compile_eq_iff_switchAlike features
  have horder : SameOrder features [everyone, last] [last, everyone] := by
    rintro key - ⟨type, id⟩ -
    cases type <;> simp [List.filter_cons, isFor, last, everyone, ofSharedId]
  have hnowhere : IsIdle features nowhere := .inr ⟨by decide, by decide⟩
  have htarget : SameTarget features overruled last :=
    ⟨"beta", by decide, ⟨.workspace, "w"⟩, by unfold Context.IsProper; decide, by decide, by decide⟩
  exact ⟨horder, hnowhere, htarget, hmoved _ _ horder, hidle [last] _ [everyone] hnowhere,
    hsame [] _ [everyone] _ [] htarget⟩

end Targeting

end FeatureFlags
