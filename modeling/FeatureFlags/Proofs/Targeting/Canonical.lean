import FeatureFlags.Proofs.Targeting.Effective
import Mathlib.Data.List.Nodup

/-!
# The form of compiled flags

Whatever features and states are compiled, the document has one flag for every feature key, in the
order in which the keys come first. A flag without states has no targeting; the rules of any other
are `Canonical`: one for every context in which the flag has a state, in the one order of contexts,
each with the identifier as it is stored, and the rule for everyone, if there is one, at the end.

All of it is read off the overrides of a flag: they are there for just the contexts in which the
flag has states (`isSome_override?_iff`), and their order has no two equal elements
(`pairwise_sorted_before`).
-/

namespace FeatureFlags

/-- The order in which rules stand: workspaces, then organizations, then everyone, and the contexts
of one type by their identifiers, character by character. -/
def Context.Before (a b : Context) : Prop :=
  Context.rank a.type < Context.rank b.type ∨ a.type = b.type ∧ a.id < b.id

theorem Context.Before.of_le {a b : Context} (hle : Context.le a b = true) (hne : a ≠ b) :
    a.Before b := by
  rcases Context.le_iff.1 hle with hrank | ⟨htype, hid⟩
  · exact .inl hrank
  · have hid' : a.id ≠ b.id := by
      intro e
      obtain ⟨_, _⟩ := a
      obtain ⟨_, _⟩ := b
      exact hne (by simp_all)
    exact .inr ⟨htype, String.not_le.1 fun hid_ge => hid' (String.le_antisymm hid hid_ge)⟩

/-- Nothing that an override can be for comes after everyone. -/
theorem Context.IsProper.not_after_global {c : Context} (hc : c.IsProper) :
    ¬ Context.Before ⟨.global, ""⟩ c := by
  obtain ⟨type, id⟩ := c
  rintro (hrank | ⟨htype, hid⟩)
  · cases type <;> simp [Context.rank] at hrank
  · obtain rfl : ContextType.global = type := htype
    obtain rfl : id = "" := hc
    exact String.lt_irrefl "" hid

namespace Targeting

/-! ## Canonical rules -/

/-- Does the flag have a state for the context? -/
def IsSwitched (features : List Feature) (states : List FeatureState) (key : String) (c : Context) :
    Prop :=
  c.IsProper ∧ ∃ s ∈ states, isFor features key c s = true

/-- The context that a rule was made for. -/
def Rule.context (r : Rule) : Context := r.source.1

/-- The rule looks for what the state is stored with: the attribute goes with the type, and the
context identifier is the one of the state, which has more to it than blanks. -/
def Rule.LooksFor (r : Rule) (s : FeatureState) : Prop :=
  match s.contextType with
  | .global => r.condition = none
  | .organization => ∃ id, s.contextId = some id ∧ Text.trim Text.isBlank id ≠ "" ∧
      r.condition = some ⟨.organizationId, id⟩
  | .workspace => ∃ id, s.contextId = some id ∧ Text.trim Text.isBlank id ≠ "" ∧
      r.condition = some ⟨.workspaceId, id⟩

/-- The rules of a flag as a compiled document has them. -/
structure Canonical (features : List Feature) (states : List FeatureState) (key : String)
    (rules : List Rule) : Prop where
  nonempty : rules ≠ []
  /-- Every context in which the flag has a state has one rule. -/
  one_each : ∀ c, IsSwitched features states key c → (rules.map Rule.context).count c = 1
  /-- Every rule is there for a state of the flag. -/
  stored : ∀ r ∈ rules, ∃ s ∈ states, ownedBy features key s = true ∧ r.LooksFor s
  /-- Rules made of the contexts as data are accepted, and are these. -/
  accepted : ∀ r ∈ rules, ∃ (c : Context) (b : Bool), Rule.ofData c.type (.string c.id) b = .accepted r
  increasing : rules.Pairwise fun r r' => r.context.Before r'.context
  /-- Nothing stands after a rule without a condition. -/
  unconditional_last : ∀ before r after, rules = before ++ r :: after → r.condition = none →
    after = []

/-! ## The contexts of a flag -/

section
variable {features : List Feature} {states : List FeatureState} {key : String} {c : Context}

theorem isSome_override?_iff (hk : key ∈ features.map Feature.key) :
    (override? features states key c).isSome ↔ IsSwitched features states key c := by
  constructor
  · intro h
    obtain ⟨b, hb⟩ := Option.isSome_iff_exists.1 h
    obtain ⟨-, hc⟩ := proper_of_override? hb
    obtain ⟨s, hs, htarget, -⟩ := override?_eq_some hb
    exact ⟨hc, s, hs, (isFor_iff hk hc).2 htarget⟩
  · rintro ⟨hc, s, hs, hfor⟩
    rw [override?_eq_lastFor hk hc, Option.isSome_map, Option.isSome_iff_ne_none]
    intro hnone
    have hnot := lastWith_eq_none_iff.1 hnone s hs
    rw [hfor] at hnot
    cases hnot

theorem mem_keys_overridesOf (hk : key ∈ features.map Feature.key) :
    c ∈ (overridesOf (groupStates features states) key).keys ↔ IsSwitched features states key c := by
  rw [Table.mem_keys, get?_groupStates, isSome_override?_iff hk]

theorem keys_sorted_perm (o : Overrides) : ((sorted o).map Prod.fst).Perm o.keys :=
  (sorted_perm o).map Prod.fst

theorem pairwise_sorted_before (o : Overrides) :
    (sorted o).Pairwise fun a b => a.1.Before b.1 := by
  have hdistinct : (sorted o).Pairwise fun a b => a.1 ≠ b.1 :=
    List.pairwise_map.1 ((keys_sorted_perm o).nodup_iff.2 o.nodup_keys)
  exact (pairwise_sorted o).imp₂ (fun _ _ hle hne => Context.Before.of_le hle hne) hdistinct

theorem targeting_flagWith_eq_none_iff (o : Overrides) :
    (flagWith o).targeting = none ↔ ∀ c, c ∉ o.keys := by
  unfold flagWith
  by_cases ho : o.entries.isEmpty = true
  · simp [List.isEmpty_iff.1 ho, Flag.plain, Table.keys]
  · obtain ⟨e, he⟩ := List.exists_mem_of_ne_nil _ fun h => ho (List.isEmpty_iff.2 h)
    have hkey : e.1 ∈ o.keys := List.mem_map_of_mem he
    simp only [ho, if_false, reduceCtorEq, false_iff]
    exact fun hnone => hnone e.1 hkey

end

/-! ## The rules of a flag -/

theorem Rule.context_ofContext {c : Context} (hc : c.IsProper) (b : Bool) :
    (Rule.ofContext c b).context = c := by
  rw [Rule.context, Rule.source_ofContext hc]

theorem Rule.looksFor_ofContext {features : List Feature} {key : String} {c : Context}
    (hc : c.IsProper) (b : Bool) {s : FeatureState} (hfor : isFor features key c s = true) :
    (Rule.ofContext c b).LooksFor s := by
  obtain ⟨type, id⟩ := c
  simp only [isFor, Bool.and_eq_true, Bool.or_eq_true, beq_iff_eq] at hfor
  obtain ⟨⟨-, htype⟩, hid⟩ := hfor
  unfold Rule.LooksFor
  rw [htype]
  cases type with
  | global => rfl
  | organization | workspace => exact ⟨id, hid.resolve_left (by decide), hc, rfl⟩

/-- A rule without a condition is the one for everyone. -/
theorem Rule.context_of_unconditional {r : Rule} (h : r.condition = none) :
    r.context = ⟨.global, ""⟩ := by
  simp [Rule.context, Rule.source, h]

theorem Rule.ofData_string {c : Context} (hc : c.IsProper) (b : Bool) :
    Rule.ofData c.type (.string c.id) b = .accepted (Rule.ofContext c b) := by
  obtain ⟨type, id⟩ := c
  cases type with
  | global =>
    obtain rfl : id = "" := hc
    rfl
  | organization | workspace => rfl

section
variable {o : Overrides} (hproper : ∀ e ∈ sorted o, e.1.IsProper)
include hproper

theorem map_context_rulesOfOverrides :
    (rulesOfOverrides o).map Rule.context = (sorted o).map Prod.fst := by
  rw [rulesOfOverrides_eq, List.map_map]
  exact List.map_congr_left fun e he => Rule.context_ofContext (hproper e he) e.2

theorem pairwise_before_rulesOfOverrides :
    (rulesOfOverrides o).Pairwise fun r r' => r.context.Before r'.context := by
  have hsorted : ((sorted o).map Prod.fst).Pairwise Context.Before :=
    List.pairwise_map.2 (pairwise_sorted_before o)
  rw [← map_context_rulesOfOverrides hproper] at hsorted
  exact List.pairwise_map.1 hsorted

theorem proper_of_mem_rulesOfOverrides {r : Rule} (hr : r ∈ rulesOfOverrides o) :
    r.context.IsProper := by
  have hmem : r.context ∈ (rulesOfOverrides o).map Rule.context := List.mem_map_of_mem hr
  rw [map_context_rulesOfOverrides hproper] at hmem
  obtain ⟨e, he, hcontext⟩ := List.mem_map.1 hmem
  exact hcontext ▸ hproper e he

/-- A rule after the one for everyone would have a context that comes after everyone. -/
theorem eq_nil_of_unconditional {before after : List Rule} {r : Rule}
    (hsplit : rulesOfOverrides o = before ++ r :: after) (hnone : r.condition = none) :
    after = [] := by
  have hincreasing := pairwise_before_rulesOfOverrides hproper
  rw [hsplit, List.pairwise_append, List.pairwise_cons] at hincreasing
  obtain ⟨-, ⟨hafter, -⟩, -⟩ := hincreasing
  refine List.eq_nil_iff_forall_not_mem.2 fun r' hr' => ?_
  have hbefore := hafter r' hr'
  rw [Rule.context_of_unconditional hnone] at hbefore
  have hmem : r' ∈ rulesOfOverrides o := by
    rw [hsplit]
    simp [hr']
  exact (proper_of_mem_rulesOfOverrides hproper hmem).not_after_global hbefore

end

theorem canonical_rules {features : List Feature} {states : List FeatureState} {key : String}
    (hk : key ∈ features.map Feature.key)
    (hne : (overridesOf (groupStates features states) key).entries ≠ []) :
    Canonical features states key
      (rulesOfOverrides (overridesOf (groupStates features states) key)) := by
  generalize ho : overridesOf (groupStates features states) key = o at hne
  have hswitched : ∀ c, c ∈ (sorted o).map Prod.fst ↔ IsSwitched features states key c := by
    intro c
    rw [(keys_sorted_perm o).mem_iff, ← ho, mem_keys_overridesOf hk]
  have hproper : ∀ e ∈ sorted o, e.1.IsProper := fun e he =>
    ((hswitched e.1).1 (List.mem_map_of_mem he)).1
  have hmade : ∀ r ∈ rulesOfOverrides o, ∃ e ∈ sorted o, Rule.ofContext e.1 e.2 = r :=
    fun r hr => List.mem_map.1 (rulesOfOverrides_eq o ▸ hr)
  constructor
  case nonempty =>
    intro hnil
    rw [rulesOfOverrides_eq, List.map_eq_nil_iff] at hnil
    exact hne (List.nil_perm.1 (hnil ▸ sorted_perm o))
  case one_each =>
    intro c hc
    rw [map_context_rulesOfOverrides hproper]
    have hnodup : ((sorted o).map Prod.fst).Nodup := (keys_sorted_perm o).nodup_iff.2 o.nodup_keys
    exact List.count_eq_one_of_mem hnodup ((hswitched c).2 hc)
  case stored =>
    intro r hr
    obtain ⟨e, he, rfl⟩ := hmade r hr
    obtain ⟨hc, s, hs, hfor⟩ := (hswitched e.1).1 (List.mem_map_of_mem he)
    have howned : ownedBy features key s = true := by
      simp only [isFor, Bool.and_eq_true] at hfor
      exact hfor.1.1
    exact ⟨s, hs, howned, Rule.looksFor_ofContext hc e.2 hfor⟩
  case accepted =>
    intro r hr
    obtain ⟨e, he, rfl⟩ := hmade r hr
    exact ⟨e.1, e.2, Rule.ofData_string (hproper e he) e.2⟩
  case increasing => exact pairwise_before_rulesOfOverrides hproper
  case unconditional_last =>
    intro before r after hsplit hnone
    exact eq_nil_of_unconditional hproper hsplit hnone

/-- **Compiled flags have one form.** The flags of a document are those of the feature keys, in the
order in which these come first. A flag has no targeting just when it has a state for no context;
otherwise its rules are canonical. -/
theorem compile_canonical (features : List Feature) (states : List FeatureState) :
    (compile features states).flags.keys = (features.map Feature.key).eraseDups ∧
      ∀ key ∈ features.map Feature.key, ∃ flag,
        (compile features states).flags.get? key = some flag ∧
          (flag.targeting = none ↔ ∀ c, ¬ IsSwitched features states key c) ∧
          ∀ rules, flag.targeting = some rules → Canonical features states key rules := by
  refine ⟨keys_compile_eq_eraseDups features states, fun key hk => ?_⟩
  refine ⟨_, by rw [get?_compile, if_pos hk], ?_, ?_⟩
  · simp only [targeting_flagWith_eq_none_iff, mem_keys_overridesOf hk]
  · intro rules hrules
    have hne : (overridesOf (groupStates features states) key).entries ≠ [] := by
      intro hnil
      simp [flagWith, hnil, Flag.plain] at hrules
    have heq := rules_flagWith (overridesOf (groupStates features states) key)
    rw [hrules, Option.getD_some] at heq
    rw [heq]
    exact canonical_rules hk hne

/-- A key that two features have comes once. Its identifiers stay as they are stored, the blank one
is left out, and the identifier stored for everyone counts for nothing. The feature that another one
shadows has no state at all. -/
theorem compile_canonical_sharedId :
    let features := [sharedId "beta", sharedId "alpha", sharedId "beta"]
    let states := [ofSharedId .global "stray" true, ofSharedId .workspace "w" true,
      ofSharedId .workspace " w" false, ofSharedId .organization " " true]
    let rules : List Rule := [⟨some ⟨.workspaceId, " w"⟩, .off⟩, ⟨some ⟨.workspaceId, "w"⟩, .on⟩,
      ⟨none, .on⟩]
    "alpha" ∈ features.map Feature.key ∧ "beta" ∈ features.map Feature.key ∧
      (compile features states).flags.keys = ["beta", "alpha"] ∧
      (∀ c, ¬ IsSwitched features states "alpha" c) ∧ Canonical features states "beta" rules := by
  intro features states rules
  obtain ⟨hkeys, hflags⟩ := compile_canonical features states
  have halpha : "alpha" ∈ features.map Feature.key := by decide
  have hbeta : "beta" ∈ features.map Feature.key := by decide
  have hplain : flagWith (overridesOf (groupStates features states) "alpha") = .plain := by decide
  have hsorted : sorted (overridesOf (groupStates features states) "beta") =
      [(⟨.workspace, " w"⟩, false), (⟨.workspace, "w"⟩, true), (⟨.global, ""⟩, true)] :=
    sorted_eq (by decide) (by decide)
  have hrules : (flagWith (overridesOf (groupStates features states) "beta")).targeting =
      some rules := by
    rw [flagWith, if_neg (by decide)]
    exact congrArg some (congrArg (List.map _) hsorted)
  obtain ⟨plain, hget, hnone, -⟩ := hflags "alpha" halpha
  obtain ⟨flag, hget', -, hcanonical⟩ := hflags "beta" hbeta
  rw [get?_compile, if_pos halpha, hplain] at hget
  rw [get?_compile, if_pos hbeta] at hget'
  cases hget
  cases hget'
  exact ⟨halpha, hbeta, hkeys.trans (by decide), hnone.1 rfl, hcanonical rules hrules⟩

end Targeting

end FeatureFlags
