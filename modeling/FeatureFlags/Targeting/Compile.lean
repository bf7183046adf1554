import FeatureFlags.FeatureState
import FeatureFlags.Targeting

/-!
# Compiling feature states: `compile_targeting`

The targeting document of a list of features and a list of feature states.

A state belongs to the last feature with its feature identifier or, when it has none, to the last
feature with its feature key; a state without an owner counts for nothing, and neither does one
whose context identifier is blank though its context type asks for one. Of the states of one
feature key for one context the last holds.

The rules of a flag stand in the order of how special they are: workspaces, then organizations,
then everyone; those of one kind in the order of their context identifiers.
-/

namespace FeatureFlags

/-- A context in which a feature has a state (`_ContextKey`). -/
structure Context where
  type : ContextType
  id : String
deriving DecidableEq, Repr

namespace Context

/-- How special a context type is (`CONTEXT_PRECEDENCE`); the smaller, the more special. -/
def rank : ContextType → Nat
  | .workspace => 0
  | .organization => 1
  | .global => 2

/-- The order of rules (`_rule_order`): by rank, then by identifier, character by character. -/
def le (a b : Context) : Bool :=
  if rank a.type == rank b.type then decide (a.id ≤ b.id) else rank a.type < rank b.type

/-- The context of a feature state (`_context_key`); none when its identifier is missing or
blank. -/
def ofState? (s : FeatureState) : Option Context :=
  match s.contextType with
  | .global => some ⟨.global, ""⟩
  | type =>
    match s.contextId with
    | none => none
    | some id => if Text.isBlankText id then none else some ⟨type, id⟩

/-- The request attribute that holds the identifier of a context of this type
(`CONTEXT_ATTRIBUTES`). -/
def attribute? : ContextType → Option Attribute
  | .global => none
  | .organization => some .organizationId
  | .workspace => some .workspaceId

end Context

namespace Targeting

/-- The rule that gives a context the variant of a state (`build_rule`). -/
def Rule.ofContext (c : Context) (state : Bool) : Rule :=
  { condition := (Context.attribute? c.type).map fun a => ⟨a, c.id⟩
    variant := .ofState state }

/-- The rule for a context whose identifier is data (`build_rule`); for everyone it does not
matter. -/
def Rule.ofData (type : ContextType) (id : Json) (state : Bool) : Checked Rule :=
  match type with
  | .global => .accepted (.ofContext ⟨.global, ""⟩ state)
  | type =>
    ((Checked.string id).under (.member "equals")).map fun id => .ofContext ⟨type, id⟩ state

/-- The states of one flag by context. -/
abbrev Overrides := Table Context Bool

/-- The last feature with an identifier. -/
def featureById? (features : List Feature) (id : String) : Option Feature :=
  features.reverse.find? fun f => f.id == id

/-- The last feature with a key. -/
def featureByKey? (features : List Feature) (key : String) : Option Feature :=
  features.reverse.find? fun f => f.key == key

/-- The feature that a state belongs to (`_resolve_feature`). -/
def owner? (features : List Feature) (s : FeatureState) : Option Feature :=
  match given s.featureId with
  | some id => featureById? features id
  | none => (given s.featureKey).bind (featureByKey? features)

/-- The flag key and context that a state speaks about, if it counts. -/
def target? (features : List Feature) (s : FeatureState) : Option (String × Context) := do
  let f ← owner? features s
  let c ← Context.ofState? s
  return (f.key, c)

/-- The groups after one more state: one round of the loop of `group_states`. -/
def addState (features : List Feature) (groups : Table String Overrides) (s : FeatureState) :
    Table String Overrides :=
  match target? features s with
  | some (key, c) => groups.put key (((groups.get? key).getD .empty).put c s.state)
  | none => groups

/-- The states that count, by flag key and context (`group_states`). -/
def groupStates (features : List Feature) (states : List FeatureState) : Table String Overrides :=
  states.foldl (addState features) .empty

/-- The rules of a flag, in order: the overrides sorted by `_rule_order`, each with its
`build_rule`. -/
def rulesOfOverrides (o : Overrides) : List Rule :=
  (o.entries.mergeSort fun a b => Context.le a.1 b.1).map fun (c, state) => Rule.ofContext c state

/-- The flag of a feature key, as `compile_targeting` builds it. -/
def flagOf (groups : Table String Overrides) (key : String) : Flag :=
  match groups.get? key with
  | none => .plain
  | some o =>
    if o.entries.isEmpty then .plain else { Flag.plain with targeting := some (rulesOfOverrides o) }

/-- The document of a list of features and a list of states (`compile_targeting`). -/
def compile (features : List Feature) (states : List FeatureState) : Document :=
  let groups := groupStates features states
  ⟨features.foldl (fun flags f => flags.put f.key (flagOf groups f.key)) .empty⟩

/-- The number of rules of a flag. -/
def Flag.ruleCount (f : Flag) : Nat := (f.targeting.map List.length).getD 0

/-- The number of rules in a document (`_count_rules`). -/
def Document.ruleCount (d : Document) : Nat :=
  d.flags.values.foldr (fun f n => f.ruleCount + n) 0

end Targeting

end FeatureFlags
