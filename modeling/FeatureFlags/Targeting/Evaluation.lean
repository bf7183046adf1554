import FeatureFlags.Targeting

/-!
# Evaluating flags

What a consumer of a document does with it: the rules of a flag are tried in order, the first that
matches the request gives the variant, and without one the default variant holds.
-/

namespace FeatureFlags.Targeting

/-- What is known of a request: the attributes it has, with their values. -/
abbrev Request := Attribute → Option String

/-- Does the request meet the condition? -/
def Condition.holds (c : Condition) (r : Request) : Bool := r c.subject == some c.equals

/-- A rule without a condition matches every request. -/
def Rule.applies (rule : Rule) (r : Request) : Bool :=
  match rule.condition with
  | none => true
  | some c => c.holds r

/-- The variant of the first rule that matches. -/
def firstMatch (rules : List Rule) (r : Request) : Option Variant :=
  (rules.find? fun rule => rule.applies r).map Rule.variant

/-- The variant that a flag gives a request (`evaluate`). -/
def Flag.evaluate (f : Flag) (r : Request) : Variant :=
  ((f.targeting.bind fun rules => firstMatch rules r)).getD f.defaultVariant

/-- The variant that a document gives a request for a flag, if it has the flag. -/
def Document.evaluate? (d : Document) (key : String) (r : Request) : Option Variant :=
  (d.flags.get? key).map fun f => f.evaluate r

end FeatureFlags.Targeting
