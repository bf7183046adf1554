import FeatureFlags.ContextType
import FeatureFlags.Table
import FeatureFlags.Validation.Fields
import FeatureFlags.Validation.Values

/-!
# Targeting documents

A document says for every flag which of its two variants a request gets. A flag has rules that are
tried in order: a rule without a condition always matches, a rule with one matches a request whose
attribute has the given value. When no rule matches, the default variant holds.

A document is written as JSON and read back from it. Absent conditions and absent targetings are
left out of a document, and written as null in its parts.
-/

namespace FeatureFlags

/-- What a flag may be for a request (`Variant`). -/
inductive Variant where
  | on
  | off
deriving DecidableEq, Repr

namespace Variant

/-- The variant of a state (`Variant.from_state`). -/
def ofState (state : Bool) : Variant := if state then .on else .off

def name : Variant → String
  | .on => "on"
  | .off => "off"

def ofName? : String → Option Variant
  | "on" => some .on
  | "off" => some .off
  | _ => none

def names : List String := ["on", "off"]

theorem ofName?_name (v : Variant) : ofName? v.name = some v := by
  cases v <;> rfl

end Variant

/-- The request attributes that a condition may look at. -/
inductive Attribute where
  | organizationId
  | workspaceId
deriving DecidableEq, Repr

namespace Attribute

def name : Attribute → String
  | .organizationId => "organizationId"
  | .workspaceId => "workspaceId"

def ofName? : String → Option Attribute
  | "organizationId" => some .organizationId
  | "workspaceId" => some .workspaceId
  | _ => none

def names : List String := ["organizationId", "workspaceId"]

theorem ofName?_name (a : Attribute) : ofName? a.name = some a := by
  cases a <;> rfl

end Attribute

namespace Targeting

/-- The request's attribute has to have this value (`Condition`). -/
structure Condition where
  subject : Attribute
  equals : String
deriving DecidableEq, Repr

/-- A variant for the requests that meet a condition, or for all (`Rule`). -/
structure Rule where
  condition : Option Condition
  variant : Variant
deriving DecidableEq, Repr

/-- The value that each variant stands for (`Variants`). -/
structure Variants where
  on : Bool
  off : Bool
deriving DecidableEq, Repr

/-- A flag (`FlagEntry`); it has rules or no targeting at all. -/
structure Flag where
  variants : Variants
  defaultVariant : Variant
  targeting : Option (List Rule)
deriving DecidableEq, Repr

/-- The flags of a document, in order (`TargetingConfig`). -/
structure Document where
  flags : Table String Flag

/-- The variants that a flag has unless it says otherwise. -/
def Variants.standard : Variants := ⟨true, false⟩

/-- A flag that is off for every request. -/
def Flag.plain : Flag := ⟨.standard, .off, none⟩

/-- The format that documents declare (`FLAGD_SCHEMA_URL`). -/
def schemaUrl : String := "https://flagd.dev/schema/v0/flags.json"

/-- The only state of a flag in a document (`FlagState`). -/
def enabled : String := "ENABLED"

/-! ## Writing -/

def Condition.toJson (c : Condition) : Json :=
  .object [("attribute", .string c.subject.name), ("equals", .string c.equals)]

def Rule.toJson (r : Rule) : Json :=
  .object
    [("condition", (r.condition.map Condition.toJson).getD .null),
      ("variant", .string r.variant.name)]

/-- Rules as the targeting of a flag (`Targeting`). -/
def rulesJson (rules : List Rule) : Json :=
  .object [("rules", .array (rules.map Rule.toJson))]

def Variants.toJson (v : Variants) : Json :=
  .object [("on", .bool v.on), ("off", .bool v.off)]

def Flag.toJson (f : Flag) : Json :=
  .object
    [("state", .string enabled), ("variants", f.variants.toJson),
      ("defaultVariant", .string f.defaultVariant.name),
      ("targeting", (f.targeting.map rulesJson).getD .null)]

/-- The document as it is published (`TargetingConfig.to_json`). -/
def Document.toJson (d : Document) : Json :=
  .dropNulls <| .object
    [("$schema", .string schemaUrl),
      ("flags", .object (d.flags.entries.map fun (key, flag) => (key, flag.toJson)))]

/-- A rule as it is published. -/
def Rule.publish (r : Rule) : Json := r.toJson.dropNulls

/-! ## Reading -/

def attributeField : Field := .only "attribute"
def equalsField : Field := .only "equals"
def conditionField : Field := .only "condition"
def variantField : Field := .only "variant"
def rulesField : Field := .only "rules"
def onField : Field := .only "on"
def offField : Field := .only "off"
def stateField : Field := .only "state"
def variantsField : Field := .only "variants"
def defaultVariantField : Field := ⟨"defaultVariant", "default_variant"⟩
def targetingField : Field := .only "targeting"
def schemaField : Field := ⟨"$schema", "schema_url"⟩
def flagsField : Field := .only "flags"

def Condition.fields : List Field := [attributeField, equalsField]
def Rule.fields : List Field := [conditionField, variantField]
def rulesFields : List Field := [rulesField]
def Variants.fields : List Field := [onField, offField]
def Flag.fields : List Field := [stateField, variantsField, defaultVariantField, targetingField]
def Document.fields : List Field := [schemaField, flagsField]

def variantOf (v : Json) : Checked Variant :=
  Checked.choice (.notMember Variant.names) Variant.ofName? v

def attributeOf (v : Json) : Checked Attribute :=
  Checked.choice (.notLiteral Attribute.names) Attribute.ofName? v

/-- Accepts the one state that a flag may have (`FlagState`). -/
def enabledOf (v : Json) : Checked Unit :=
  Checked.choice (.notMember [enabled]) (fun s => if s == enabled then some () else none) v

def Condition.ofJson (v : Json) : Checked Condition :=
  Checked.record "Condition" (fun o =>
    (attributeField.required attributeOf o).map Condition.mk
      |>.ap (equalsField.required Checked.string o)) v

def Rule.ofJson (v : Json) : Checked Rule :=
  Checked.record "Rule" (fun o =>
    (conditionField.withDefault none (Checked.nullable Condition.ofJson) o).map Rule.mk
      |>.ap (variantField.required variantOf o)) v

/-- Reads the items of a list. -/
def listOf {α : Type} (read : Json → Checked α) (v : Json) : Checked (List α) :=
  match v with
  | .array items => Checked.items read 0 items
  | _ => .flawed .notList v

/-- Reads the targeting of a flag (`Targeting`). -/
def rulesOf (v : Json) : Checked (List Rule) :=
  Checked.record "Targeting" (rulesField.required (listOf Rule.ofJson)) v

def Variants.ofJson (v : Json) : Checked Variants :=
  Checked.record "Variants" (fun o =>
    (onField.withDefault Variants.standard.on Checked.bool o).map Variants.mk
      |>.ap (offField.withDefault Variants.standard.off Checked.bool o)) v

def Flag.ofJson (v : Json) : Checked Flag :=
  Checked.record "FlagEntry" (fun o =>
    (stateField.withDefault () enabledOf o).map (fun _ => Flag.mk)
      |>.ap (variantsField.withDefault .standard Variants.ofJson o)
      |>.ap (defaultVariantField.withDefault .off variantOf o)
      |>.ap (targetingField.withDefault none (Checked.nullable rulesOf) o)) v

/-- Accepts the one format that documents declare (`TargetingConfig._fixed_schema`). -/
def schemaOf (v : Json) : Checked Unit :=
  (Checked.string v).andThen fun s =>
    if s == schemaUrl then .accepted () else .flawed (.refused "unsupported flagd schema") v

/-- Reads the flags of a document, in the order of the data. -/
def flagsOf (v : Json) : Checked (Table String Flag) :=
  match v with
  | .object members => (Checked.members Flag.ofJson members).map Table.ofList
  | _ => .flawed .notObject v

def Document.ofJson (v : Json) : Checked Document :=
  Checked.record "TargetingConfig" (fun o =>
    (schemaField.withDefault () schemaOf o).map (fun _ => Document.mk)
      |>.ap (flagsField.withDefault .empty flagsOf o)) v

end Targeting

end FeatureFlags
