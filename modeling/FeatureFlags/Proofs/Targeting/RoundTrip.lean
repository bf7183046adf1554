import FeatureFlags.Proofs.Table
import FeatureFlags.Proofs.Targeting.Adequacy
import FeatureFlags.Proofs.Validation

/-!
# Documents as they are published

A document loses nothing when it is published. What the JSON leaves out, the condition of a rule
for everyone and the targeting of a flag without rules, is what its reader takes an absent member
for, so the document is read back as it was (`Document.ofJson_toJson`). And whoever has nothing but
the JSON can evaluate it, rule by rule, and comes to the same variants
(`evaluatePublished?_toJson`).

There is one pair of lemmas for every part of a document: what its JSON is without nulls, and that
this is read as the part.
-/

namespace FeatureFlags

/-! ## Lists and objects -/

namespace Json

theorem dropNullsItems_eq_map (items : List Json) : dropNullsItems items = items.map dropNulls := by
  induction items with
  | nil => rfl
  | cons v rest ih => rw [dropNullsItems, ih, List.map_cons]

/-- Members that are not null stay, each without the nulls inside. -/
theorem dropNullsMembers_eq_map {α : Type} (write : α → Json) (h : ∀ a, write a ≠ .null)
    (members : List (String × α)) :
    dropNullsMembers (members.map fun m => (m.1, write m.2)) =
      members.map fun m => (m.1, (write m.2).dropNulls) := by
  induction members with
  | nil => rfl
  | cons m rest ih =>
    rw [List.map_cons, List.map_cons, ← ih]
    cases hm : write m.2 with
    | null => exact absurd hm (h m.2)
    | _ => rfl

end Json

namespace Checked

variable {α : Type} {read : Json → Checked α} {write : α → Json}

/-- What is written item by item is read back. -/
theorem items_map (h : ∀ a, read (write a) = .accepted a) (l : List α) (i : Nat) :
    items read i (l.map write) = .accepted l := by
  induction l generalizing i with
  | nil => rfl
  | cons a l ih =>
    rw [List.map_cons, items, h, ih]
    rfl

theorem members_map (h : ∀ a, read (write a) = .accepted a) (l : List (String × α)) :
    members read (l.map fun m => (m.1, write m.2)) = .accepted l := by
  induction l with
  | nil => rfl
  | cons m l ih =>
    rw [List.map_cons, members, h, ih]
    rfl

end Checked

namespace Table

variable {κ α : Type} [DecidableEq κ]

theorem entries_foldl_put (l : List (κ × α)) (t : Table κ α)
    (h : ((t.entries ++ l).map Prod.fst).Nodup) :
    (l.foldl (fun t e => t.put e.1 e.2) t).entries = t.entries ++ l := by
  induction l generalizing t with
  | nil => simp
  | cons e l ih =>
    have hfresh : e.1 ∉ t.entries.map Prod.fst := by
      intro hmem
      rw [List.map_append, List.nodup_append] at h
      exact h.2.2 _ hmem e.1 (by simp) rfl
    have hput : (t.put e.1 e.2).entries = t.entries ++ [e] := putEntry_of_not_mem hfresh
    rw [List.foldl_cons, ih, hput, List.append_assoc, List.singleton_append]
    rwa [hput, List.append_assoc, List.singleton_append]

/-- A table is what its entries make in order. -/
theorem ofList_entries (t : Table κ α) : ofList t.entries = t := by
  have hentries : (ofList t.entries).entries = t.entries :=
    entries_foldl_put t.entries empty t.nodup_keys
  generalize ofList t.entries = u at hentries
  obtain ⟨l, hl⟩ := t
  obtain ⟨m, hm⟩ := u
  subst hentries
  rfl

omit [DecidableEq κ] in
theorem lookup_entries (t : Table String α) (write : α → Json) (key : String) :
    (t.entries.map fun e => (e.1, write e.2)).lookup key = (t.get? key).map write := by
  unfold get?
  induction t.entries with
  | nil => rfl
  | cons e l ih =>
    rw [List.map_cons, List.lookup_cons, List.find?_cons]
    by_cases h : e.1 = key
    · simp [h]
    · have h' : (key == e.1) = false := beq_eq_false_iff_ne.2 fun he => h he.symm
      simp [h, h', ih]

end Table

namespace Targeting

/-! ## Parts of a document -/

theorem Condition.ofJson_toJson (c : Condition) : Condition.ofJson c.toJson = .accepted c := by
  have hsubject : attributeOf (.string c.subject.name) = .accepted c.subject := by
    simp only [attributeOf, Checked.choice, Attribute.ofName?_name]
  have hattribute : attributeField.required attributeOf
      [("attribute", .string c.subject.name), ("equals", .string c.equals)] =
        .accepted c.subject :=
    Field.required_of_find? rfl hsubject
  simp only [Condition.ofJson, Condition.toJson, Checked.record, hattribute]
  rfl

theorem variantOf_name (v : Variant) : variantOf (.string v.name) = .accepted v := by
  simp only [variantOf, Checked.choice, Variant.ofName?_name]

/-- The members of a rule as it is published. -/
def Rule.members (r : Rule) : List (String × Json) :=
  match r.condition with
  | none => [("variant", .string r.variant.name)]
  | some c => [("condition", c.toJson), ("variant", .string r.variant.name)]

theorem Rule.publish_eq (r : Rule) : r.publish = .object r.members := by
  obtain ⟨_ | c, variant⟩ := r <;> rfl

theorem Rule.ofJson_publish (r : Rule) : Rule.ofJson r.publish = .accepted r := by
  have hcondition : conditionField.withDefault none (Checked.nullable Condition.ofJson) r.members =
      .accepted r.condition := by
    obtain ⟨_ | c, variant⟩ := r
    · rfl
    · have hread : Checked.nullable Condition.ofJson c.toJson = .accepted (some c) :=
        Checked.nullable_of_ne_null (by simp [Condition.toJson]) (Condition.ofJson_toJson c)
      exact Field.withDefault_of_find? rfl hread
  have hvariant : variantField.required variantOf r.members = .accepted r.variant := by
    obtain ⟨_ | c, variant⟩ := r
    · exact Field.required_of_find? rfl (variantOf_name _)
    · exact Field.required_of_find? rfl (variantOf_name _)
  simp only [Rule.publish_eq, Rule.ofJson, Checked.record, hcondition, hvariant]
  rfl

/-- The rules of a flag as they are published. -/
def publishRules (rules : List Rule) : Json := .object [("rules", .array (rules.map Rule.publish))]

theorem dropNulls_rulesJson (rules : List Rule) :
    (rulesJson rules).dropNulls = publishRules rules := by
  have hitems : Json.dropNullsItems (rules.map Rule.toJson) = rules.map Rule.publish := by
    rw [Json.dropNullsItems_eq_map, List.map_map]
    rfl
  simp only [rulesJson, publishRules, ← hitems]
  rfl

theorem rulesOf_publishRules (rules : List Rule) :
    rulesOf (publishRules rules) = .accepted rules := by
  have hlist : listOf Rule.ofJson (.array (rules.map Rule.publish)) = .accepted rules :=
    Checked.items_map Rule.ofJson_publish rules 0
  have hfield : rulesField.required (listOf Rule.ofJson)
      [("rules", .array (rules.map Rule.publish))] = .accepted rules :=
    Field.required_of_find? rfl hlist
  exact hfield

theorem Variants.ofJson_toJson (v : Variants) : Variants.ofJson v.toJson = .accepted v := rfl

/-- A flag as it is published. -/
def Flag.publish (f : Flag) : Json := f.toJson.dropNulls

/-- The members of a flag as it is published. -/
def Flag.members (f : Flag) : List (String × Json) :=
  [("state", .string enabled), ("variants", f.variants.toJson),
    ("defaultVariant", .string f.defaultVariant.name)] ++
    match f.targeting with
    | none => []
    | some rules => [("targeting", publishRules rules)]

theorem Flag.publish_eq (f : Flag) : f.publish = .object f.members := by
  obtain ⟨variants, default, _ | rules⟩ := f
  · rfl
  · simp only [Flag.members, ← dropNulls_rulesJson]
    rfl

theorem Flag.ofJson_publish (f : Flag) : Flag.ofJson f.publish = .accepted f := by
  have hstate : stateField.withDefault () enabledOf f.members = .accepted () :=
    Field.withDefault_of_find? rfl rfl
  have hvariants : variantsField.withDefault .standard Variants.ofJson f.members =
      .accepted f.variants :=
    Field.withDefault_of_find? rfl (Variants.ofJson_toJson _)
  have hdefault : defaultVariantField.withDefault .off variantOf f.members =
      .accepted f.defaultVariant :=
    Field.withDefault_of_find? rfl (variantOf_name _)
  have htargeting : targetingField.withDefault none (Checked.nullable rulesOf) f.members =
      .accepted f.targeting := by
    obtain ⟨variants, default, _ | rules⟩ := f
    · rfl
    · have hread : Checked.nullable rulesOf (publishRules rules) = .accepted (some rules) :=
        Checked.nullable_of_ne_null (by simp [publishRules]) (rulesOf_publishRules rules)
      exact Field.withDefault_of_find? rfl hread
  simp only [Flag.publish_eq, Flag.ofJson, Checked.record, hstate, hvariants, hdefault, htargeting]
  rfl

/-! ## The whole document -/

/-- The flags of a document as they are published. -/
def Document.members (d : Document) : List (String × Json) :=
  d.flags.entries.map fun e => (e.1, e.2.publish)

theorem Document.toJson_eq (d : Document) :
    d.toJson = .object [("$schema", .string schemaUrl), ("flags", .object d.members)] := by
  have hmembers := Json.dropNullsMembers_eq_map Flag.toJson nofun d.flags.entries
  simp only [Document.members, Flag.publish, ← hmembers]
  rfl

/-- **Nothing is lost in publication.** A published document is read as the document it is. -/
theorem Document.ofJson_toJson (d : Document) : Document.ofJson d.toJson = .accepted d := by
  have hflags : flagsOf (.object d.members) = .accepted d.flags := by
    simp only [flagsOf, Document.members, Checked.members_map Flag.ofJson_publish, Checked.map,
      Table.ofList_entries]
  have hread : flagsField.withDefault .empty flagsOf
      [("$schema", .string schemaUrl), ("flags", .object d.members)] = .accepted d.flags :=
    Field.withDefault_of_find? rfl hflags
  simp only [Document.toJson_eq, Document.ofJson, Checked.record, hread]
  rfl

/-! ## Evaluating what is published -/

/-- Does a published rule match a request that has these attributes? A condition that is absent or
null always holds. -/
def matchesPublished (values : String → Option String) (rule : Json) : Bool :=
  match rule.get? "condition" with
  | none | some .null => true
  | some condition =>
    match condition.get? "attribute", condition.get? "equals" with
    | some (.string subject), some (.string value) => values subject == some value
    | _, _ => false

/-- The rules of a published flag; none when it has no targeting. -/
def publishedRules (flag : Json) : List Json :=
  match (flag.get? "targeting").bind fun targeting => targeting.get? "rules" with
  | some (.array rules) => rules
  | _ => []

/-- The variant of the first published rule that matches, or else the default variant. -/
def publishedVariant? (values : String → Option String) (flag : Json) : Option Json :=
  match (publishedRules flag).find? (matchesPublished values) with
  | some rule => rule.get? "variant"
  | none => flag.get? "defaultVariant"

/-- The variant that a published document gives a request for a flag. -/
def evaluatePublished? (document : Json) (key : String) (values : String → Option String) :
    Option Json :=
  ((document.get? "flags").bind fun flags => flags.get? key).bind (publishedVariant? values)

theorem matchesPublished_publish (values : String → Option String) (r : Rule) :
    matchesPublished values r.publish = r.applies (.ofNames values) := by
  obtain ⟨_ | c, variant⟩ := r <;> rfl

theorem publishedRules_publish (f : Flag) :
    publishedRules f.publish = (f.targeting.getD []).map Rule.publish := by
  rw [Flag.publish_eq]
  obtain ⟨variants, default, _ | rules⟩ := f <;> rfl

theorem get?_variant_publish (r : Rule) :
    r.publish.get? "variant" = some (.string r.variant.name) := by
  obtain ⟨_ | c, variant⟩ := r <;> rfl

theorem publishedVariant?_publish (values : String → Option String) (f : Flag) :
    publishedVariant? values f.publish = some (.string (f.evaluate (.ofNames values)).name) := by
  have hfirst : (publishedRules f.publish).find? (matchesPublished values) =
      ((f.targeting.getD []).find? fun r => r.applies (.ofNames values)).map Rule.publish := by
    rw [publishedRules_publish, List.find?_map]
    simp only [Function.comp_def, matchesPublished_publish]
  have hdefault : f.publish.get? "defaultVariant" = some (.string f.defaultVariant.name) := by
    rw [Flag.publish_eq]
    rfl
  rw [publishedVariant?, hfirst]
  obtain ⟨variants, default, _ | rules⟩ := f
  · exact hdefault
  · simp only [Option.getD_some, Flag.evaluate, Option.bind_some, firstMatch]
    cases rules.find? fun r => r.applies (.ofNames values) with
    | none => exact hdefault
    | some r => exact get?_variant_publish r

theorem evaluatePublished?_toJson (d : Document) (key : String) (values : String → Option String) :
    evaluatePublished? d.toJson key values =
      (d.evaluate? key (.ofNames values)).map fun v => .string v.name := by
  have hflag : (d.toJson.get? "flags").bind (fun flags => flags.get? key) =
      (d.flags.get? key).map Flag.publish := by
    rw [Document.toJson_eq]
    exact d.flags.lookup_entries Flag.publish key
  rw [evaluatePublished?, hflag, Document.evaluate?]
  cases d.flags.get? key with
  | none => rfl
  | some f => exact publishedVariant?_publish values f

/-- **A compiled document can be published.** Its JSON is read back as the document, flag by flag
and rule by rule, and evaluating the JSON gives every request the variant that the document gives
it. -/
theorem ofJson_compile (features : List Feature) (states : List FeatureState) :
    Document.ofJson (compile features states).toJson = .accepted (compile features states) ∧
      ∀ (key : String) (values : String → Option String),
        evaluatePublished? (compile features states).toJson key values =
          ((compile features states).evaluate? key (.ofNames values)).map fun v =>
            .string v.name :=
  ⟨Document.ofJson_toJson _, evaluatePublished?_toJson _⟩

end Targeting

end FeatureFlags
