import FeatureFlags.Proofs.Payload.Grammar
import FeatureFlags.Proofs.Timestamp

/-!
# Records as they are written

What was read once is read again from its own JSON, as the same record (`records_read_back`). Stored
features and states are read back whatever they hold. The texts of drafts and patches are changed
when they are read; but what reading gives is `Settled`, and reading leaves what is settled alone.

Only one thing is not told from the JSON of a record: a patch that leaves the description as it is
is written like one that takes it away.
-/

namespace FeatureFlags

/-- The members of an object; anything else has none. -/
def Json.members : Json → List (String × Json)
  | .object members => members
  | _ => []

/-! ## Single values -/

namespace Checked

theorem timestamp_toText (t : Timestamp) : timestamp (.string t.toText) = .accepted t := by
  have hread : Timestamp.read t.toText.toList = .ok t := by
    rw [Timestamp.toText, String.toList_ofList]
    exact Timestamp.read_textOf t
  simp only [timestamp, hread]

theorem nullable_timestampJson (t : Option Timestamp) :
    nullable timestamp (Feature.timestampJson t) = .accepted t := by
  cases t with
  | none => rfl
  | some t =>
    have htext : Feature.timestampJson (some t) = .string t.toText := by
      simp only [Feature.timestampJson, Json.ofOption, Option.map_some]
    rw [htext]
    exact nullable_of_ne_null (by simp) (timestamp_toText t)

/-- A trimmed text of the right length is read as it is. -/
theorem text_string {b : Bounds} {s : String} (htrim : Text.trim Text.isWhite s = s)
    (hlen : b.flaw? s.length = none) : text b (.string s) = .accepted s := by
  simp only [text, string, andThen, htrim, hlen]

theorem text_of_tidy {s : String} (h : Text.Tidy s) :
    text Feature.nameBounds (.string s) = .accepted s := by
  have hpos : s.length ≠ 0 := fun hzero => h.nonempty (String.length_eq_zero_iff.1 hzero)
  have hleast : ¬ s.length < 1 := by omega
  have hmost : ¬ 255 < s.length := Nat.not_lt.2 h.length_le
  exact text_string h.trimmed (by simp [Bounds.flaw?, Feature.nameBounds, hleast, hmost])

theorem nullable_text_of_isTrimmed {o : Option String} (h : IsTrimmed o) :
    nullable (text {}) (.ofOption o) = .accepted o :=
  nullable_ofOption fun s hs => text_string (h s hs) rfl

theorem record_of_object {α : Type} {model : String} {read : List (String × Json) → Checked α}
    {v : Json} (h : v = .object v.members) : record model read v = read v.members := by
  rw [h]
  rfl

theorem contextTypeOf_name (type : ContextType) :
    FeatureState.contextTypeOf (.string type.name) = .accepted type := by
  simp only [FeatureState.contextTypeOf, choice, ContextType.ofName?_name]

end Checked

/-- A stored time that may be missing is read as it is. -/
theorem Field.timestamp_of_find? {f : Field} {o : List (String × Json)} {name : String}
    {t : Option Timestamp} (hf : f.find? o = some (name, Feature.timestampJson t)) :
    f.withDefault none (Checked.nullable Checked.timestamp) o = .accepted t :=
  Field.withDefault_of_find? hf (Checked.nullable_timestampJson t)

/-! ## Stored records -/

theorem Feature.ofJson_toJson (f : Feature) : Feature.ofJson f.toJson = .accepted f := by
  have hdescription : descriptionField.withDefault none (Checked.nullable Checked.string)
      f.toJson.members = .accepted f.description :=
    Field.string_of_find? rfl
  have hcreated : createdAtField.withDefault none (Checked.nullable Checked.timestamp)
      f.toJson.members = .accepted f.createdAt :=
    Field.timestamp_of_find? rfl
  have hupdated : updatedAtField.withDefault none (Checked.nullable Checked.timestamp)
      f.toJson.members = .accepted f.updatedAt :=
    Field.timestamp_of_find? rfl
  rw [Feature.ofJson, Checked.record_of_object rfl, hdescription, hcreated, hupdated]
  rfl

theorem FeatureState.ofJson_toJson (s : FeatureState) :
    FeatureState.ofJson s.toJson = .accepted s := by
  have hid : idField.withDefault none (Checked.nullable Checked.string) s.toJson.members =
      .accepted s.id :=
    Field.string_of_find? rfl
  have hfeatureId : featureIdField.withDefault none (Checked.nullable Checked.string)
      s.toJson.members = .accepted s.featureId :=
    Field.string_of_find? rfl
  have hfeatureKey : featureKeyField.withDefault none (Checked.nullable Checked.string)
      s.toJson.members = .accepted s.featureKey :=
    Field.string_of_find? rfl
  have htype : contextTypeField.required contextTypeOf s.toJson.members =
      .accepted s.contextType :=
    Field.required_of_find? rfl (Checked.contextTypeOf_name _)
  have hcontextId : contextIdField.withDefault none (Checked.nullable Checked.string)
      s.toJson.members = .accepted s.contextId :=
    Field.string_of_find? rfl
  have hcreated : Feature.createdAtField.withDefault none (Checked.nullable Checked.timestamp)
      s.toJson.members = .accepted s.createdAt :=
    Field.timestamp_of_find? rfl
  have hupdated : Feature.updatedAtField.withDefault none (Checked.nullable Checked.timestamp)
      s.toJson.members = .accepted s.updatedAt :=
    Field.timestamp_of_find? rfl
  rw [FeatureState.ofJson, Checked.record_of_object rfl, hid, hfeatureId, hfeatureKey, htype,
    hcontextId, hcreated, hupdated]
  rfl

/-! ## Drafts and patches of features -/

/-- What reading leaves alone: tidy names and a trimmed description. -/
structure Feature.Draft.Settled (d : Feature.Draft) : Prop where
  key : Text.Tidy d.key
  name : Text.Tidy d.name
  description : IsTrimmed d.description

/-- What reading leaves alone: tidy names and a trimmed description, where they are given. -/
structure Feature.Patch.Settled (p : Feature.Patch) : Prop where
  key : ∀ s, p.key = some s → Text.Tidy s
  name : ∀ s, p.name = some s → Text.Tidy s
  description : IsTrimmed p.description.join

theorem Field.isTrimmed_of_optional {f : Field} {b : Checked.Bounds} {o : List (String × Json)}
    {text : Option String}
    (h : f.withDefault none (Checked.nullable (Checked.text b)) o = .accepted text) :
    IsTrimmed text := by
  intro s hs
  obtain ⟨v, hv⟩ := Field.optional_eq_accepted h s hs
  exact (Checked.text_eq_accepted hv).1

theorem Feature.Draft.settled_of_ofJson {v : Json} {d : Feature.Draft}
    (h : Feature.Draft.ofJson v = .accepted d) : d.Settled := by
  obtain ⟨hkey, hname⟩ := Feature.Draft.tidy_of_ofJson h
  refine ⟨hkey, hname, ?_⟩
  obtain ⟨o, -, h⟩ := Checked.record_eq_accepted.1 h
  obtain ⟨f₂, description, h₂, hdescription, rfl⟩ := Checked.ap_eq_accepted.1 h
  obtain ⟨f₁, name, h₁, -, rfl⟩ := Checked.ap_eq_accepted.1 h₂
  obtain ⟨key, -, rfl⟩ := Checked.map_eq_accepted.1 h₁
  exact Field.isTrimmed_of_optional hdescription

theorem Feature.Draft.Settled.ofJson_toJson {d : Feature.Draft} (h : d.Settled) :
    Feature.Draft.ofJson d.toJson = .accepted d := by
  have hkey : keyField.required (Checked.text nameBounds) d.toJson.members = .accepted d.key :=
    Field.required_of_find? rfl (Checked.text_of_tidy h.key)
  have hname : nameField.required (Checked.text nameBounds) d.toJson.members = .accepted d.name :=
    Field.required_of_find? rfl (Checked.text_of_tidy h.name)
  have hdescription : descriptionField.withDefault none (Checked.nullable (Checked.text {}))
      d.toJson.members = .accepted d.description :=
    Field.withDefault_of_find? rfl (Checked.nullable_text_of_isTrimmed h.description)
  rw [Feature.Draft.ofJson, Checked.record_of_object rfl, Feature.Draft.ofMembers, hkey, hname,
    hdescription]
  rfl

theorem Feature.Patch.settled_of_ofJson {v : Json} {p : Feature.Patch}
    (h : Feature.Patch.ofJson v = .accepted p) : p.Settled := by
  obtain ⟨hkey, hname⟩ := Feature.Patch.tidy_of_ofJson h
  refine ⟨hkey, hname, ?_⟩
  obtain ⟨o, rfl, -⟩ := Checked.record_eq_accepted.1 h
  have hgives := (Feature.Patch.takenFrom_of_ofJson h).description
  generalize p.description = description at hgives
  cases hgives with
  | nothing | null => exact nofun
  | text =>
    rintro _ ⟨⟩
    exact Text.trim_trim _ _

/-- A description that is left out is read back as one that is taken away. -/
theorem Feature.Patch.Settled.ofJson_toJson {p : Feature.Patch} (h : p.Settled) :
    Feature.Patch.ofJson p.toJson =
      .accepted { p with description := some p.description.join } := by
  have hkey : keyField.withDefault none (Checked.nullable (Checked.text nameBounds))
      p.toJson.members = .accepted p.key :=
    Field.withDefault_of_find? rfl
      (Checked.nullable_ofOption fun s hs => Checked.text_of_tidy (h.key s hs))
  have hname : nameField.withDefault none (Checked.nullable (Checked.text nameBounds))
      p.toJson.members = .accepted p.name :=
    Field.withDefault_of_find? rfl
      (Checked.nullable_ofOption fun s hs => Checked.text_of_tidy (h.name s hs))
  have hread : Checked.nullable (Checked.text {}) (.ofOption p.description.join) =
      .accepted p.description.join :=
    Checked.nullable_text_of_isTrimmed h.description
  have hdescription : descriptionField.withDefault none
      (fun v => (Checked.nullable (Checked.text {}) v).map some) p.toJson.members =
        .accepted (some p.description.join) :=
    Field.withDefault_of_find? rfl (congrArg (Checked.map some) hread)
  rw [Feature.Patch.ofJson, Checked.record_of_object rfl, Feature.Patch.ofMembers, hkey, hname,
    hdescription]
  rfl

/-! ## Drafts and patches of feature states -/

theorem textMeans_ofOption {most : Option Nat} {text : Option String} (htrim : IsTrimmed text)
    (hmost : ∀ n, most = some n → ∀ s, text = some s → s.length ≤ n) :
    TextMeans most (.ofOption text) text := by
  cases text with
  | none => exact .null
  | some s =>
    have hs := htrim s rfl
    have hmeans : TextMeans most (.string s) (some (Text.trim Text.isWhite s)) := by
      refine .string fun n hn => ?_
      rw [hs]
      exact hmost n hn s rfl
    rwa [hs] at hmeans

theorem textMeans_of_fits {type : ContextType} {id : Option String} (h : type.Fits id) :
    TextMeans (some 255) (.ofOption id) id := by
  rcases ContextType.fits_iff.1 h with ⟨-, rfl⟩ | ⟨-, s, rfl, htidy⟩
  · exact .null
  · refine textMeans_ofOption ?_ ?_
    · rintro _ ⟨⟩
      exact htidy.trimmed
    · rintro _ ⟨⟩ _ ⟨⟩
      exact htidy.length_le

namespace FeatureState

/-- What fits needs no change, and nothing is missing from it. -/
theorem settled_of_fits {type : ContextType} {id : Option String} (h : type.Fits id) :
    settledContextId type id = id ∧ ¬ LacksContextId type id := by
  rcases ContextType.fits_iff.1 h with ⟨rfl, rfl⟩ | ⟨htype, s, rfl, htidy⟩
  · exact ⟨rfl, fun hlacks => hlacks.1 rfl⟩
  · refine ⟨if_neg htype, ?_⟩
    rintro ⟨-, hnone | hempty⟩
    · cases hnone
    · exact htidy.nonempty (Option.some.inj hempty)

/-- What reading leaves alone: a draft that names an owner, with trimmed texts and the context
identifier that fits. -/
structure Draft.Settled (d : Draft) : Prop where
  featureId : IsTrimmed d.featureId
  featureKey : IsTrimmed d.featureKey
  owner : d.NamesOwner
  contextId : d.contextType.Fits d.contextId

/-- What reading leaves alone: a trimmed owner and the context identifier that fits. -/
structure Patch.Settled (p : Patch) : Prop where
  featureId : IsTrimmed p.featureId
  contextId : p.contextType.Fits p.contextId

theorem Draft.settled_of_ofJson {v : Json} {d : Draft} (h : Draft.ofJson v = .accepted d) :
    d.Settled := by
  have hfits := Draft.fits_of_ofJson h
  cases (Draft.form_isReadBy.accepted v d).1 h with
  | @mk o raw hholds hfine =>
    have howner : raw.NamesOwner := not_not.1 fun hnone => hfine _ (.noOwner hnone)
    exact ⟨isTrimmed_of_holds hholds.featureId, isTrimmed_of_holds hholds.featureKey, howner, hfits⟩

theorem Patch.settled_of_ofJson {v : Json} {p : Patch} (h : Patch.ofJson v = .accepted p) :
    p.Settled := by
  have hfits := Patch.fits_of_ofJson h
  cases (Patch.form_isReadBy.accepted v p).1 h with
  | mk hholds _ => exact ⟨isTrimmed_of_holds hholds.featureId, hfits⟩

theorem Draft.Settled.ofJson_toJson {d : Draft} (h : d.Settled) :
    Draft.ofJson d.toJson = .accepted d := by
  obtain ⟨hsettled, hcontext⟩ := settled_of_fits h.contextId
  have hholds : d.HeldBy d.toJson.members :=
    { featureId := .given (.first rfl) (textMeans_ofOption h.featureId nofun)
      featureKey := .given (.first rfl) (textMeans_ofOption h.featureKey nofun)
      contextType := .given (.first rfl) rfl
      contextId := .given (.first rfl) (textMeans_of_fits h.contextId)
      state := .given (.first rfl) (.bool d.state) }
  have hfine : ∀ reason, ¬ d.Objection reason := by
    intro reason hobjection
    cases hobjection with
    | noOwner hnone => exact hnone h.owner
    | noContextId _ hlacks => exact hcontext hlacks
  have haccepts : form.Accepts d.toJson (form.settle d) := .mk hholds hfine
  have hsettle : form.settle d = d := by
    simp only [form, hsettled]
  rw [hsettle] at haccepts
  exact (Draft.form_isReadBy.accepted _ _).2 haccepts

theorem Patch.Settled.ofJson_toJson {p : Patch} (h : p.Settled) :
    Patch.ofJson p.toJson = .accepted p := by
  obtain ⟨hsettled, hcontext⟩ := settled_of_fits h.contextId
  have hholds : p.HeldBy p.toJson.members :=
    { featureId := .given (.first rfl) (textMeans_ofOption h.featureId nofun)
      contextType := .given (.first rfl) rfl
      contextId := .given (.first rfl) (textMeans_of_fits h.contextId)
      state := .given (.first rfl) (.bool p.state) }
  have hfine : ∀ reason, ¬ p.Objection reason := by
    intro reason hobjection
    cases hobjection with
    | noContextId hlacks => exact hcontext hlacks
  have haccepts : form.Accepts p.toJson (form.settle p) := .mk hholds hfine
  have hsettle : form.settle p = p := by
    simp only [form, hsettled]
  rw [hsettle] at haccepts
  exact (Patch.form_isReadBy.accepted _ _).2 haccepts

end FeatureState

/-! ## All records -/

/-- Two patches have the same values. A description that is left out has the value of one that is
taken away. -/
structure Feature.Patch.SameValues (p q : Feature.Patch) : Prop where
  key : p.key = q.key
  name : p.name = q.name
  description : p.description.join = q.description.join

/-- **What was read is read back.** Whatever data a record was read from, its own JSON is read as
the same record. -/
theorem records_read_back (v : Json) :
    (∀ f, Feature.ofJson v = .accepted f → Feature.ofJson f.toJson = .accepted f) ∧
      (∀ s, FeatureState.ofJson v = .accepted s → FeatureState.ofJson s.toJson = .accepted s) ∧
      (∀ d, Feature.Draft.ofJson v = .accepted d → Feature.Draft.ofJson d.toJson = .accepted d) ∧
      (∀ p, Feature.Patch.ofJson v = .accepted p →
        ∃ q, Feature.Patch.ofJson p.toJson = .accepted q ∧ q.SameValues p) ∧
      (∀ d, FeatureState.Draft.ofJson v = .accepted d →
        FeatureState.Draft.ofJson d.toJson = .accepted d) ∧
      ∀ p, FeatureState.Patch.ofJson v = .accepted p →
        FeatureState.Patch.ofJson p.toJson = .accepted p := by
  refine ⟨fun f _ => f.ofJson_toJson, fun s _ => s.ofJson_toJson,
    fun d h => (Feature.Draft.settled_of_ofJson h).ofJson_toJson, fun p h => ?_,
    fun d h => (FeatureState.Draft.settled_of_ofJson h).ofJson_toJson,
    fun p h => (FeatureState.Patch.settled_of_ofJson h).ofJson_toJson⟩
  exact ⟨_, (Feature.Patch.settled_of_ofJson h).ofJson_toJson, rfl, rfl, rfl⟩

/-- A time with a fraction and an offset, a count of seconds, a date, texts with white ends, and a
context identifier that does not go with its type. -/
theorem records_read_back_changed :
    (∃ f,
      Feature.ofJson (.object
          [("id", .string "ftr_1"), ("key", .string "beta"), ("name", .string "Beta"),
            ("created_at", .string "2024-01-02 03:04:05.25-0130"),
            ("updatedAt", .int 1700000000)]) = .accepted f ∧
        Feature.ofJson f.toJson = .accepted f) ∧
      (∃ s,
        FeatureState.ofJson (.object
            [("featureId", .string "ftr_1"), ("contextType", .string "global"), ("state", .int 1),
              ("createdAt", .string "2024-02-29")]) = .accepted s ∧
          FeatureState.ofJson s.toJson = .accepted s) ∧
      ∃ d,
        FeatureState.Draft.ofJson (.object
            [("feature_key", .string " beta "), ("contextType", .string "global"),
              ("contextId", .string "ws_1"), ("state", .string "no")]) = .accepted d ∧
          FeatureState.Draft.ofJson d.toJson = .accepted d := by
  refine ⟨Exists.imp (fun f h => ⟨h, (records_read_back _).1 f h⟩) ?_,
    Exists.imp (fun s h => ⟨h, (records_read_back _).2.1 s h⟩) ?_,
    Exists.imp (fun d h => ⟨h, (records_read_back _).2.2.2.2.1 d h⟩) ?_⟩
  · exact ⟨⟨"ftr_1", "beta", "Beta", none,
      some ⟨⟨2024, 1, 2, 3, 4, 5, 250000, some (-90)⟩, by decide⟩,
      some ⟨⟨2023, 11, 14, 22, 13, 20, 0, some 0⟩, by decide⟩⟩, rfl⟩
  · exact ⟨⟨none, some "ftr_1", none, .global, none, true,
      some ⟨⟨2024, 2, 29, 0, 0, 0, 0, none⟩, by decide⟩, none⟩, rfl⟩
  · exact ⟨⟨none, some "beta", .global, none, false⟩, rfl⟩

end FeatureFlags
