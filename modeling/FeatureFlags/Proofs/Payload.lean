import FeatureFlags.Proofs.Validation
import FeatureFlags.Store.Operation

/-!
# Payloads that passed validation

What a store may rely on: the keys that drafts and patches give are `Text.Tidy`, and the context
identifiers are the ones that go with the context type (`ContextType.Fits`). `Operation.Validated`
says that the payload of an operation was read by its reader, from whatever data; all that is needed
of it is that it is `Operation.Tidy`.
-/

namespace FeatureFlags

/-- A text that is not empty, has no white ends and has at most 255 characters. -/
structure Text.Tidy (s : String) : Prop where
  nonempty : s ≠ ""
  trimmed : Text.trim Text.isWhite s = s
  length_le : s.length ≤ 255

/-- None for everyone, and a tidy text for an organization or a workspace. -/
def ContextType.Fits (type : ContextType) (id : Option String) : Prop :=
  match type with
  | .global => id = none
  | _ => ∃ s, id = some s ∧ Text.Tidy s

theorem ContextType.fits_iff {type : ContextType} {id : Option String} :
    type.Fits id ↔
      type = .global ∧ id = none ∨ type ≠ .global ∧ ∃ s, id = some s ∧ Text.Tidy s := by
  cases type <;> simp [Fits]

theorem ContextType.Fits.ne_blank {type : ContextType} {id : Option String} (h : type.Fits id) :
    id ≠ some "" := by
  rcases fits_iff.1 h with ⟨-, rfl⟩ | ⟨-, c, rfl, htidy⟩
  · exact nofun
  · exact fun he => htidy.nonempty (Option.some.inj he)

/-- Identifiers that are given only when they are not empty are equal once a missing one counts as
empty and they are equal then. -/
theorem eq_of_getD_blank {id id' : Option String} (h : id ≠ some "") (h' : id' ≠ some "")
    (he : id.getD "" = id'.getD "") : id = id' := by
  cases id <;> cases id' <;> simp_all

theorem ContextType.normalize_eq_ok {type : ContextType} {id id' : Option String}
    (h : type.normalize id = .ok id') :
    type = .global ∧ id' = none ∨ type ≠ .global ∧ ∃ s, s ≠ "" ∧ id = some s ∧ id' = some s := by
  unfold normalize at h
  cases type with
  | global => cases h; simp
  | organization | workspace =>
    cases id with
    | none => cases h
    | some s =>
      by_cases hs : s = ""
      · simp [hs] at h
      · simp only [String.isEmpty_iff, hs, if_false, Except.ok.injEq] at h
        exact .inr ⟨by simp, s, hs, rfl, h.symm⟩

namespace Checked

theorem tidy_of_nameBounds {v : Json} {s : String}
    (h : text Feature.nameBounds v = .accepted s) : Text.Tidy s := by
  obtain ⟨htrim, hlen⟩ := text_eq_accepted h
  obtain ⟨hleast, hmost⟩ := flaw?_eq_none hlen
  refine ⟨fun e => ?_, htrim, hmost 255 rfl⟩
  have := hleast 1 rfl
  rw [e] at this
  simp at this

theorem tidy_of_contextIdBounds {v : Json} {s : String}
    (h : text FeatureState.contextIdBounds v = .accepted s) (hs : s ≠ "") : Text.Tidy s := by
  obtain ⟨htrim, hlen⟩ := text_eq_accepted h
  exact ⟨hs, htrim, (flaw?_eq_none hlen).2 255 rfl⟩

theorem shaped_eq_accepted {α : Type} {o : List (String × Json)}
    {r : Except FeatureState.ShapeError α} {a : α} :
    FeatureState.shaped o r = .accepted a ↔ r = .ok a := by
  cases r <;> simp [FeatureState.shaped, flawed]

end Checked

/-- The context identifier that a payload is left with fits its type. -/
theorem ContextType.fits_of_normalize {type : ContextType} {id id' : Option String}
    {o : List (String × Json)}
    (hid : FeatureState.contextIdField.withDefault none
      (Checked.nullable (Checked.text FeatureState.contextIdBounds)) o = .accepted id)
    (h : type.normalize id = .ok id') : type.Fits id' := by
  rw [fits_iff]
  rcases normalize_eq_ok h with h | ⟨ht, s, hs, rfl, rfl⟩
  · exact .inl h
  · obtain ⟨v, hv⟩ := Field.optional_eq_accepted hid s rfl
    exact .inr ⟨ht, s, rfl, Checked.tidy_of_contextIdBounds hv hs⟩

/-! ## Drafts and patches -/

theorem Feature.Draft.tidy_of_ofJson {v : Json} {d : Feature.Draft}
    (h : Feature.Draft.ofJson v = .accepted d) : Text.Tidy d.key ∧ Text.Tidy d.name := by
  obtain ⟨o, -, h⟩ := Checked.record_eq_accepted.1 h
  obtain ⟨f₂, _, h₂, -, rfl⟩ := Checked.ap_eq_accepted.1 h
  obtain ⟨f₁, name, h₁, hname, rfl⟩ := Checked.ap_eq_accepted.1 h₂
  obtain ⟨key, hkey, rfl⟩ := Checked.map_eq_accepted.1 h₁
  obtain ⟨_, hkey⟩ := Field.required_eq_accepted hkey
  obtain ⟨_, hname⟩ := Field.required_eq_accepted hname
  exact ⟨Checked.tidy_of_nameBounds hkey, Checked.tidy_of_nameBounds hname⟩

theorem Feature.Patch.tidy_of_ofJson {v : Json} {p : Feature.Patch}
    (h : Feature.Patch.ofJson v = .accepted p) :
    (∀ key, p.key = some key → Text.Tidy key) ∧ ∀ name, p.name = some name → Text.Tidy name := by
  obtain ⟨o, -, h⟩ := Checked.record_eq_accepted.1 h
  obtain ⟨f₂, _, h₂, -, rfl⟩ := Checked.ap_eq_accepted.1 h
  obtain ⟨f₁, name?, h₁, hname, rfl⟩ := Checked.ap_eq_accepted.1 h₂
  obtain ⟨key?, hkey, rfl⟩ := Checked.map_eq_accepted.1 h₁
  refine ⟨fun key e => ?_, fun name e => ?_⟩
  · obtain ⟨_, hkey⟩ := Field.optional_eq_accepted hkey key e
    exact Checked.tidy_of_nameBounds hkey
  · obtain ⟨_, hname⟩ := Field.optional_eq_accepted hname name e
    exact Checked.tidy_of_nameBounds hname

/-- A patch says what the object gives: a key and a name that are left out or null are not there, and
a description is there unless it is left out. -/
structure Feature.Patch.TakenFrom (p : Feature.Patch) (o : List (String × Json)) : Prop where
  key : ∃ given, keyField.Gives o given ∧ p.key = given.join
  name : ∃ given, nameField.Gives o given ∧ p.name = given.join
  description : descriptionField.Gives o p.description

theorem Feature.Patch.takenFrom_of_ofJson {o : List (String × Json)} {p : Feature.Patch}
    (h : Feature.Patch.ofJson (.object o) = .accepted p) : p.TakenFrom o := by
  obtain ⟨f₂, description, h₂, hdescription, rfl⟩ := Checked.ap_eq_accepted.1 h
  obtain ⟨f₁, name, h₁, hname, rfl⟩ := Checked.ap_eq_accepted.1 h₂
  obtain ⟨key, hkey, rfl⟩ := Checked.map_eq_accepted.1 h₁
  refine ⟨Field.gives_of_optional hkey, Field.gives_of_optional hname, ?_⟩
  unfold Field.withDefault at hdescription
  split at hdescription
  · rename_i hf
    obtain ⟨given, hgiven, rfl⟩ :=
      Checked.map_eq_accepted.1 (Checked.under_eq_accepted.1 hdescription)
    exact Field.gives_of_nullable hf hgiven
  · rename_i hf
    cases hdescription
    exact .nothing hf

theorem FeatureState.Draft.fits_of_ofJson {v : Json} {d : FeatureState.Draft}
    (h : FeatureState.Draft.ofJson v = .accepted d) : d.contextType.Fits d.contextId := by
  obtain ⟨o, -, h⟩ := Checked.record_eq_accepted.1 h
  obtain ⟨raw, h, hd⟩ := Checked.andThen_eq_accepted.1 h
  obtain ⟨f₄, state, h₄, -, rfl⟩ := Checked.ap_eq_accepted.1 h
  obtain ⟨f₃, id, h₃, hid, rfl⟩ := Checked.ap_eq_accepted.1 h₄
  obtain ⟨f₂, type, h₂, -, rfl⟩ := Checked.ap_eq_accepted.1 h₃
  obtain ⟨f₁, key, h₁, -, rfl⟩ := Checked.ap_eq_accepted.1 h₂
  obtain ⟨owner, -, rfl⟩ := Checked.map_eq_accepted.1 h₁
  have hn := Checked.shaped_eq_accepted.1 hd
  unfold FeatureState.Draft.normalize at hn
  split at hn
  · cases hn
  · split at hn
    · rename_i hok
      cases hn
      exact ContextType.fits_of_normalize hid hok
    · cases hn

theorem FeatureState.Patch.fits_of_ofJson {v : Json} {p : FeatureState.Patch}
    (h : FeatureState.Patch.ofJson v = .accepted p) : p.contextType.Fits p.contextId := by
  obtain ⟨o, -, h⟩ := Checked.record_eq_accepted.1 h
  obtain ⟨raw, h, hp⟩ := Checked.andThen_eq_accepted.1 h
  obtain ⟨f₃, state, h₃, -, rfl⟩ := Checked.ap_eq_accepted.1 h
  obtain ⟨f₂, id, h₂, hid, rfl⟩ := Checked.ap_eq_accepted.1 h₃
  obtain ⟨f₁, type, h₁, -, rfl⟩ := Checked.ap_eq_accepted.1 h₂
  obtain ⟨owner, -, rfl⟩ := Checked.map_eq_accepted.1 h₁
  have hn := Checked.shaped_eq_accepted.1 hp
  unfold FeatureState.Patch.normalize at hn
  split at hn
  · rename_i hok
    cases hn
    exact ContextType.fits_of_normalize hid hok
  · cases hn

/-! ## Operations -/

/-- The payload of the operation, if it has one, was read from some data. -/
def Operation.Validated : Operation → Prop
  | .createFeature d => ∃ v, Feature.Draft.ofJson v = .accepted d
  | .updateFeature _ p => ∃ v, Feature.Patch.ofJson v = .accepted p
  | .createState d => ∃ v, FeatureState.Draft.ofJson v = .accepted d
  | .updateState _ p => ∃ v, FeatureState.Patch.ofJson v = .accepted p
  | _ => True

/-- What a store relies on: the texts that the payload gives are tidy, and its context identifier
fits. -/
def Operation.Tidy : Operation → Prop
  | .createFeature d => Text.Tidy d.key ∧ Text.Tidy d.name
  | .updateFeature _ p =>
    (∀ key, p.key = some key → Text.Tidy key) ∧ ∀ name, p.name = some name → Text.Tidy name
  | .createState d => d.contextType.Fits d.contextId
  | .updateState _ p => p.contextType.Fits p.contextId
  | _ => True

theorem Operation.Validated.tidy {op : Operation} (h : op.Validated) : op.Tidy := by
  cases op with
  | createFeature d => exact h.elim fun _ hd => Feature.Draft.tidy_of_ofJson hd
  | updateFeature id p => exact h.elim fun _ hp => Feature.Patch.tidy_of_ofJson hp
  | createState d => exact h.elim fun _ hd => FeatureState.Draft.fits_of_ofJson hd
  | updateState id p => exact h.elim fun _ hp => FeatureState.Patch.fits_of_ofJson hp
  | listFeatures | listStates | getFeature | getFeatureByKey | deleteFeature | deleteState => trivial

end FeatureFlags
