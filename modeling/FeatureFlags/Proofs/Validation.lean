import FeatureFlags.Validation.Fields
import FeatureFlags.Validation.Values
import FeatureFlags.Proofs.Text

/-!
# What an accepted value was read from

Inversion of the combinators: a composed reading accepts a value exactly when its parts do. With
these the shape of a record is found by taking its reader apart from the outside in.
-/

namespace FeatureFlags

namespace Checked

variable {α β : Type}

/-- The value that was accepted, if one was. -/
def accepted? : Checked α → Option α
  | .accepted a => some a
  | .rejected _ => none

theorem accepted?_eq_some {c : Checked α} {a : α} : c.accepted? = some a ↔ c = .accepted a := by
  cases c <;> simp [accepted?]

theorem map_eq_accepted {f : α → β} {c : Checked α} {b : β} :
    c.map f = .accepted b ↔ ∃ a, c = .accepted a ∧ f a = b := by
  cases c <;> simp [map]

theorem ap_eq_accepted {f : Checked (α → β)} {c : Checked α} {b : β} :
    f.ap c = .accepted b ↔ ∃ g a, f = .accepted g ∧ c = .accepted a ∧ g a = b := by
  cases f <;> cases c <;> simp [ap]

/-- What holds of all that a reading gives, whatever is read last, holds of what it gives. -/
theorem of_ap_eq_accepted {P : β → Prop} {f : Checked (α → β)} {c : Checked α} {b : β}
    (h : f.ap c = .accepted b) (hf : ∀ g, f = .accepted g → ∀ a, P (g a)) : P b := by
  obtain ⟨g, a, hg, -, rfl⟩ := ap_eq_accepted.1 h
  exact hf g hg a

theorem andThen_eq_accepted {c : Checked α} {f : α → Checked β} {b : β} :
    c.andThen f = .accepted b ↔ ∃ a, c = .accepted a ∧ f a = .accepted b := by
  cases c <;> simp [andThen]

theorem under_eq_accepted {step : Step} {c : Checked α} {a : α} :
    c.under step = .accepted a ↔ c = .accepted a := by
  cases c <;> simp [under]

theorem andThen_eq_rejected {c : Checked α} {f : α → Checked β} {issues : List Issue} :
    c.andThen f = .rejected issues ↔
      c = .rejected issues ∨ ∃ a, c = .accepted a ∧ f a = .rejected issues := by
  cases c <;> simp [andThen]

theorem under_eq_rejected {step : Step} {c : Checked α} {issues : List Issue} :
    c.under step = .rejected issues ↔ ∃ inner, c = .rejected inner ∧
      inner.map (fun i => { i with path := step :: i.path }) = issues := by
  cases c <;> simp [under]

theorem record_eq_accepted {model : String} {read : List (String × Json) → Checked α} {v : Json}
    {a : α} : record model read v = .accepted a ↔ ∃ o, v = .object o ∧ read o = .accepted a := by
  cases v <;> simp [record, flawed]

theorem record_eq_rejected {model : String} {read : List (String × Json) → Checked α} {v : Json}
    {issues : List Issue} :
    record model read v = .rejected issues ↔
      (∃ o, v = .object o ∧ read o = .rejected issues) ∨
        (∀ o, v ≠ .object o) ∧ issues = [⟨.notRecord model, [], v⟩] := by
  cases v <;> simp [record, flawed, eq_comm]

theorem nullable_eq_accepted {read : Json → Checked α} {v : Json} {a? : Option α}
    (h : nullable read v = .accepted a?) : ∀ a, a? = some a → read v = .accepted a := by
  unfold nullable at h
  split at h
  · cases h; simp
  · obtain ⟨a', ha', rfl⟩ := map_eq_accepted.1 h
    rintro a ⟨⟩
    exact ha'

theorem nullable_of_ne_null {read : Json → Checked α} {v : Json} (hv : v ≠ .null) {a : α}
    (h : read v = .accepted a) : nullable read v = .accepted (some a) := by
  cases v with
  | null => exact absurd rfl hv
  | _ => simp only [nullable, h, map]

/-- A text that may be missing is read back, when it is read at all. -/
theorem nullable_ofOption {read : Json → Checked String} {o : Option String}
    (h : ∀ s, o = some s → read (.string s) = .accepted s) :
    nullable read (.ofOption o) = .accepted o := by
  cases o with
  | none => rfl
  | some s =>
    have hread : read (Json.ofOption (some s)) = .accepted s := h s rfl
    exact nullable_of_ne_null (by simp [Json.ofOption]) hread

theorem text_eq_accepted {b : Bounds} {v : Json} {s : String} (h : text b v = .accepted s) :
    Text.trim Text.isWhite s = s ∧ b.flaw? s.length = none := by
  obtain ⟨raw, -, h⟩ := andThen_eq_accepted.1 h
  dsimp only at h
  split at h
  · cases h
  · rename_i hb
    cases h
    exact ⟨Text.trim_trim _ _, hb⟩

/-- A text is read from a string, whose white ends are left out. -/
theorem exists_string_of_text {b : Bounds} {v : Json} {s : String} (h : text b v = .accepted s) :
    ∃ raw, v = .string raw ∧ Text.trim Text.isWhite raw = s := by
  obtain ⟨raw, hraw, h⟩ := andThen_eq_accepted.1 h
  have hv : v = .string raw := by
    unfold string at hraw
    split at hraw
    · cases hraw
      rfl
    · cases hraw
  dsimp only at h
  split at h
  · cases h
  · cases h
    exact ⟨raw, hv, rfl⟩

theorem flaw?_eq_none {b : Bounds} {n : Nat} (h : b.flaw? n = none) :
    (∀ least, b.least = some least → least ≤ n) ∧ ∀ most, b.most = some most → n ≤ most := by
  obtain ⟨least, most⟩ := b
  simp only [Bounds.flaw?, Option.or_eq_none_iff, Option.bind_eq_none_iff] at h
  constructor
  · rintro l rfl
    have := h.1 l rfl
    simp only [ite_eq_right_iff, reduceCtorEq, imp_false] at this
    omega
  · rintro m rfl
    have := h.2 m rfl
    simp only [ite_eq_right_iff, reduceCtorEq, imp_false] at this
    omega

end Checked

namespace Field

variable {α : Type} {f : Field} {read : Json → Checked α} {o : List (String × Json)} {a : α}

theorem required_eq_accepted (h : f.required read o = .accepted a) :
    ∃ v, read v = .accepted a := by
  unfold required at h
  split at h
  · exact ⟨_, Checked.under_eq_accepted.1 h⟩
  · cases h

theorem withDefault_eq_accepted {default : α} (h : f.withDefault default read o = .accepted a) :
    a = default ∨ ∃ v, read v = .accepted a := by
  unfold withDefault at h
  split at h
  · exact .inr ⟨_, Checked.under_eq_accepted.1 h⟩
  · cases h; exact .inl rfl

/-- An optional field that is there was read. -/
theorem optional_eq_accepted {a? : Option α}
    (h : f.withDefault none (Checked.nullable read) o = .accepted a?) :
    ∀ a, a? = some a → ∃ v, read v = .accepted a := by
  rintro a rfl
  rcases withDefault_eq_accepted h with h | ⟨v, h⟩
  · cases h
  · exact ⟨v, Checked.nullable_eq_accepted h a rfl⟩

/-- What an object gives for a text field: nothing, null, or a string, which counts without its white
ends. -/
inductive Gives (f : Field) (o : List (String × Json)) : Option (Option String) → Prop
  | nothing : f.find? o = none → Gives f o none
  | null {name : String} : f.find? o = some (name, .null) → Gives f o (some none)
  | text {name raw : String} : f.find? o = some (name, .string raw) →
      Gives f o (some (some (Text.trim Text.isWhite raw)))

/-- A nullable text that may be left out is read as the object gives it. -/
theorem gives_of_nullable {b : Checked.Bounds} {name : String} {v : Json} {a? : Option String}
    (hf : f.find? o = some (name, v))
    (h : Checked.nullable (Checked.text b) v = .accepted a?) : f.Gives o (some a?) := by
  unfold Checked.nullable at h
  split at h
  · cases h
    exact .null hf
  · obtain ⟨s, hs, rfl⟩ := Checked.map_eq_accepted.1 h
    obtain ⟨raw, rfl, rfl⟩ := Checked.exists_string_of_text hs
    exact .text hf

theorem gives_of_optional {b : Checked.Bounds} {a? : Option String}
    (h : f.withDefault none (Checked.nullable (Checked.text b)) o = .accepted a?) :
    ∃ given, f.Gives o given ∧ a? = given.join := by
  unfold withDefault at h
  split at h
  · rename_i hf
    exact ⟨_, gives_of_nullable hf (Checked.under_eq_accepted.1 h), rfl⟩
  · rename_i hf
    cases h
    exact ⟨none, .nothing hf, rfl⟩

theorem required_of_find? {name : String} {v : Json} (hf : f.find? o = some (name, v))
    (ha : read v = .accepted a) : f.required read o = .accepted a := by
  simp only [required, hf, ha]
  rfl

theorem withDefault_of_find? {default : α} {name : String} {v : Json}
    (hf : f.find? o = some (name, v)) (ha : read v = .accepted a) :
    f.withDefault default read o = .accepted a := by
  simp only [withDefault, hf, ha]
  rfl

/-- A stored text that may be missing is read as it is. -/
theorem string_of_find? {name : String} {text : Option String}
    (hf : f.find? o = some (name, .ofOption text)) :
    f.withDefault none (Checked.nullable Checked.string) o = .accepted text :=
  withDefault_of_find? hf (Checked.nullable_ofOption fun _ _ => rfl)

end Field

end FeatureFlags
