import FeatureFlags.Validation

/-!
# Reading fields

A field has a name in the data and perhaps a second name that is looked for when the first is
absent. An issue with a field is told under the name that was found; a missing field under its
first name.
-/

namespace FeatureFlags

/-- The two names of a field: the one data are written with (`alias`), and the other that is read as
well (`populate_by_name`). -/
structure Field where
  name : String
  other : String
deriving DecidableEq, Repr

namespace Field

/-- A field with one name. -/
def only (name : String) : Field := ⟨name, name⟩

/-- The name under which the field stands in an object, and its value there. -/
def find? (f : Field) (members : List (String × Json)) : Option (String × Json) :=
  match Json.member? members f.name with
  | some v => some (f.name, v)
  | none => (Json.member? members f.other).map fun v => (f.other, v)

/-- Is the field in the object? -/
def isGiven (f : Field) (members : List (String × Json)) : Bool := (f.find? members).isSome

variable {α : Type}

/-- The value of a field that has to be there. -/
def required (f : Field) (read : Json → Checked α) (members : List (String × Json)) : Checked α :=
  match f.find? members with
  | some (name, v) => (read v).under (.member name)
  | none => .rejected [⟨.missing, [.member f.name], .object members⟩]

/-- The value of a field, or a default when it is absent. -/
def withDefault (f : Field) (default : α) (read : Json → Checked α)
    (members : List (String × Json)) : Checked α :=
  match f.find? members with
  | some (name, v) => (read v).under (.member name)
  | none => .accepted default

end Field

/-- Reads an object, or says that the data are no record of the model. -/
def Checked.record {α : Type} (model : String) (read : List (String × Json) → Checked α)
    (v : Json) : Checked α :=
  match v with
  | .object members => read members
  | _ => .flawed (.notRecord model) v

end FeatureFlags
