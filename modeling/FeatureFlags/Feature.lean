import FeatureFlags.Timestamp
import FeatureFlags.Validation.Fields
import FeatureFlags.Validation.Values

/-!
# Features

A feature is something that can be switched on and off. A draft is what a client gives to create
one, a patch what a client gives to change one: a field that the patch leaves out stays as it is,
and a description that is given as null is taken away.

Stored features are read as they are. The texts of drafts and patches are trimmed, and keys and
names have 1 to 255 characters.
-/

namespace FeatureFlags

/-- A stored feature (`Feature`). -/
structure Feature where
  id : String
  key : String
  name : String
  description : Option String
  createdAt : Option Timestamp
  updatedAt : Option Timestamp
deriving DecidableEq, Repr

namespace Feature

/-- What a feature is created from (`FeatureCreate`). -/
structure Draft where
  key : String
  name : String
  description : Option String
deriving DecidableEq, Repr

/-- A change of a feature (`FeatureUpdate`); `none` leaves a field as it is. -/
structure Patch where
  key : Option String
  name : Option String
  description : Option (Option String)
deriving DecidableEq, Repr

/-! ## Fields -/

def idField : Field := .only "id"
def keyField : Field := .only "key"
def nameField : Field := .only "name"
def descriptionField : Field := .only "description"
def createdAtField : Field := ⟨"createdAt", "created_at"⟩
def updatedAtField : Field := ⟨"updatedAt", "updated_at"⟩

def fields : List Field :=
  [idField, keyField, nameField, descriptionField, createdAtField, updatedAtField]

def Draft.fields : List Field := [keyField, nameField, descriptionField]

/-- The lengths that keys and names may have. -/
def nameBounds : Checked.Bounds := { least := some 1, most := some 255 }

/-! ## Reading -/

/-- Reads a stored feature. -/
def ofJson (v : Json) : Checked Feature :=
  Checked.record "Feature" (fun o =>
    (idField.required Checked.string o).map Feature.mk
      |>.ap (keyField.required Checked.string o)
      |>.ap (nameField.required Checked.string o)
      |>.ap (descriptionField.withDefault none (Checked.nullable Checked.string) o)
      |>.ap (createdAtField.withDefault none (Checked.nullable Checked.timestamp) o)
      |>.ap (updatedAtField.withDefault none (Checked.nullable Checked.timestamp) o)) v

/-- Reads the members of a draft. -/
def Draft.ofMembers (o : List (String × Json)) : Checked Draft :=
  (keyField.required (Checked.text nameBounds) o).map Draft.mk
    |>.ap (nameField.required (Checked.text nameBounds) o)
    |>.ap (descriptionField.withDefault none (Checked.nullable (Checked.text {})) o)

/-- Reads a draft. -/
def Draft.ofJson (v : Json) : Checked Draft :=
  Checked.record "FeatureCreate" Draft.ofMembers v

/-- Reads the members of a patch. -/
def Patch.ofMembers (o : List (String × Json)) : Checked Patch :=
  (keyField.withDefault none (Checked.nullable (Checked.text nameBounds)) o).map Patch.mk
    |>.ap (nameField.withDefault none (Checked.nullable (Checked.text nameBounds)) o)
    |>.ap (descriptionField.withDefault none
      (fun v => (Checked.nullable (Checked.text {}) v).map some) o)

/-- Reads a patch. -/
def Patch.ofJson (v : Json) : Checked Patch :=
  Checked.record "FeatureUpdate" Patch.ofMembers v

/-! ## Writing -/

def timestampJson (t : Option Timestamp) : Json := Json.ofOption (t.map Timestamp.toText)

def toJson (f : Feature) : Json :=
  .object
    [("id", .string f.id), ("key", .string f.key), ("name", .string f.name),
      ("description", .ofOption f.description), ("createdAt", timestampJson f.createdAt),
      ("updatedAt", timestampJson f.updatedAt)]

def Draft.toJson (d : Draft) : Json :=
  .object
    [("key", .string d.key), ("name", .string d.name), ("description", .ofOption d.description)]

def Patch.toJson (p : Patch) : Json :=
  .object
    [("key", .ofOption p.key), ("name", .ofOption p.name),
      ("description", .ofOption p.description.join)]

end Feature

end FeatureFlags
