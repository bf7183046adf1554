import FeatureFlags.Number.Notation

/-!
# JSON values

A JSON value with exact numbers and with objects as lists of members, in the order in which they
were first written. Whole numbers of any size are kept apart from binary64 numbers. A string whose
escapes leave half of a surrogate pair has no text; it is the value `unpaired`, which no writer
accepts.
-/

namespace FeatureFlags

/-- A JSON value. -/
inductive Json where
  | null
  | bool (b : Bool)
  | int (i : Int)
  | real (x : Binary64)
  | string (s : String)
  | unpaired
  | array (items : List Json)
  | object (members : List (String × Json))
deriving Repr, Inhabited

namespace Json

/-- The members after `name` is given a value: in place when it is there, else at the end. -/
def setMember {α : Type} [DecidableEq α] (name : α) (value : Json) :
    List (α × Json) → List (α × Json)
  | [] => [(name, value)]
  | (name', v) :: rest =>
    if name' = name then (name, value) :: rest else (name', v) :: setMember name value rest

/-- The value of a member. -/
def member? (members : List (String × Json)) (name : String) : Option Json :=
  members.lookup name

/-- The member of an object; of anything else there is none. -/
def get? (v : Json) (name : String) : Option Json :=
  match v with
  | .object members => member? members name
  | _ => none

def ofOption (o : Option String) : Json :=
  match o with
  | some s => .string s
  | none => .null

/-- Does a condition on the value hold? Nothing, false, zero and the empty string, list and object
count as no. -/
def isTruthy : Json → Bool
  | .null => false
  | .bool b => b
  | .int i => i != 0
  | .real x => !x.isZero
  | .string s => !s.isEmpty
  | .unpaired => true
  | .array items => !items.isEmpty
  | .object members => !members.isEmpty

mutual

/-- Has the value a text in the JSON standard? Infinities, not-a-number and unpaired surrogates
have none. -/
def isWritable : Json → Bool
  | .real x => x.isFinite
  | .unpaired => false
  | .array items => areWritable items
  | .object members => membersWritable members
  | _ => true

def areWritable : List Json → Bool
  | [] => true
  | v :: rest => isWritable v && areWritable rest

def membersWritable : List (String × Json) → Bool
  | [] => true
  | (_, v) :: rest => isWritable v && membersWritable rest

end

mutual

/-- The value without the members that are null, at every depth (`exclude_none`); items of lists
stay. -/
def dropNulls : Json → Json
  | .array items => .array (dropNullsItems items)
  | .object members => .object (dropNullsMembers members)
  | v => v

def dropNullsItems : List Json → List Json
  | [] => []
  | v :: rest => dropNulls v :: dropNullsItems rest

def dropNullsMembers : List (String × Json) → List (String × Json)
  | [] => []
  | (_, .null) :: rest => dropNullsMembers rest
  | (name, v) :: rest => (name, dropNulls v) :: dropNullsMembers rest

end

end Json

end FeatureFlags
