/-!
# Context types

A feature may be switched for everyone, for an organization or for a workspace. A context other
than the global one is told apart from its like by an identifier, which must not be empty.
-/

namespace FeatureFlags

/-- Whom a feature state is for (`ContextType`). -/
inductive ContextType where
  | global
  | organization
  | workspace
deriving DecidableEq, Repr

namespace ContextType

def name : ContextType → String
  | .global => "global"
  | .organization => "organization"
  | .workspace => "workspace"

def ofName? : String → Option ContextType
  | "global" => some .global
  | "organization" => some .organization
  | "workspace" => some .workspace
  | _ => none

/-- The names of all context types. -/
def names : List String := ["global", "organization", "workspace"]

theorem ofName?_name (t : ContextType) : ofName? t.name = some t := by
  cases t <;> rfl

/-- The context type says that an identifier is needed, and none is there. -/
structure ContextIdMissing where
  contextType : ContextType
deriving DecidableEq, Repr

def ContextIdMissing.message (e : ContextIdMissing) : String :=
  "contextId is required for " ++ e.contextType.name ++ " context"

/-- The identifier that goes with a context type (`normalize_context_id`): none with the global one,
and a text that is not empty with the others. -/
def normalize (t : ContextType) (id : Option String) : Except ContextIdMissing (Option String) :=
  match t with
  | .global => .ok none
  | _ =>
    match id with
    | none => .error ⟨t⟩
    | some s => if s.isEmpty then .error ⟨t⟩ else .ok (some s)

end ContextType

end FeatureFlags
