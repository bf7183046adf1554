import FeatureFlags.ContextType
import FeatureFlags.Failure
import FeatureFlags.Json.Display

/-!
# Context types by name

The context type that a value names, and the failure that says that it names none.
-/

namespace FeatureFlags.ContextType

/-- The context type that a value names: `ContextType` called on the value. -/
def named (v : Json) : Except Failure ContextType :=
  let unknown : Except Failure ContextType :=
    .error (.value (v.shown ++ " is not a valid ContextType"))
  match v with
  | .string s => ((ofName? s).map Except.ok).getD unknown
  | _ => unknown

end FeatureFlags.ContextType
