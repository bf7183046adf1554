import FeatureFlags.Backend
import FeatureFlags.Targeting.Compile

/-!
# The document of a backend: `build_flagd_config`

All features and all states of a backend are read and compiled. When one of them cannot be read
there is no document, not even a partial one.
-/

namespace FeatureFlags

namespace Reply

/-- The features of a reply that lists them. -/
def listedFeatures : Reply → List Feature
  | .features fs => fs
  | _ => []

/-- The states of a reply that lists them. -/
def listedStates : Reply → List FeatureState
  | .states ss => ss
  | _ => []

end Reply

namespace Backend

variable {σ : Type}

/-- The logger of the compilation. -/
def documentLogger : String := "app.flags.service"

/-- Everything that a document is compiled from: the two reads of `build_flagd_config`. -/
def contents (b : Backend σ) : Service σ (List Feature × List FeatureState) := do
  let features := (← b.run .listFeatures).listedFeatures
  let states := (← b.run .listStates).listedStates
  return (features, states)

/-- A failure while reading: when it is one of `STORE_READ_ERRORS` it is logged, and there is no
document. Other failures go on. -/
def unread {α : Type} (f : Failure) : Service σ α := do
  if f.isReadError then
    Service.log ⟨.error, documentLogger, "Flag store read failed: " ++ f.message, []⟩
    throw (.service .noDocument)
  else throw f

/-- The document of a backend (`build_flagd_config`). -/
def document (b : Backend σ) : Service σ Targeting.Document := do
  let (features, states) ← tryCatch b.contents unread
  let d := Targeting.compile features states
  Service.log
    ⟨.info, documentLogger, "Flagd config compiled",
      [("flags_count", .int d.flags.entries.length), ("rules_count", .int d.ruleCount)]⟩
  return d

end Backend

end FeatureFlags
