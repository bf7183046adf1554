import FeatureFlags.Json
import FeatureFlags.Text.Quoted

/-!
# The log

An entry has a level, the name of its logger, a message and named extra values. A log has a
threshold: entries below it are not written.
-/

namespace FeatureFlags.Log

/-- How grave an entry is. -/
inductive Level where
  | debug
  | info
  | warning
  | error
  | critical
deriving DecidableEq, Repr

namespace Level

def rank : Level → Nat
  | .debug => 10
  | .info => 20
  | .warning => 30
  | .error => 40
  | .critical => 50

def name : Level → String
  | .debug => "DEBUG"
  | .info => "INFO"
  | .warning => "WARNING"
  | .error => "ERROR"
  | .critical => "CRITICAL"

/-- The level of a name; two levels have a second name. -/
def ofName? : String → Option Level
  | "DEBUG" => some .debug
  | "INFO" => some .info
  | "WARNING" => some .warning
  | "WARN" => some .warning
  | "ERROR" => some .error
  | "CRITICAL" => some .critical
  | "FATAL" => some .critical
  | _ => none

end Level

/-- The least rank that is written; zero writes everything. -/
structure Threshold where
  rank : Nat
deriving DecidableEq, Repr

/-- The name is not the name of a threshold. -/
structure UnknownLevel where
  name : String
deriving DecidableEq, Repr

def UnknownLevel.message (e : UnknownLevel) : String := "Unknown level: " ++ Text.quoted e.name

namespace Threshold

/-- The threshold of a name, as `setup_logging` sets it: a level, or `NOTSET` for everything. -/
def ofName (name : String) : Except UnknownLevel Threshold :=
  if name == "NOTSET" then .ok ⟨0⟩
  else
    match Level.ofName? name with
    | some l => .ok ⟨l.rank⟩
    | none => .error ⟨name⟩

def info : Threshold := ⟨Level.info.rank⟩

/-- Is an entry of this level written? -/
def admits (t : Threshold) (l : Level) : Bool := t.rank ≤ l.rank

end Threshold

/-- An entry of the log. -/
structure Entry where
  level : Level
  logger : String
  message : String
  extras : List (String × Json)

/-- The extra values that are written, in the order in which they are (`_EXTRA_FIELDS`). -/
def extraNames : List String :=
  ["feature_key", "feature_id", "feature_state_id", "flags_count", "rules_count", "migration",
    "path", "status_code"]

/-- The extra values of an entry that are written, in their order. -/
def writtenExtras (extras : List (String × Json)) : List (String × Json) :=
  extraNames.filterMap fun name => (Json.member? extras name).map fun v => (name, v)

/-- The entries that a threshold admits. -/
def admitted (t : Threshold) (entries : List Entry) : List Entry :=
  entries.filter fun e => t.admits e.level

end FeatureFlags.Log
