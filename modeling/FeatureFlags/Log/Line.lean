import FeatureFlags.Failure
import FeatureFlags.Json.Writer
import FeatureFlags.Log
import FeatureFlags.Log.Template
import FeatureFlags.Timestamp

/-!
# Lines of the log: `JsonFormatter` and `TEXT_FORMAT`

How a record becomes a line: either one JSON object, with the extra values that are known, or plain
text that begins with the time. Every line carries the deployment that wrote it, unless the record
brings its own. A record whose template cannot be filled gives no line.
-/

namespace FeatureFlags.Log

/-- What a program hands to the log. -/
structure Record where
  level : Level
  logger : String
  template : Json
  arguments : List Json
  extras : List (String × Json)
  failure : Option Failure
  createdMs : Int

/-- The name of the deployment (`DEPLOYMENT_ID`). -/
def deployment : String := "00000000-0000-4000-8000-000000000000"

/-- The names that belong to the record itself; an extra value may not take one. -/
def ownNames : List String :=
  ["message", "asctime", "name", "msg", "args", "levelname", "levelno", "pathname", "filename",
    "module", "exc_info", "exc_text", "stack_info", "lineno", "funcName", "created", "msecs",
    "relativeCreated", "thread", "threadName", "processName", "process"]

/-- An extra value has a name that belongs to the record. -/
structure NameTaken where
  name : String
deriving DecidableEq, Repr

def NameTaken.message (e : NameTaken) : String :=
  "Attempt to overwrite " ++ Text.quoted e.name ++ " in LogRecord"

/-- The first extra value whose name is taken. -/
def Record.nameTaken? (r : Record) : Option NameTaken :=
  (r.extras.find? fun e => ownNames.contains e.1).map fun e => ⟨e.1⟩

/-- The message of a record. -/
def Record.message? (r : Record) : Option String :=
  Template.fill? r.template.display r.arguments

/-- A failure on a line of its own. -/
def failureText (f : Failure) : String :=
  if f.message.isEmpty then f.fullName else f.fullName ++ ": " ++ f.message

/-- The deployment that a line names (`DeploymentFilter`). -/
def Record.deployment (r : Record) : Json :=
  (Json.member? r.extras "deployment_id").getD (.string Log.deployment)

/-- The members of a line in JSON, in their order. -/
def jsonMembers (r : Record) (message : String) : List (String × Json) :=
  [("level", .string r.level.name), ("message", .string message), ("logger", .string r.logger),
      ("deployment_id", r.deployment)] ++
    writtenExtras r.extras ++
    (match r.failure with
      | some f => [("exc_info", .string (failureText f))]
      | none => [])

/-- A line in JSON (`JsonFormatter.format`). -/
def jsonLine (r : Record) (message : String) : String :=
  (Json.object (jsonMembers r message)).toText

/-- The time of a record to the millisecond, in UTC. -/
def timeText (ms : Int) : String :=
  let m := Timestamp.momentOfUnix (Int.fdiv ms 1000) 0
  String.ofList <|
    Timestamp.padded 4 m.year ++ '-' :: Timestamp.padded 2 m.month ++ '-' ::
      Timestamp.padded 2 m.day ++ ' ' :: Timestamp.padded 2 m.hour ++ ':' ::
      Timestamp.padded 2 m.minute ++ ':' :: Timestamp.padded 2 m.second ++ ',' ::
      Timestamp.padded 3 (Int.fmod ms 1000).toNat

/-- A line of plain text (`TEXT_FORMAT`); a failure follows on a line of its own. -/
def textLine (r : Record) (message : String) : String :=
  let line := timeText r.createdMs ++ " " ++ r.level.name ++ " [" ++ r.logger ++ "] [" ++
    r.deployment.display ++ "] " ++ message
  match r.failure with
  | some f => line ++ (if line.endsWith "\n" then "" else "\n") ++ failureText f
  | none => line

/-- What is written for a record under the handler of `setup_logging`: nothing when the threshold is
above it or it has no message. -/
def written (t : Threshold) (json : Bool) (r : Record) : Except NameTaken String :=
  if !t.admits r.level then .ok ""
  else
    match r.nameTaken? with
    | some e => .error e
    | none =>
      match r.message? with
      | none => .ok ""
      | some message => .ok ((if json then jsonLine r message else textLine r message) ++ "\n")

end FeatureFlags.Log
