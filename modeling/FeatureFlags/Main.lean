import FeatureFlags.Http.Endpoint
import FeatureFlags.Json.Reader
import FeatureFlags.Lifetime
import FeatureFlags.Log.Line
import FeatureFlags.Populate.Command
import FeatureFlags.Settings.Kept
import Std.Time.DateTime.Timestamp

/-!
# The command line

Without arguments the program serves flags from a store in memory. It takes its settings from the
environment and one request a line from standard input, each a JSON object with a method, a path,
headers and a body, and writes one response a line; the log goes to the standard error stream.

With the argument `populate` the rest of the arguments are those of the populate command. The
replies of the service come from standard input, one a line with status and body; the requests go
to standard output.
-/

namespace FeatureFlags.CommandLine

/-! ## Lines -/

/-- The text of a member; nothing when there is none. -/
def textOf (v : Json) (name : String) : String :=
  match v.get? name with
  | some (.string s) => s
  | _ => ""

/-- The members of an object that are texts. -/
def headersOf (v : Json) : List (String × String) :=
  match v.get? "headers" with
  | some (.object members) => members.filterMap fun
    | (name, .string s) => some (name, s)
    | _ => none
  | _ => []

/-- The request on a line. -/
def requestOf (line : String) : Except String Http.Request :=
  match Json.ofText line with
  | .error _ => .error "The line is no JSON."
  | .ok v =>
    match Populate.localAddress.join (textOf v "path") with
    | .error d => .error d.message
    | .ok address => .ok ⟨Text.upper (textOf v "method"), address, headersOf v, textOf v "body"⟩

/-- A response as a line. -/
def responseLine (r : Http.Response) : String :=
  (Json.object
    [("status", .int r.status),
      ("headers", .object (r.headers.map fun (name, v) => (name, .string v))),
      ("body", .string r.content.toText)]).toText

/-- The reply on a line. -/
def replyOf (line : String) : Except Failure Populate.Answer :=
  match Json.ofText line with
  | .error _ => .error (.transport "RemoteProtocolError" "The line is no JSON.")
  | .ok v =>
    match v.get? "status" with
    | some (.int status) => .ok ⟨status.toNat, textOf v "body"⟩
    | _ => .error (.transport "RemoteProtocolError" "The line has no status.")

/-- A request that was made, as a line. -/
def askedLine (a : Populate.Asked) : String :=
  (Json.object
    [("method", .string a.method), ("address", .string a.address), ("payload", a.payload)]).toText

/-- An entry of the log as a record of a moment. -/
def recordOf (e : Log.Entry) (ms : Int) : Log.Record :=
  ⟨e.level, e.logger, .string e.message, [], e.extras, none, ms⟩

/-! ## Serving -/

/-- What the log is written with. -/
structure Writing where
  threshold : Log.Threshold
  json : Bool

/-- The time, in milliseconds since 1 January 1970 UTC. -/
def now : IO Int := do return (← Std.Time.Timestamp.now).toMillisecondsSinceUnixEpoch.val

/-- Writes entries to the log. -/
def writeLog (w : Writing) (entries : List Log.Entry) : IO Unit := do
  let err ← IO.getStderr
  for e in entries do
    match Log.written w.threshold w.json (recordOf e (← now)) with
    | .ok line => err.putStr line
    | .error taken => err.putStrLn taken.message

/-- Answers requests until the input ends, and gives back what is served. -/
partial def serve (w : Writing) (s : Settings) (served : Served Store) : IO (Served Store) := do
  let line ← (← IO.getStdin).getLine
  if line.isEmpty then return served
  let out ← IO.getStdout
  match requestOf line with
  | .error why =>
    (← IO.getStderr).putStrLn why
    serve w s served
  | .ok request =>
    let (response, served) := (Http.respond s (.memory .none) request).run served
    writeLog w served.entries
    out.putStrLn (responseLine response)
    out.flush
    serve w s { served with entries := [] }

/-- The settings that the environment gives. -/
def environment : IO (List (String × String)) := do
  let found ← Settings.names.mapM fun name => do
    return (← IO.getEnv name).map fun v => (name, v)
  return found.filterMap id

/-- Serves flags from a store that is empty at first. -/
def runService : IO UInt32 := do
  match Settings.ofSources { environment := ← environment } with
  | .rejected issues =>
    for i in issues do
      (← IO.getStderr).putStrLn ((Json.array (i.path.map Http.stepJson)).toText ++ " " ++
        i.flaw.message)
    return 1
  | .accepted s =>
    match Log.Threshold.ofName s.logLevel with
    | .error e =>
      (← IO.getStderr).putStrLn e.message
      return 1
    | .ok threshold =>
      let w : Writing := ⟨threshold, s.logJson⟩
      writeLog w [⟨.info, Lifetime.appLogger, "Starting flag service", []⟩]
      let _ ← serve w s ⟨.empty, []⟩
      writeLog w [⟨.info, Lifetime.appLogger, "Flag service stopped", []⟩]
      return 0

/-! ## Populating -/

/-- All lines of the input. -/
partial def readLines (lines : List String) : IO (List String) := do
  let line ← (← IO.getStdin).getLine
  if line.isEmpty then return lines.reverse
  readLines (line :: lines)

/-- Runs the populate command. -/
def runPopulate (arguments : List String) : IO UInt32 := do
  match Populate.readArguments arguments with
  | .error e => return e.status.toUInt32
  | .ok base =>
    let replies := (← readLines []).map replyOf
    let (r, w) := (Populate.runAt base).run.run ⟨⟨replies, []⟩, []⟩
    for a in w.contents.asked do
      IO.println (askedLine a)
    for e in w.entries do
      (← IO.getStderr).putStrLn (e.level.name ++ " " ++ e.message)
    match r with
    | .ok status => return status.toUInt32
    | .error f =>
      (← IO.getStderr).putStrLn (Log.failureText f)
      return 1

end FeatureFlags.CommandLine

/-- Serves flags, or populates a service. -/
def main (arguments : List String) : IO UInt32 :=
  match arguments with
  | "populate" :: rest => FeatureFlags.CommandLine.runPopulate rest
  | _ => FeatureFlags.CommandLine.runService
