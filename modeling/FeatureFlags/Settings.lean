import FeatureFlags.Number.Reader
import FeatureFlags.Settings.EnvFile
import FeatureFlags.Validation.Fields
import FeatureFlags.Validation.Values

/-!
# Settings

What the service is told when it starts. Settings are given directly, in the environment, or in an
environment file, and in this order one source goes before the other. Names in the environment and
in the file are known in any case. A name that nobody knows is an issue when it is given directly
or in the file; in the environment it does not matter.
-/

namespace FeatureFlags

/-- Where the service runs (`app_env`). -/
inductive Stage where
  | dev
  | prod
  | test
deriving DecidableEq, Repr

namespace Stage

def name : Stage → String
  | .dev => "dev"
  | .prod => "prod"
  | .test => "test"

def ofName? : String → Option Stage
  | "dev" => some .dev
  | "prod" => some .prod
  | "test" => some .test
  | _ => none

def names : List String := ["dev", "prod", "test"]

end Stage

/-- The settings of the service (`Settings`). -/
structure Settings where
  databaseUrl : String
  stage : Stage
  apiRoot : String
  allowedOrigins : String
  logLevel : String
  logJson : Bool
  runMigrations : Bool
  poolMin : Int
  poolMax : Int
  commandTimeout : Binary64
  host : String
  port : Int

namespace Settings

/-! ## Fields -/

def databaseUrlField : Field := .only "DATABASE_URL"
def stageField : Field := .only "APP_ENV"
def apiRootField : Field := .only "API_PREFIX"
def allowedOriginsField : Field := .only "ALLOWED_ORIGINS"
def logLevelField : Field := .only "LOG_LEVEL"
def logJsonField : Field := .only "LOG_JSON"
def runMigrationsField : Field := .only "RUN_MIGRATIONS"
def poolMinField : Field := .only "DB_POOL_MIN_SIZE"
def poolMaxField : Field := .only "DB_POOL_MAX_SIZE"
def commandTimeoutField : Field := .only "DB_COMMAND_TIMEOUT"
def hostField : Field := .only "HOST"
def portField : Field := .only "PORT"

def fields : List Field :=
  [databaseUrlField, stageField, apiRootField, allowedOriginsField, logLevelField, logJsonField,
    runMigrationsField, poolMinField, poolMaxField, commandTimeoutField, hostField, portField]

/-- The names that settings have. -/
def names : List String := fields.map Field.name

/-! ## Normal forms -/

/-- The path under which the service is reached (`_normalize_prefix`): blanks around it and slashes
at its end are taken off, and a slash is put in front unless nothing is left. -/
def normalRoot (s : String) : String :=
  match Text.trimEnd (· == '/') (Text.trimChars Text.isBlank s.toList) with
  | [] => ""
  | '/' :: cs => String.ofList ('/' :: cs)
  | cs => String.ofList ('/' :: cs)

/-- The name of a log level, in capitals (`_normalize_log_level`); the empty text stands for
`INFO`. -/
def normalLevel (s : String) : String :=
  Text.upper (Text.trim Text.isBlank (if s.isEmpty then "INFO" else s))

/-- The origins that may read answers (`cors_origins`): the parts between commas that are not
blank. -/
def origins (s : Settings) : List String :=
  (Text.splitOn (· == ',') s.allowedOrigins.toList).filterMap fun part =>
    match Text.trimChars Text.isBlank part with
    | [] => none
    | cs => some (String.ofList cs)

/-! ## Reading -/

/-- A whole number: as such, as a text, as a real number without a fraction, or as a truth
value. -/
def wholeOf (v : Json) : Checked Int :=
  match v with
  | .int i => .accepted i
  | .bool b => .accepted (if b then 1 else 0)
  | .string s =>
    match Number.readInt s with
    | .ok i => .accepted i
    | .error .unclear => .flawed .unclearInt v
    | .error .huge => .flawed .hugeInt v
  | .real x =>
    if !x.isFinite then .flawed .notFinite v
    else
      match x.toInt? with
      | none => .flawed .fractionalInt v
      | some i =>
        if Checked.isWord64 i && i != -9223372036854775808 then .accepted i
        else .flawed .hugeInt v
  | .unpaired => .flawed .unclearInt v
  | _ => .flawed .notInt v

/-- A real number: as such, as a whole number, as a text, or as a truth value. -/
def realOf (v : Json) : Checked Binary64 :=
  match v with
  | .real x => .accepted x
  | .int i => .accepted (.ofInt i)
  | .bool b => .accepted (.ofInt (if b then 1 else 0))
  | .string s =>
    match Number.readReal? s with
    | some x => .accepted x
    | none => .flawed .unclearNumber v
  | .unpaired => .flawed .unclearNumber v
  | _ => .flawed .notNumber v

def stageOf (v : Json) : Checked Stage :=
  Checked.choice (.notLiteral Stage.names) Stage.ofName? v

/-- An issue for every name that no setting has. -/
def knownOnly (o : List (String × Json)) : Checked Unit :=
  match o.filter fun (name, _) => !names.contains name with
  | [] => .accepted ()
  | unknown => .rejected (unknown.map fun (name, v) => ⟨.unexpected, [.member name], v⟩)

/-- Reads settings by their names. -/
def ofMembers (o : List (String × Json)) : Checked Settings :=
  (databaseUrlField.required Checked.string o).map Settings.mk
    |>.ap (stageField.withDefault .dev stageOf o)
    |>.ap ((apiRootField.withDefault "" Checked.string o).map normalRoot)
    |>.ap (allowedOriginsField.withDefault "*" Checked.string o)
    |>.ap ((logLevelField.withDefault "INFO" Checked.string o).map normalLevel)
    |>.ap (logJsonField.withDefault true Checked.bool o)
    |>.ap (runMigrationsField.withDefault true Checked.bool o)
    |>.ap (poolMinField.withDefault 1 wholeOf o)
    |>.ap (poolMaxField.withDefault 10 wholeOf o)
    |>.ap (commandTimeoutField.withDefault (.ofInt 10) realOf o)
    |>.ap (hostField.withDefault "0.0.0.0" Checked.string o)
    |>.ap (portField.withDefault 3000 wholeOf o)
    |>.map (fun s (_ : Unit) => s)
    |>.ap (knownOnly o)

/-! ## Sources -/

/-- Where settings come from. -/
structure Sources where
  environment : List (String × String)
  file : Option String := none
  given : List (String × Json) := []

/-- Values by their names in small letters; of two that fall together the last holds. -/
def lowered (values : List (String × Option String)) : Table String (Option String) :=
  .ofList (values.map fun (name, v) => (Text.lower name, v))

/-- The settings among some values, under their own names. -/
def settingsAmong (values : Table String (Option String)) : List (String × Json) :=
  names.filterMap fun name =>
    (values.get? (Text.lower name)).join.map fun v => (name, .string v)

/-- The values that are no settings; empty ones do not count. -/
def othersAmong (values : Table String (Option String)) : List (String × Json) :=
  values.entries.filterMap fun (name, v) =>
    if (names.map Text.lower).contains name then none
    else (given v).map fun v => (name, .string v)

namespace Sources

/-- Members with others written over them. -/
def overwrite (o later : List (String × Json)) : List (String × Json) :=
  later.foldl (fun o (name, v) => Json.setMember name v o) o

/-- All that the sources say. -/
def members (s : Sources) : List (String × Json) :=
  let file := lowered ((s.file.map fun f => (EnvFile.read s.environment f).entries).getD [])
  let environment := lowered (s.environment.map fun (name, v) => (name, some v))
  let fromFile := settingsAmong file ++ othersAmong file
  overwrite (overwrite fromFile (settingsAmong environment)) s.given

end Sources

/-- Reads the settings from their sources, as `Settings` does when `get_settings` calls it. -/
def ofSources (s : Sources) : Checked Settings := ofMembers s.members

/-! ## Writing -/

def toJson (s : Settings) : Json :=
  .object
    [("database_url", .string s.databaseUrl), ("app_env", .string s.stage.name),
      ("api_prefix", .string s.apiRoot), ("allowed_origins", .string s.allowedOrigins),
      ("log_level", .string s.logLevel), ("log_json", .bool s.logJson),
      ("run_migrations", .bool s.runMigrations), ("db_pool_min_size", .int s.poolMin),
      ("db_pool_max_size", .int s.poolMax),
      ("db_command_timeout", .string s.commandTimeout.toText), ("host", .string s.host),
      ("port", .int s.port), ("cors_origins", .array (s.origins.map .string))]

end Settings

end FeatureFlags
