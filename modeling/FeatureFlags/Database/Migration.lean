import FeatureFlags.Database.FlagTables

/-!
# Migrations: `apply_migrations`

A migration brings the tables of a database to a new version of their shape. Each is applied once,
in a transaction that also records its version; those whose version is recorded are passed over.
-/

namespace FeatureFlags.Database

/-- The statements that make a version (`Migration`). -/
structure Migration where
  version : String
  statements : List String

namespace Migration

/-- The logger of migrations. -/
def logger : String := "app.db.migrations"

/-- The table of features. -/
def features : Migration where
  version := "0001_features"
  statements := ["
    CREATE TABLE IF NOT EXISTS features (
      id VARCHAR(255) PRIMARY KEY,
      key VARCHAR(255) NOT NULL UNIQUE,
      name VARCHAR(255) NOT NULL,
      description TEXT,
      created_at TIMESTAMPTZ NOT NULL DEFAULT now(),
      updated_at TIMESTAMPTZ NOT NULL DEFAULT now()
    )"]

/-- The table of feature states, each context once for every feature. -/
def featureStates : Migration where
  version := "0002_feature_states"
  statements := ["
    CREATE TABLE IF NOT EXISTS feature_states (
      id VARCHAR(255) PRIMARY KEY,
      feature_id VARCHAR(255) NOT NULL REFERENCES features (id),
      context_type VARCHAR(20) NOT NULL
        CHECK (context_type IN ('global', 'organization', 'workspace')),
      context_id VARCHAR(255),
      state BOOLEAN NOT NULL,
      created_at TIMESTAMPTZ NOT NULL DEFAULT now(),
      updated_at TIMESTAMPTZ NOT NULL DEFAULT now()
    )", "
    CREATE UNIQUE INDEX IF NOT EXISTS feature_context_unique
    ON feature_states (feature_id, context_type, COALESCE(context_id, ''))"]

/-- All migrations, in order (`MIGRATIONS`). -/
def all : List Migration := [features, featureStates]

/-- Why an answer that is no row has no columns. -/
def noColumns (v : Json) : String :=
  match v with
  | .string _ | .unpaired => "string indices must be integers, not 'str'"
  | .array _ => "list indices must be integers or slices, not str"
  | v => "'" ++ v.kindName ++ "' object is not subscriptable"

/-- The version in a row of recorded versions. -/
def versionOf (row : Json) : Program Json :=
  match row with
  | .object columns => do
    match ← column columns "version" with
    | .array _ => .fail (.shape "unhashable type: 'list'")
    | .object _ => .fail (.shape "unhashable type: 'dict'")
    | v => return v
  | v => .fail (.shape (noColumns v))

/-- Is the version among the recorded ones? -/
def isRecorded (recorded : List Json) (version : String) : Bool :=
  recorded.any fun
    | .string s => s == version
    | _ => false

/-- Asks statements for their effect. -/
def execute : List Statement → Program Unit
  | [] => return
  | s :: rest => do
    let _ ← .query s
    execute rest

/-- Applies one migration: one round of the loop of `apply_migrations`. -/
def apply (m : Migration) : Program Unit := do
  .transaction (execute (m.statements.map .define ++ [.recordVersion m.version]))
  .log ⟨.info, logger, "Migration applied", [("migration", .string m.version)]⟩

/-- Applies migrations in order and gives their versions. -/
def applyAll : List Migration → Program (List String)
  | [] => return []
  | m :: rest => do
    m.apply
    return m.version :: (← applyAll rest)

/-- Brings a database up to date and gives the versions that were missing (`apply_migrations`). -/
def upgrade (migrations : List Migration) : Program (List String) :=
  .withConnection do
    let _ ← .query .createVersions
    let rows ← rowsOf (← .query .selectVersions)
    let recorded ← rows.mapM versionOf
    applyAll (migrations.filter fun m => !isRecorded recorded m.version)

end Migration

end FeatureFlags.Database
