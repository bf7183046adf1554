import FeatureFlags.Settings

/-!
# Kept settings: `get_settings`

Settings are read once and kept; only when they are asked for after having been forgotten are they
read again. Settings that could not be read are not kept.

A server is started with settings: with the application to build, and with the place and the log
level that the settings name.
-/

namespace FeatureFlags.Settings

/-- The environment, and the settings that were read from it. -/
structure Kept where
  environment : List (String × String)
  settings : Option Settings

namespace Kept

/-- Nothing has been read yet. -/
def fresh (environment : List (String × String)) : Kept := ⟨environment, none⟩

/-- The settings, read now unless they are kept (`get_settings`). -/
def get (k : Kept) : Checked Settings × Kept :=
  match k.settings with
  | some s => (.accepted s, k)
  | none =>
    match ofSources { environment := k.environment } with
    | .accepted s => (.accepted s, { k with settings := some s })
    | .rejected issues => (.rejected issues, k)

/-- Forgets the settings. -/
def forget (k : Kept) : Kept := { k with settings := none }

/-- Changes the environment; settings that are kept stay. -/
def move (k : Kept) (environment : List (String × String)) : Kept :=
  { k with environment := environment }

end Kept

/-- How a server is started. -/
structure Launch where
  application : String
  host : String
  port : Int
  logLevel : String
deriving DecidableEq, Repr

/-- The application that a server builds for itself. -/
def application : String := "app.main:create_app"

/-- The start of a server with these settings (`run`). -/
def launch (s : Settings) : Launch := ⟨application, s.host, s.port, Text.lower s.logLevel⟩

end FeatureFlags.Settings
