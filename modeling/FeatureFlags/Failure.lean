import FeatureFlags.Json.Display
import FeatureFlags.Validation

/-!
# Failures

What can go wrong while flags are stored and served. An error of the service has a message for the
client and an HTTP status; a store error is one that a store operation tells its client. Other
failures come from below: from the database, the connection or the system, from the way to a
server, or from data of a shape that nobody expects.
-/

namespace FeatureFlags

/-- An error of the flag service (`FlagServiceError` with its subclasses). -/
inductive ServiceError where
  | general (message : String)
  | store (message : String)
  | featureNotFound (message : String)
  | stateNotFound (message : String)
  | keyConflict (key : String)
  | keyLocked (key : String)
  | featureInUse (id : String)
  | duplicateState (message : String)
  | unavailable (message : String)
deriving DecidableEq, Repr

namespace ServiceError

/-- There is no such feature (`FeatureNotFoundError`). -/
def noFeature : ServiceError := .featureNotFound "Feature not found"

/-- There is no such feature state (`FeatureStateNotFoundError`). -/
def noState : ServiceError := .stateNotFound "Feature state not found"

/-- The feature has a state for this context (`DuplicateFeatureStateError`). -/
def duplicate : ServiceError := .duplicateState "Feature state for this context already exists"

/-- The data that a document is compiled from could not be read
(`ConfigurationUnavailableError`). -/
def noDocument : ServiceError := .unavailable "Failed to generate flagd config"

def message : ServiceError → String
  | .general m => m
  | .store m => m
  | .featureNotFound m => m
  | .stateNotFound m => m
  | .keyConflict key => "Feature key '" ++ key ++ "' already exists"
  | .keyLocked key =>
    "Feature key '" ++ key ++ "' is referenced by feature states and cannot change"
  | .featureInUse id => "Feature '" ++ id ++ "' has feature states"
  | .duplicateState m => m
  | .unavailable m => m

/-- The HTTP status that tells of the error (`status_code`). -/
def status : ServiceError → Nat
  | .general _ => 500
  | .store _ => 500
  | .featureNotFound _ => 404
  | .stateNotFound _ => 404
  | .keyConflict _ => 409
  | .keyLocked _ => 409
  | .featureInUse _ => 409
  | .duplicateState _ => 409
  | .unavailable _ => 503

/-- Is it an error of a store operation, a `FlagStoreError`? -/
def isStoreError : ServiceError → Bool
  | .general _ => false
  | .unavailable _ => false
  | _ => true

def name : ServiceError → String
  | .general _ => "FlagServiceError"
  | .store _ => "FlagStoreError"
  | .featureNotFound _ => "FeatureNotFoundError"
  | .stateNotFound _ => "FeatureStateNotFoundError"
  | .keyConflict _ => "FeatureKeyConflictError"
  | .keyLocked _ => "FeatureKeyLockedError"
  | .featureInUse _ => "FeatureInUseError"
  | .duplicateState _ => "DuplicateFeatureStateError"
  | .unavailable _ => "ConfigurationUnavailableError"

end ServiceError

/-- What the database refuses. -/
inductive DatabaseError where
  | general
  | uniqueViolation
  | foreignKeyViolation
  | undefinedTable
deriving DecidableEq, Repr

/-- What the system refuses. -/
inductive SystemError where
  | general
  | connectionRefused
  | timeout
deriving DecidableEq, Repr

/-- Why an operation gave no result. -/
inductive Failure where
  | service (e : ServiceError)
  | database (kind : DatabaseError) (message : String)
  | connection (message : String)
  | system (kind : SystemError) (message : String)
  | runtime (message : String)
  | nesting (kind : String)
  | value (message : String)
  | shape (message : String)
  | lookup (key : Json)
  | noPart (kind part : String)
  | transport (kind message : String)
  | address (message : String)
  | invalid (issues : List Issue)

namespace Failure

/-- The failure in words; what is wrong with data is told by its issues. -/
def message : Failure → String
  | .service e => e.message
  | .database _ m => m
  | .connection m => m
  | .system _ m => m
  | .runtime m => m
  | .nesting kind =>
    "maximum recursion depth exceeded while decoding a JSON " ++ kind ++ " from a unicode string"
  | .value m => m
  | .shape m => m
  | .lookup key => key.shown
  | .noPart kind part => "'" ++ kind ++ "' object has no attribute '" ++ part ++ "'"
  | .transport _ m => m
  | .address m => m
  | .invalid _ => ""

/-- Does the failure mean that a store could not be read (`STORE_READ_ERRORS`)? -/
def isReadError : Failure → Bool
  | .service e => e.isStoreError
  | .database .. => true
  | .connection _ => true
  | .system .. => true
  | _ => false

def name : Failure → String
  | .service e => e.name
  | .database .general _ => "PostgresError"
  | .database .uniqueViolation _ => "UniqueViolationError"
  | .database .foreignKeyViolation _ => "ForeignKeyViolationError"
  | .database .undefinedTable _ => "UndefinedTableError"
  | .connection _ => "InterfaceError"
  | .system .general _ => "OSError"
  | .system .connectionRefused _ => "ConnectionRefusedError"
  | .system .timeout _ => "TimeoutError"
  | .runtime _ => "RuntimeError"
  | .nesting _ => "RecursionError"
  | .value _ => "ValueError"
  | .shape _ => "TypeError"
  | .lookup _ => "KeyError"
  | .noPart .. => "AttributeError"
  | .transport kind _ => kind
  | .address _ => "InvalidURL"
  | .invalid _ => "ValidationError"

/-- Where a name belongs, for the names that are not known everywhere. -/
def origin? : Failure → Option String
  | .service _ => some "app.flags.errors"
  | .database .general _ => some "asyncpg.exceptions._base"
  | .database .. => some "asyncpg.exceptions"
  | .connection _ => some "asyncpg.exceptions._base"
  | _ => none

/-- The name with its origin. -/
def fullName (f : Failure) : String :=
  match f.origin? with
  | some o => o ++ "." ++ f.name
  | none => f.name

end Failure

end FeatureFlags
