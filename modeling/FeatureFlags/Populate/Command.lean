import FeatureFlags.Populate

/-!
# The populate command

The command takes the base address of a service, and populates that service over the network. An
option may be shortened as long as it is clear which one is meant. The command ends at once when it
is asked for help, and when its arguments make no sense.

When the service cannot be reached the command says so and ends with status 1.
-/

namespace FeatureFlags.Populate

/-! ## Arguments -/

/-- The options of the command. -/
inductive Flag where
  | help
  | baseUrl
deriving DecidableEq, Repr

namespace Flag

/-- The names of the options. -/
def names : List (String × Flag) := [("-h", .help), ("--help", .help), ("--base-url", .baseUrl)]

end Flag

/-- What an argument is taken for. -/
inductive Word where
  | value (s : String)
  | flag (f : Flag) (attached : Option String)
  | shortFlags (letters : List Char)
  | unknown
deriving DecidableEq, Repr

/-- The command ends with a status before it has begun. -/
structure Exit where
  status : Nat
deriving DecidableEq, Repr

/-- Help was asked for. -/
def Exit.helped : Exit := ⟨0⟩

/-- The arguments make no sense. -/
def Exit.misused : Exit := ⟨2⟩

/-- Name and attached value around the first equal sign. -/
def splitAttached (s : String) : String × Option String :=
  match Http.Address.splitAt (· == '=') s.toList with
  | (name, '=' :: value) => (String.ofList name, some (String.ofList value))
  | _ => (s, none)

/-- What an argument may be a short form of. -/
def candidates (s : String) : List Word :=
  match s.toList with
  | '-' :: '-' :: _ =>
    let (name, attached) := splitAttached s
    (Flag.names.filter fun (known, _) => name.toList.isPrefixOf known.toList).map
      fun (_, f) => .flag f attached
  | '-' :: 'h' :: letters => [.shortFlags letters]
  | _ => []

/-- Is the argument a negative number? -/
def isNegativeNumber (s : String) : Bool :=
  match s.toList with
  | '-' :: cs =>
    let digits := fun part : List Char => !part.isEmpty && part.all Json.isDigit
    match Text.splitOn (· == '.') cs with
    | [whole] => digits whole
    | [whole, places] => whole.all Json.isDigit && digits places
    | _ => false
  | _ => false

/-- What an argument is taken for; it must not be a short form of two options. -/
def classify (s : String) : Except Exit Word :=
  let (name, attached) := splitAttached s
  if !s.startsWith "-" then .ok (.value s)
  else
    match Flag.names.lookup s, s.length == 1, attached.bind fun _ => Flag.names.lookup name with
    | some f, _, _ => .ok (.flag f none)
    | none, true, _ => .ok (.value s)
    | none, false, some f => .ok (.flag f attached)
    | none, false, none =>
      match candidates s with
      | [w] => .ok w
      | [] =>
        if isNegativeNumber s || s.toList.contains ' ' then .ok (.value s) else .ok .unknown
      | _ => .error .misused

/-- The arguments as words; after two dashes alone all are values. -/
def classifyAll : List String → Except Exit (List Word)
  | [] => .ok []
  | "--" :: rest => .ok (.unknown :: rest.map .value)
  | s :: rest => do
    let w ← classify s
    return w :: (← classifyAll rest)

/-- What short flags run together after `-h` come to. None of them takes a value, so an equal sign
makes no sense after one, and neither does a dash; a letter that is no flag does not matter. -/
def helpRun : List Char → Exit
  | [] => .helped
  | '-' :: _ => .misused
  | 'h' :: '=' :: _ => .misused
  | 'h' :: rest => helpRun rest
  | _ => .helped

/-- The base address among words; `leftover` tells of words that nothing takes. -/
def baseAddress (base : String) (leftover : Bool) : List Word → Except Exit String
  | [] => if leftover then .error .misused else .ok base
  | .value _ :: rest => baseAddress base true rest
  | .unknown :: rest => baseAddress base true rest
  | .shortFlags letters :: _ => .error (helpRun letters)
  | .flag .help attached :: _ => .error (if attached.isSome then .misused else .helped)
  | .flag .baseUrl (some s) :: rest => baseAddress s leftover rest
  | .flag .baseUrl none :: .value s :: rest => baseAddress s leftover rest
  | .flag .baseUrl none :: _ => .error .misused

/-- The base address that is meant when none is given. -/
def usualBase : String := "http://localhost:3000"

/-- Reads the arguments of the command. -/
def readArguments (arguments : List String) : Except Exit String := do
  baseAddress usualBase false (← classifyAll arguments)

/-! ## The network -/

/-- A request that was made. -/
structure Asked where
  method : String
  address : String
  payload : Json

/-- A network that answers by a list, round and round, and keeps what it was asked. -/
structure Network where
  replies : List (Except Failure Answer)
  asked : List Asked

/-- The reply to a request. -/
def Network.next (n : Network) : Except Failure Answer :=
  n.replies.getD (n.asked.length % n.replies.length) (.ok ⟨created, ""⟩)

/-- How deep the command reads lists and objects. -/
def commandDepth : Nat := 983

/-- Posts over the network to a service with a base address. -/
def postOver (base : Http.Address) : Post Network := fun path payload => do
  match base.join path with
  | .error d => throw (.address d.message)
  | .ok a =>
    let n := (← get).contents
    let asked := n.asked ++ [⟨"POST", a.toText, payload⟩]
    modify fun w => { w with contents := { n with asked := asked } }
    ofExcept (n.next.map (Answer.heard commandDepth))

/-! ## Running -/

/-- The errors of a client that do not come from the way to the server. -/
def isClientError (kind : String) : Bool :=
  ["CookieConflict", "StreamError", "StreamConsumed", "StreamClosed", "ResponseNotRead",
    "RequestNotRead"].contains kind

/-- Does the failure say that the service could not be reached? -/
def isUnreachable : Failure → Bool
  | .transport kind _ => !isClientError kind
  | _ => false

/-- Populates the service with a base address. -/
def populateAt (base : String) : Service Network (Nat × Nat) := do
  match Http.Address.base base with
  | .error d => throw (.address d.message)
  | .ok a => populate (postOver a)

/-- Runs the command with a base address and gives its status (`main`). -/
def runAt (base : String) : Service Network Nat :=
  tryCatch
    (do
      let _ ← populateAt base
      Service.log ⟨.info, logger, "Database populated successfully", []⟩
      return 0)
    fun f => do
      if isUnreachable f then
        Service.log ⟨.error, logger, "Failed to populate database: " ++ f.message, []⟩
        return 1
      else throw f

/-- What the command comes to: an early end, or the status that it ends with. -/
def command (arguments : List String) : Service Network (Except Exit Nat) :=
  match readArguments arguments with
  | .error e => return .error e
  | .ok base => do return .ok (← runAt base)

end FeatureFlags.Populate
