import FeatureFlags.Number.Reader
import FeatureFlags.Text.Percent
import FeatureFlags.Text.Quoted

/-!
# Addresses

The address of a resource: scheme, user, host, port, path, query and fragment. Schemes and hosts
are written in small letters, the usual port of a scheme is left out, and in an address with a
scheme or a host the path has no steps `.` and `..`.

A client has a base address. What it asks for is joined to the path of the base, unless it is an
address of its own.
-/

namespace FeatureFlags.Http

/-- The parts of an address; empty parts are left out. -/
structure Address where
  scheme : String
  user : String
  host : String
  port : Option Int
  path : String
  query : Option String
  fragment : Option String
deriving DecidableEq, Repr

namespace Address

/-- Why a text is no address. -/
inductive Defect where
  | tooLong
  | unprintable (c : Char) (position : Nat)
  | badPort (text : String)
  | badNumber (host : String)
  | relativeSlashes
  | relativeColon
  | noSlash
deriving DecidableEq, Repr

def Defect.message : Defect → String
  | .tooLong => "URL too long"
  | .unprintable c position =>
    "Invalid non-printable ASCII character in URL, " ++ Text.quoted c.toString ++
      " at position " ++ toString position ++ "."
  | .badPort text => "Invalid port: " ++ Text.quoted text
  | .badNumber host => "Invalid IPv4 address: " ++ Text.quoted host
  | .relativeSlashes => "Relative URLs cannot have a path starting with '//'"
  | .relativeColon => "Relative URLs cannot have a path starting with ':'"
  | .noSlash => "For absolute URLs, path must be empty or begin with '/'"

/-! ## Characters -/

/-- Characters that stand as they are in some part: printable ones without `others`. -/
def keepBut (others : String) (c : Char) : Bool :=
  0x21 ≤ c.toNat && c.toNat < 0x7F && !"\"#<>".toList.contains c && !others.toList.contains c

def keepInPath : Char → Bool := keepBut "?`\x7b\x7d"

def keepInQuery : Char → Bool := keepBut ""

def keepInFragment (c : Char) : Bool := c == '#' || keepBut "`" c

def keepInUser : Char → Bool := keepBut "?`\x7b\x7d/:;=@[\\]^|"

def keepInHost (c : Char) : Bool :=
  Text.Percent.isUnreserved c || "!$&'()*+,;=\"`\x7b\x7d%|\\".toList.contains c

/-- Encodes a part. -/
def encoded (keep : Char → Bool) (cs : List Char) : String :=
  String.ofList (Text.Percent.encodeRest keep cs)

/-! ## Splitting -/

/-- What stands before the first character that satisfies `p`, and what begins with it. -/
def splitAt (p : Char → Bool) (cs : List Char) : List Char × List Char :=
  (cs.takeWhile fun c => !p c, cs.dropWhile fun c => !p c)

/-- A scheme before a colon: a letter, then letters, digits and three marks. -/
def scheme? (cs : List Char) : Option (List Char × List Char) :=
  match splitAt (· == ':') cs with
  | (c :: scheme, ':' :: rest) =>
    if c.isAlpha && scheme.all fun d => d.isAlphanum || d == '+' || d == '.' || d == '-' then
      some (c :: scheme, rest)
    else none
  | _ => none

/-- The authority after two slashes. -/
def authority? (cs : List Char) : Option (List Char × List Char) :=
  match cs with
  | '/' :: '/' :: rest => some (splitAt (fun c => c == '/' || c == '?' || c == '#') rest)
  | _ => none

/-- The part after a mark, when the text begins with it. -/
def partAfter (mark : Char) (stop : Char → Bool) (cs : List Char) :
    Option (List Char) × List Char :=
  match cs with
  | c :: rest =>
    if c == mark then
      let (part, rest) := splitAt stop rest
      (some part, rest)
    else (none, cs)
  | [] => (none, [])

/-- User and the rest of an authority. -/
def splitUser (cs : List Char) : List Char × List Char :=
  match splitAt (· == '@') cs with
  | (user, '@' :: rest) => (user, rest)
  | _ => ([], cs)

/-- Host and port of an authority without user. -/
def splitPort (cs : List Char) : List Char × List Char :=
  let (host, rest) :=
    match cs with
    | '[' :: _ =>
      if cs.contains ']' then
        let back := cs.reverse
        ((back.dropWhile (· != ']')).reverse, (back.takeWhile (· != ']')).reverse)
      else splitAt (· == ':') cs
    | _ => splitAt (· == ':') cs
  (host, match rest with
    | ':' :: port => port
    | port => port)

/-! ## Normal forms -/

/-- The port that a scheme uses when none is given. -/
def usualPort? : String → Option Int
  | "ftp" => some 21
  | "http" => some 80
  | "https" => some 443
  | "ws" => some 80
  | "wss" => some 443
  | _ => none

/-- The port of a text. -/
def portOf (scheme : String) (cs : List Char) : Except Defect (Option Int) :=
  if cs.isEmpty then .ok none
  else
    match Number.wholeText? (String.ofList cs) with
    | none => .error (.badPort (String.ofList cs))
    | some port => .ok (if usualPort? scheme == some port then none else some port)

/-- Is the host four numbers with a character between each two? -/
def looksNumeric (cs : List Char) : Bool :=
  let parts := Text.splitOn (· == '.') cs
  parts.length == 4 && parts.all fun part => !part.isEmpty && part.all Json.isDigit

/-- Are the numbers bytes, without zeros in front? -/
def isNumeric (cs : List Char) : Bool :=
  (Text.splitOn (· == '.') cs).all fun part =>
    part.length ≤ 3 && Json.digitsValue part ≤ 255 && (part.length == 1 || part.head? != some '0')

/-- The host of a text. -/
def hostOf (cs : List Char) : Except Defect String :=
  if looksNumeric cs then
    if isNumeric cs then .ok (String.ofList cs) else .error (.badNumber (String.ofList cs))
  else
    match cs with
    | '[' :: rest => .ok (String.ofList rest.dropLast)
    | _ => .ok (encoded keepInHost (Text.lower (String.ofList cs)).toList)

/-- A path without steps that stay or go up; going up from the top changes nothing. -/
def dropSteps (path : List Char) : List Char :=
  let steps := Text.splitOn (· == '/') path
  let kept := steps.foldl (fun kept step =>
    if step == ['.'] then kept
    else if step == ['.', '.'] then
      (if kept.isEmpty || kept == [[]] then kept else kept.tail)
    else step :: kept) []
  (kept.reverse.intersperse ['/']).flatten

/-- Why a path cannot follow what stands before it. -/
def pathDefect? (hasScheme hasAuthority : Bool) (path : List Char) : Option Defect :=
  match path with
  | [] => none
  | '/' :: rest =>
    if !hasScheme && !hasAuthority && rest.head? == some '/' then some .relativeSlashes else none
  | c :: _ =>
    if hasAuthority then some .noSlash
    else if !hasScheme && c == ':' then some .relativeColon
    else none

/-- An address from parts that are not in normal form. -/
def ofParts (scheme user host port path : List Char) (query fragment : Option (List Char)) :
    Except Defect Address := do
  let scheme := Text.lowerAscii (String.ofList scheme)
  let host ← hostOf host
  let port ← portOf scheme port
  let hasScheme := !scheme.isEmpty
  let hasAuthority := !user.isEmpty || !host.isEmpty || port.isSome
  match pathDefect? hasScheme hasAuthority path with
  | some d => .error d
  | none =>
    let path := if hasScheme || hasAuthority then dropSteps path else path
    .ok
      { scheme := scheme
        user := encoded keepInUser user
        host := host
        port := port
        path := encoded keepInPath path
        query := query.map (encoded keepInQuery)
        fragment := fragment.map (encoded keepInFragment) }

/-! ## Reading -/

/-- The greatest length of an address. -/
def maxLength : Nat := 65536

/-- The first control character and its position. -/
def unprintable? (cs : List Char) : Option Defect :=
  let isControl := fun c : Char => c.toNat < 0x20 || c.toNat == 0x7F
  (cs.find? isControl).map fun c => .unprintable c (cs.takeWhile fun c => !isControl c).length

/-- Reads an address. -/
def read (s : String) : Except Defect Address :=
  let cs := s.toList
  if maxLength < cs.length then .error .tooLong
  else
    match unprintable? cs with
    | some d => .error d
    | none =>
      let (scheme, rest) := (scheme? cs).getD ([], cs)
      let (authority, rest) := (authority? rest).getD ([], rest)
      let (path, rest) := splitAt (fun c => c == '?' || c == '#') rest
      let (query, rest) := partAfter '?' (· == '#') rest
      let (fragment, _) := partAfter '#' (fun _ => false) rest
      let (user, rest) := splitUser authority
      let (host, port) := splitPort rest
      ofParts scheme user host port path query fragment

/-! ## Writing -/

/-- Host and port. -/
def place (a : Address) : String :=
  let host := if a.host.toList.contains ':' then "[" ++ a.host ++ "]" else a.host
  match a.port with
  | some port => host ++ ":" ++ toString port
  | none => host

def toText (a : Address) : String :=
  let authority := (if a.user.isEmpty then "" else a.user ++ "@") ++ a.place
  (if a.scheme.isEmpty then "" else a.scheme ++ ":") ++
    (if authority.isEmpty then "" else "//" ++ authority) ++ a.path ++
    (match a.query with
      | some q => "?" ++ q
      | none => "") ++
    (match a.fragment with
      | some f => "#" ++ f
      | none => "")

/-- Path and query as they are asked for; an empty path is the root. -/
def target (a : Address) : String :=
  (if a.path.isEmpty then "/" else a.path) ++
    (match a.query with
      | some q => "?" ++ q
      | none => "")

/-! ## Joining -/

/-- The address with another path and query. -/
def withTarget (a : Address) (target : String) : Except Defect Address :=
  let (path, query) := splitAt (· == '?') target.toList
  let hasScheme := !a.scheme.isEmpty
  let hasAuthority := !a.user.isEmpty || !a.host.isEmpty || a.port.isSome
  match pathDefect? hasScheme hasAuthority path with
  | some d => .error d
  | none =>
    .ok
      { a with
        path := encoded keepInPath (if hasScheme || hasAuthority then dropSteps path else path)
        query := (match query with
          | '?' :: q => some (encoded keepInQuery q)
          | _ => none) }

/-- The base address of a client (`base_url`): one that ends with a slash. -/
def base (s : String) : Except Defect Address := do
  let a ← read s
  if a.target.endsWith "/" then .ok a else a.withTarget (a.target ++ "/")

/-- What a client with a base address asks for. -/
def join (base : Address) (s : String) : Except Defect Address := do
  let a ← read s
  if !a.scheme.isEmpty && !a.host.isEmpty then .ok a
  else base.withTarget (base.target ++ String.ofList (a.target.toList.dropWhile (· == '/')))

end Address

end FeatureFlags.Http
