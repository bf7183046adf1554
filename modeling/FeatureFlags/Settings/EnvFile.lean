import FeatureFlags.Table
import FeatureFlags.Text.Blank

/-!
# Environment files

A file that assigns texts to names, one assignment a line. The name may follow the word `export`
and may stand in single quotes; a name without an equal sign has no value. A value in quotes may go
over several lines and has escapes; one without ends before a comment. In every value a reference
to a name, between braces after a dollar sign, is replaced by the value of the name; a reference
may bring its own default. A line that is none of this is passed over.
-/

namespace FeatureFlags.EnvFile

/-- A name with its value, if it has one. -/
abbrev Assignment := String × Option (List Char)

/-! ## Lines -/

/-- Blank, but no end of a line. -/
def isSpace (c : Char) : Bool := Text.isBlank c && c != '\n'

def skipSpaces (cs : List Char) : List Char := cs.dropWhile isSpace

/-- What follows the line. -/
def nextLine (cs : List Char) : List Char := (cs.dropWhile (· != '\n')).drop 1

/-- All ends of lines written as one character. -/
def unixLines : List Char → List Char
  | '\r' :: '\n' :: rest => '\n' :: unixLines rest
  | '\r' :: rest => '\n' :: unixLines rest
  | c :: rest => c :: unixLines rest
  | [] => []

/-- What follows the line, when nothing but a comment is left of it. -/
def lineEnd? (cs : List Char) : Option (List Char) :=
  match skipSpaces cs with
  | [] => some []
  | '\n' :: rest => some rest
  | '#' :: rest => some (nextLine rest)
  | _ => none

/-! ## Names -/

/-- Skips the word `export` with the blanks after it. -/
def skipExport (cs : List Char) : List Char :=
  let word := "export".toList
  let rest := cs.drop word.length
  if word.isPrefixOf cs && rest.head?.any isSpace then skipSpaces rest else cs

/-- A name and what follows it. -/
def readName? (cs : List Char) : Option (String × List Char) :=
  match cs with
  | '\'' :: cs =>
    let name := cs.takeWhile (· != '\'')
    match cs.dropWhile (· != '\'') with
    | _ :: rest => if name.isEmpty then none else some (String.ofList name, rest)
    | [] => none
  | _ =>
    let inName := fun c => c != '=' && c != '#' && !Text.isBlank c
    let name := cs.takeWhile inName
    if name.isEmpty then none else some (String.ofList name, cs.dropWhile inName)

/-! ## Values -/

/-- The text up to the closing quote and what follows it. A quote after a backslash does not
close, unless there is no other; then the last such quote does. -/
def toQuote (quote : Char) (got : List Char) (last : Option (List Char × List Char)) :
    List Char → Option (List Char × List Char)
  | [] => last
  | '\\' :: c :: rest =>
    if c == quote then
      toQuote quote (c :: '\\' :: got) (some (('\\' :: got).reverse, rest)) rest
    else toQuote quote ('\\' :: got) last (c :: rest)
  | c :: rest =>
    if c == quote then some (got.reverse, rest) else toQuote quote (c :: got) last rest

/-- The character that an escape in single quotes stands for. -/
def singleEscape? : Char → Option Char
  | '\\' => some '\\'
  | '\'' => some '\''
  | _ => none

/-- The character that an escape in double quotes stands for. -/
def doubleEscape? : Char → Option Char
  | '\\' => some '\\'
  | '\'' => some '\''
  | '"' => some '"'
  | 'a' => some '\x07'
  | 'b' => some '\x08'
  | 'f' => some '\x0c'
  | 'n' => some '\n'
  | 'r' => some '\r'
  | 't' => some '\t'
  | 'v' => some '\x0b'
  | _ => none

/-- Replaces escapes; a backslash that makes none stays. -/
def unescape (escape? : Char → Option Char) : List Char → List Char
  | '\\' :: c :: rest =>
    match escape? c with
    | some c' => c' :: unescape escape? rest
    | none => '\\' :: unescape escape? (c :: rest)
  | c :: rest => c :: unescape escape? rest
  | [] => []

/-- Cuts a comment off, with the blanks before it. -/
def withoutComment : List Char → List Char
  | [] => []
  | c :: rest =>
    if Text.isBlank c && (rest.dropWhile Text.isBlank).head? == some '#' then []
    else c :: withoutComment rest

/-- A value and what follows it. -/
def readValue? (cs : List Char) : Option (List Char × List Char) :=
  match cs with
  | '\'' :: cs => (toQuote '\'' [] none cs).map fun (v, rest) => (unescape singleEscape? v, rest)
  | '"' :: cs => (toQuote '"' [] none cs).map fun (v, rest) => (unescape doubleEscape? v, rest)
  | _ =>
    let line := cs.takeWhile (· != '\n')
    some (Text.trimEnd Text.isBlank (withoutComment line), cs.dropWhile (· != '\n'))

/-! ## Assignments -/

/-- The name, or nothing for a comment. -/
def readSubject? (cs : List Char) : Option (Option String × List Char) :=
  match cs with
  | '#' :: _ => some (none, cs)
  | _ => (readName? cs).map fun (name, rest) => (some name, rest)

/-- Ends a line after an assignment; when something else follows, the line assigns nothing. -/
def close (subject : Option String) (value : Option (List Char)) (rest : List Char) :
    Option Assignment × List Char :=
  match lineEnd? rest with
  | some next => (subject.map fun name => (name, value), next)
  | none => (none, nextLine rest)

/-- The assignment at the start of a text, if there is one, and what follows it. -/
def readAssignment (cs : List Char) : Option Assignment × List Char :=
  let cs := skipExport (cs.dropWhile Text.isBlank)
  match readSubject? cs with
  | none => (none, nextLine cs)
  | some (subject, rest) =>
    match skipSpaces rest with
    | '=' :: rest =>
      let rest := skipSpaces rest
      match readValue? rest with
      | none => (none, nextLine rest)
      | some (value, rest) => close subject (some value) rest
    | rest => close subject none rest

/-- All assignments of a text, in order. -/
def readAll (cs : List Char) : List Assignment :=
  if cs.isEmpty then []
  else
    let (found, rest) := readAssignment cs
    if rest.length < cs.length then found.toList ++ readAll rest else found.toList
termination_by cs.length

/-! ## References -/

/-- A reference at the start of a text: its name, its default, and what follows it. -/
def reference? (cs : List Char) : Option (String × Option (List Char) × List Char) :=
  match cs with
  | '$' :: '\x7b' :: cs =>
    let inName := fun c => c != '\x7d' && c != ':'
    let name := String.ofList (cs.takeWhile inName)
    match cs.dropWhile inName with
    | '\x7d' :: rest => some (name, none, rest)
    | ':' :: '-' :: cs =>
      match cs.dropWhile (· != '\x7d') with
      | _ :: rest => some (name, some (cs.takeWhile (· != '\x7d')), rest)
      | [] => none
    | _ => none
  | _ => none

/-- Replaces the references in a value; `find?` gives the value of a name that is known, and that
may be nothing. -/
def interpolate (find? : String → Option (Option String)) (cs : List Char) : List Char :=
  match cs with
  | [] => []
  | c :: tail =>
    match reference? cs with
    | some (name, default, rest) =>
      let value :=
        match find? name with
        | some known => (known.getD "").toList
        | none => default.getD []
      if rest.length ≤ tail.length then value ++ interpolate find? rest else value
    | none => c :: interpolate find? tail
termination_by cs.length
decreasing_by all_goals simp only [List.length_cons]; omega

/-- Adds an assignment; its value may refer to names that are assigned before it or come from
outside. -/
def assign (outside : List (String × String)) (known : Table String (Option String))
    (a : Assignment) : Table String (Option String) :=
  let find? := fun name => (known.get? name).or ((outside.lookup name).map some)
  known.put a.1 (a.2.map fun v => String.ofList (interpolate find? v))

/-- The names that a file assigns, with their values (`env_file`). -/
def read (outside : List (String × String)) (file : String) : Table String (Option String) :=
  (readAll (unixLines file.toList)).foldl (assign outside) .empty

end FeatureFlags.EnvFile
