import FeatureFlags.Text.Case
import FeatureFlags.Validation

/-!
# Reading single values

One function for each kind of value that a field may hold. Truth values are read generously: a
number equal to zero or one and a dozen words stand for them. Strings are read as they are; a text
field of a payload is trimmed of white characters before its length is measured.
-/

namespace FeatureFlags.Checked

variable {α : Type}

/-- A string as it is. -/
def string (v : Json) : Checked String :=
  match v with
  | .string s => .accepted s
  | _ => flawed .notString v

/-- Bounds on the number of characters of a text. -/
structure Bounds where
  least : Option Nat := none
  most : Option Nat := none

/-- The flaw of a length outside its bounds. -/
def Bounds.flaw? (b : Bounds) (length : Nat) : Option Flaw :=
  (b.least.bind fun least => if length < least then some (.tooShort least) else none).or
    (b.most.bind fun most => if most < length then some (.tooLong most) else none)

/-- A trimmed string of a length within bounds, as the fields of a `_PayloadModel` are read. -/
def text (b : Bounds) (v : Json) : Checked String :=
  (string v).andThen fun s =>
    let s := Text.trim Text.isWhite s
    match b.flaw? s.length with
    | some flaw => flawed flaw v
    | none => .accepted s

/-- Null, or what `read` reads. -/
def nullable (read : Json → Checked α) (v : Json) : Checked (Option α) :=
  match v with
  | .null => .accepted none
  | _ => (read v).map some

/-- The words for false, in lower case. -/
def falseWords : List String := ["0", "off", "f", "false", "n", "no"]

/-- The words for true, in lower case. -/
def trueWords : List String := ["1", "on", "t", "true", "y", "yes"]

/-- The truth value that a word stands for, in any case. -/
def boolWord? (s : String) : Option Bool :=
  let s := Text.lowerAscii s
  if falseWords.contains s then some false else if trueWords.contains s then some true else none

/-- The truth value that a number stands for. -/
def boolNumber? (i : Int) : Option Bool :=
  if i == 0 then some false else if i == 1 then some true else none

/-- The whole numbers of 64 bits. -/
def isWord64 (i : Int) : Bool := -9223372036854775808 ≤ i && i ≤ 9223372036854775807

/-- The whole number of 64 bits that a real number is equal to. -/
def wholeReal? (x : Binary64) : Option Int :=
  (x.toInt?).filter fun i => isWord64 i && i != -9223372036854775808

/-- A truth value. -/
def bool (v : Json) : Checked Bool :=
  let number (i : Int) : Checked Bool :=
    match boolNumber? i with
    | some b => .accepted b
    | none => flawed .unclearBool v
  match v with
  | .bool b => .accepted b
  | .int i => if isWord64 i then number i else flawed .notBool v
  | .real x =>
    match wholeReal? x with
    | some i => number i
    | none => flawed .notBool v
  | .string s =>
    match boolWord? s with
    | some b => .accepted b
    | none => flawed .unclearBool v
  | .unpaired => flawed .unclearBool v
  | _ => flawed .notBool v

/-- A point in time. -/
def timestamp (v : Json) : Checked Timestamp :=
  let count (r : Except Timestamp.Reason Timestamp) : Checked Timestamp :=
    match r with
    | .ok t => .accepted t
    | .error reason => flawed (.badCount reason) v
  match v with
  | .string s =>
    match Timestamp.read s.toList with
    | .ok t => .accepted t
    | .error reason => flawed (.badTimestamp reason) v
  | .int i => count (Timestamp.ofCount i 0)
  | .real x => count (Timestamp.ofReal x)
  | _ => flawed .notTimestamp v

/-- One of a set of named values; `flaw` says that it is none of them. -/
def choice (flaw : Flaw) (ofName? : String → Option α) (v : Json) : Checked α :=
  match v with
  | .string s =>
    match ofName? s with
    | some a => .accepted a
    | none => flawed flaw v
  | _ => flawed flaw v

end FeatureFlags.Checked
