import FeatureFlags.Json

/-!
# Reading JSON

Reads one value from a text. The numbers NaN, Infinity and -Infinity are accepted; a member that
is written twice keeps its first place and its last value; lists and objects may be nested to a
depth that is given. What is wrong is told with the place where it was found, counted in characters
from the start of the text.

The reader works on the characters that are left. A place is kept as the number of characters
left there, and turned into an offset at the end.
-/

namespace FeatureFlags.Json

/-- Why a text is not JSON. -/
inductive Defect where
  | value
  | name
  | comma
  | colon
  | extra
  | control
  | escape
  | unitEscape
  | unterminated
deriving DecidableEq, Repr

def Defect.message : Defect → String
  | .value => "Expecting value"
  | .name => "Expecting property name enclosed in double quotes"
  | .comma => "Expecting ',' delimiter"
  | .colon => "Expecting ':' delimiter"
  | .extra => "Extra data"
  | .control => "Invalid control character at"
  | .escape => "Invalid \\escape"
  | .unitEscape => "Invalid \\uXXXX escape"
  | .unterminated => "Unterminated string starting at"

/-- Why no value was read: a defect with the number of characters left at its place, or a limit of
the reader that the text goes over; nesting goes over it with a value of some kind. -/
inductive Refusal where
  | defect (d : Defect) (left : Nat)
  | tooDeep (kind : String)
  | tooLong
deriving DecidableEq, Repr

/-- How deep lists and objects may be nested in what is read, which is one deep at least. The reader
goes one call deeper for each of them, so what is left to it depends on the calls around it. -/
class DepthLimit where
  depth : Nat
  pos : 0 < depth

/-- The greatest number of digits of a whole number that is read. -/
def maxIntDigits : Nat := 4300

def isSpace (c : Char) : Bool := c == ' ' || c == '\t' || c == '\n' || c == '\r'

def skipSpace (cs : List Char) : List Char := cs.dropWhile isSpace

def isDigit (c : Char) : Bool := '0' ≤ c && c ≤ '9'

/-- The number that decimal digits denote. -/
def digitsValue (cs : List Char) : Nat := cs.foldl (fun n c => n * 10 + (c.toNat - '0'.toNat)) 0

/-- The value of a hexadecimal digit. -/
def hexValue? (c : Char) : Option Nat :=
  if '0' ≤ c && c ≤ '9' then some (c.toNat - '0'.toNat)
  else if 'a' ≤ c && c ≤ 'f' then some (c.toNat - 'a'.toNat + 10)
  else if 'A' ≤ c && c ≤ 'F' then some (c.toNat - 'A'.toNat + 10)
  else none

/-! ## Strings -/

/-- The UTF-16 unit of four hexadecimal digits, if a character follows them. -/
def unit? : List Char → Option (Nat × List Char)
  | a :: b :: c :: d :: e :: rest => do
    let a ← hexValue? a
    let b ← hexValue? b
    let c ← hexValue? c
    let d ← hexValue? d
    some (((a * 16 + b) * 16 + c) * 16 + d, e :: rest)
  | _ => none

def isHighSurrogate (n : Nat) : Bool := 0xD800 ≤ n && n < 0xDC00

def isSurrogate (n : Nat) : Bool := 0xD800 ≤ n && n < 0xE000

/-- The character that a surrogate pair denotes. -/
def joinSurrogates (high low : Nat) : Char :=
  Char.ofNat (0x10000 + (high - 0xD800) * 0x400 + (low - 0xDC00))

/-- What a string is made of: characters, and halves of surrogate pairs that stand alone. -/
inductive Sign where
  | char (c : Char)
  | half (unit : Nat)
deriving DecidableEq, Repr

/-- The character of a sign, if it is one. -/
def Sign.char? : Sign → Option Char
  | .char c => some c
  | .half _ => none

/-- The character that a sign is shown by. -/
def Sign.shown (s : Sign) : Char := s.char?.getD '\ufffd'

/-- The text of signs; half of a surrogate pair leaves none. -/
def textOf? (signs : List Sign) : Option String := (signs.mapM Sign.char?).map String.ofList

/-- The sign of a unit escape. `cs` is what follows `\u`. -/
def readUnit (cs : List Char) : Except Refusal (Sign × List Char) :=
  match unit? cs with
  | none => .error (.defect .unitEscape (cs.length + 1))
  | some (high, rest) =>
    if isHighSurrogate high then
      match rest with
      | '\\' :: 'u' :: low =>
        if low.length < 5 then .ok (.half high, rest)
        else
          match unit? low with
          | none => .error (.defect .unitEscape (low.length + 1))
          | some (low, rest') =>
            if isSurrogate low && !isHighSurrogate low then
              .ok (.char (joinSurrogates high low), rest')
            else .ok (.half high, rest)
      | _ => .ok (.half high, rest)
    else if isSurrogate high then .ok (.half high, rest)
    else .ok (.char (Char.ofNat high), rest)

/-- The character that a one-letter escape denotes. -/
def simpleEscape? : Char → Option Char
  | '"' => some '"'
  | '\\' => some '\\'
  | '/' => some '/'
  | 'b' => some '\x08'
  | 'f' => some '\x0c'
  | 'n' => some '\n'
  | 'r' => some '\r'
  | 't' => some '\t'
  | _ => none

/-- The rest of a string. `start` is the number of characters left at its opening quote, and `got`
are the signs read, the last first. -/
def readString (start : Nat) : Nat → List Sign → List Char →
    Except Refusal (List Sign × List Char)
  | 0, _, _ => .error (.defect .unterminated start)
  | _ + 1, _, [] => .error (.defect .unterminated start)
  | fuel + 1, got, c :: rest =>
    if c == '"' then .ok (got.reverse, rest)
    else if c == '\\' then
      match rest with
      | [] => .error (.defect .unterminated start)
      | 'u' :: rest' =>
        match readUnit rest' with
        | .error e => .error e
        | .ok (sign, left) => readString start fuel (sign :: got) left
      | e :: rest' =>
        match simpleEscape? e with
        | some c' => readString start fuel (.char c' :: got) rest'
        | none => .error (.defect .escape (rest.length + 1))
    else if c.toNat < 0x20 then .error (.defect .control (rest.length + 1))
    else readString start fuel (.char c :: got) rest

/-! ## Numbers -/

/-- A fraction: a point and at least one digit. -/
def fraction (cs : List Char) : List Char × List Char :=
  match cs with
  | '.' :: rest =>
    let digits := rest.takeWhile isDigit
    if digits.isEmpty then ([], cs) else (digits, rest.dropWhile isDigit)
  | _ => ([], cs)

/-- An exponent: a mark, perhaps a sign, and at least one digit. -/
def exponent (cs : List Char) : Option Int × List Char :=
  match cs with
  | mark :: rest =>
    if mark == 'e' || mark == 'E' then
      let (negative, rest') :=
        match rest with
        | '-' :: r => (true, r)
        | '+' :: r => (false, r)
        | r => (false, r)
      let digits := rest'.takeWhile isDigit
      if digits.isEmpty then (none, cs)
      else (some (Binary64.signed negative (digitsValue digits)), rest'.dropWhile isDigit)
    else (none, cs)
  | [] => (none, cs)

/-- A number at the start of `cs`, the sign taken off. -/
def readNumber (negative : Bool) (cs : List Char) : Option (Except Refusal (Json × List Char)) :=
  let digits := if cs.head? == some '0' then ['0'] else cs.takeWhile isDigit
  if digits.isEmpty then none
  else
    let (places, rest) := fraction (cs.drop digits.length)
    let (power, rest) := exponent rest
    if places.isEmpty && power.isNone then
      if maxIntDigits < digits.length then some (.error .tooLong)
      else some (.ok (.int (Binary64.signed negative (digitsValue digits)), rest))
    else
      some (.ok (.real (Binary64.ofDecimal negative (digitsValue (digits ++ places))
        (power.getD 0 - places.length)), rest))

/-! ## Values -/

/-- The value of a string. -/
def stringOf (signs : List Sign) : Json := ((textOf? signs).map .string).getD .unpaired

/-- A member of an object. When its name has no text it is unpaired as a whole. -/
def memberOf (name : List Sign) (v : Json) : String × Json :=
  match textOf? name with
  | some s => (s, v)
  | none => (String.ofList (name.map Sign.shown), .unpaired)

/-- The rest after a word, when the text starts with it. -/
def afterWord? (word : String) (cs : List Char) : Option (List Char) :=
  if word.toList.isPrefixOf cs then some (cs.drop word.length) else none

/-- A word or a number. -/
def readScalar (cs : List Char) : Except Refusal (Json × List Char) :=
  let words : List (String × Json) :=
    [("null", .null), ("true", .bool true), ("false", .bool false), ("NaN", .real .nan),
      ("Infinity", .real (.infinite false)), ("-Infinity", .real (.infinite true))]
  match words.findSome? fun (word, v) => (afterWord? word cs).map fun rest => (v, rest) with
  | some found => .ok found
  | none =>
    let number := match cs with
      | '-' :: rest => readNumber true rest
      | _ => readNumber false cs
    number.getD (.error (.defect .value cs.length))

mutual

/-- One value; `depth` is how much deeper lists and objects may nest. -/
def readValue : Nat → Nat → List Char → Except Refusal (Json × List Char)
  | 0, _, cs => .error (.defect .value cs.length)
  | fuel + 1, depth, cs =>
    match cs with
    | '"' :: rest =>
      match readString cs.length (rest.length + 1) [] rest with
      | .error e => .error e
      | .ok (signs, rest') => .ok (stringOf signs, rest')
    | '[' :: rest =>
      match depth with
      | 0 => .error (.tooDeep "array")
      | depth + 1 =>
        match skipSpace rest with
        | ']' :: rest' => .ok (.array [], rest')
        | rest' => readItems fuel depth [] rest'
    | '\x7b' :: rest =>
      match depth with
      | 0 => .error (.tooDeep "object")
      | depth + 1 =>
        match skipSpace rest with
        | '\x7d' :: rest' => .ok (.object [], rest')
        | rest' => readMembers fuel depth [] rest'
    | _ => readScalar cs

/-- The items of a list up to its end, after those in `got`, the last first. -/
def readItems : Nat → Nat → List Json → List Char → Except Refusal (Json × List Char)
  | 0, _, _, cs => .error (.defect .value cs.length)
  | fuel + 1, depth, got, cs =>
    match readValue fuel depth cs with
    | .error e => .error e
    | .ok (v, rest) =>
      match skipSpace rest with
      | ']' :: rest' => .ok (.array (v :: got).reverse, rest')
      | ',' :: rest' => readItems fuel depth (v :: got) (skipSpace rest')
      | rest' => .error (.defect .comma rest'.length)

/-- The members of an object up to its end, after those in `got`. Names are the same when all their
signs are. -/
def readMembers : Nat → Nat → List (List Sign × Json) → List Char →
    Except Refusal (Json × List Char)
  | 0, _, _, cs => .error (.defect .name cs.length)
  | fuel + 1, depth, got, cs =>
    match cs with
    | '"' :: rest =>
      match readString cs.length (rest.length + 1) [] rest with
      | .error e => .error e
      | .ok (name, rest) =>
        match skipSpace rest with
        | ':' :: rest =>
          match readValue fuel depth (skipSpace rest) with
          | .error e => .error e
          | .ok (v, rest) =>
            let got := setMember name v got
            match skipSpace rest with
            | '\x7d' :: rest' => .ok (.object (got.map fun (name, v) => memberOf name v), rest')
            | ',' :: rest' => readMembers fuel depth got (skipSpace rest')
            | rest' => .error (.defect .comma rest'.length)
        | rest' => .error (.defect .colon rest'.length)
    | _ => .error (.defect .name cs.length)

end

/-- The value that characters hold, with blanks around it, where lists and objects are read to a
depth (`loads`). -/
def read (depth : Nat) (cs : List Char) : Except Refusal Json :=
  match readValue (2 * cs.length + 2) depth (skipSpace cs) with
  | .error e => .error e
  | .ok (v, rest) =>
    match skipSpace rest with
    | [] => .ok v
    | rest' => .error (.defect .extra rest'.length)

/-- The depth that is enough for a line of requests. -/
def usualDepth : Nat := 920

/-- The value that a line holds. -/
def ofText (s : String) : Except Refusal Json := read usualDepth s.toList

end FeatureFlags.Json
