import FeatureFlags.Json.Display
import FeatureFlags.Json.Reader

/-!
# Message templates

A template is a text with places for arguments. A place begins with a percent sign and ends with a
letter that says how its argument is written; between them stand, each of them optional, a name in
parentheses, flags, a least width, a precision after a point, and a length letter without meaning.

The arguments are taken in order, or by name from a single object. A template and arguments that
do not fit together give no message.
-/

namespace FeatureFlags.Log.Template

/-- What a place says about how its argument is written. -/
structure Spec where
  left : Bool := false
  plus : Bool := false
  blank : Bool := false
  alternate : Bool := false
  zero : Bool := false
  width : Nat := 0
  precision : Option Nat := none

/-- The arguments that are left. An object on its own can be asked for by name, and need not be
used up. -/
structure Arguments where
  rest : List Json
  named : Option (List (String × Json))

/-- The arguments of a message: a single object that is not empty gives its members by name. -/
def Arguments.of (args : List Json) : Arguments :=
  match args with
  | [.object members] =>
    if members.isEmpty then ⟨args, none⟩ else ⟨args, some members⟩
  | _ => ⟨args, none⟩

/-- Takes the next argument. -/
def Arguments.take? (a : Arguments) : Option (Json × Arguments) :=
  match a.rest with
  | v :: rest => some (v, { a with rest })
  | [] => none

/-! ## Numbers -/

/-- The digits of a natural number to a base from 2 to 16. -/
def baseDigits (base n : Nat) : List Char := Nat.toDigits base n

/-- The sign that goes before a number. -/
def signOf (s : Spec) (negative : Bool) : List Char :=
  if negative then ['-'] else if s.plus then ['+'] else if s.blank then [' '] else []

/-- Sign, mark of the base and digits, filled to the width. -/
def assemble (s : Spec) (sign mark body : List Char) : List Char :=
  let fill := s.width - (sign.length + mark.length + body.length)
  if s.left then sign ++ mark ++ body ++ List.replicate fill ' '
  else if s.zero then sign ++ mark ++ List.replicate fill '0' ++ body
  else List.replicate fill ' ' ++ sign ++ mark ++ body

/-- A whole number to a base. -/
def integer (s : Spec) (base : Nat) (upper : Bool) (mark : List Char) (i : Int) : List Char :=
  let digits := baseDigits base i.natAbs
  let digits := List.replicate ((s.precision.getD 0) - digits.length) '0' ++ digits
  let digits := if upper then digits.map Char.toUpper else digits
  assemble s (signOf s (i < 0)) (if s.alternate then mark else []) digits

/-- The whole number that an argument is written as by `d`; fractions are dropped. -/
def truncated? : Json → Option Int
  | .int i => some i
  | .bool b => some (if b then 1 else 0)
  | .real x => x.truncate?
  | _ => none

/-- The whole number that an argument is. -/
def whole? : Json → Option Int
  | .int i => some i
  | .bool b => some (if b then 1 else 0)
  | _ => none

/-- The binary64 number that an argument is written as. -/
def real? : Json → Option Binary64
  | .real x => some x
  | .int i =>
    let x := Binary64.ofInt i
    if x.isFinite then some x else none
  | .bool b => some (Binary64.ofInt (if b then 1 else 0))
  | _ => none

/-- The magnitude of a real number by the letter of its place. -/
def magnitude (letter : Char) (s : Spec) : Binary64 → List Char
  | .nan => ['n', 'a', 'n']
  | .infinite _ => ['i', 'n', 'f']
  | .finite _ m e =>
    let places := s.precision.getD 6
    if letter == 'f' then Binary64.fixedText places s.alternate m e
    else if letter == 'e' then Binary64.exponentForm 'e' places s.alternate m e
    else Binary64.generalText 'e' places s.alternate m e

/-- A real number. -/
def real (s : Spec) (letter : Char) (x : Binary64) : List Char :=
  let body := magnitude letter.toLower s x
  let body := if letter.isUpper then body.map Char.toUpper else body
  assemble s (signOf s x.isNegative) [] body

/-! ## Text -/

/-- A text, cut to the precision and filled to the width. -/
def textual (s : Spec) (cs : List Char) : List Char :=
  let cs := match s.precision with
    | some n => cs.take n
    | none => cs
  let fill := List.replicate (s.width - cs.length) ' '
  if s.left then cs ++ fill else fill ++ cs

/-- A single character: a text of one, or the character with a number. -/
def character? : Json → Option (List Char)
  | .string s => if s.length == 1 then some s.toList else none
  | .int i =>
    if 0 ≤ i && i < 0x110000 && !(0xD800 ≤ i && i < 0xE000) then some [Char.ofNat i.toNat]
    else none
  | .bool b => some [Char.ofNat (if b then 1 else 0)]
  | _ => none

/-- An argument written by the letter of its place. -/
def convert? (s : Spec) (letter : Char) (v : Json) : Option (List Char) :=
  match letter with
  | 's' => some (textual s v.display.toList)
  | 'r' => some (textual s v.shown.toList)
  | 'a' => some (textual s v.shownAscii.toList)
  | 'd' => (truncated? v).map (integer s 10 false [])
  | 'i' => (truncated? v).map (integer s 10 false [])
  | 'u' => (truncated? v).map (integer s 10 false [])
  | 'x' => (whole? v).map (integer s 16 false ['0', 'x'])
  | 'X' => (whole? v).map (integer s 16 true ['0', 'X'])
  | 'o' => (whole? v).map (integer s 8 false ['0', 'o'])
  | 'c' => (character? v).map (textual { s with precision := none })
  | _ =>
    if ['e', 'E', 'f', 'F', 'g', 'G'].contains letter then (real? v).map (real s letter) else none

/-! ## Places -/

/-- The flags at the start of a place. -/
def readFlags (s : Spec) : List Char → Spec × List Char
  | '-' :: rest => readFlags { s with left := true } rest
  | '+' :: rest => readFlags { s with plus := true } rest
  | ' ' :: rest => readFlags { s with blank := true } rest
  | '#' :: rest => readFlags { s with alternate := true } rest
  | '0' :: rest => readFlags { s with zero := true } rest
  | rest => (s, rest)

/-- A number of a place: digits, or a star for the next argument. -/
def readCount? (a : Arguments) (cs : List Char) : Option (Int × Arguments × List Char) :=
  match cs with
  | '*' :: rest =>
    match a.take? with
    | some (.int i, a) => some (i, a, rest)
    | some (.bool b, a) => some (if b then 1 else 0, a, rest)
    | _ => none
  | _ => some (Json.digitsValue (cs.takeWhile Json.isDigit), a, cs.dropWhile Json.isDigit)

/-- The name of a place; parentheses inside it are balanced. -/
def readName? : Nat → List Char → List Char → Option (String × List Char)
  | _, _, [] => none
  | depth, got, c :: rest =>
    if c == ')' then
      match depth with
      | 0 => some (String.ofList got.reverse, rest)
      | depth + 1 => readName? depth (c :: got) rest
    else readName? (if c == '(' then depth + 1 else depth) (c :: got) rest

/-- The argument that a place asks for by name becomes the only one left. -/
def named? (a : Arguments) (cs : List Char) : Option (Arguments × List Char) :=
  match cs with
  | '(' :: rest => do
    let members ← a.named
    let (name, rest) ← readName? 0 [] rest
    let v ← Json.member? members name
    some ({ a with rest := [v] }, rest)
  | _ => some (a, cs)

/-- Is a number one of `bits` bits with a sign? -/
def fits (bits : Nat) (n : Int) : Bool :=
  let bound : Int := Nat.pow 2 (bits - 1)
  n < bound && -bound ≤ n

/-- The width of a place, a number of 64 bits; a negative one fills on the right. -/
def readWidth? (s : Spec) (a : Arguments) (cs : List Char) :
    Option (Spec × Arguments × List Char) := do
  let (n, a, rest) ← readCount? a cs
  if fits 64 n then some ({ s with width := n.natAbs, left := s.left || n < 0 }, a, rest)
  else none

/-- The precision of a place, if it has one, a number of 32 bits; a negative one counts as zero. -/
def readPrecision? (s : Spec) (a : Arguments) (cs : List Char) :
    Option (Spec × Arguments × List Char) :=
  match cs with
  | '.' :: rest => do
    let (n, a, rest) ← readCount? a rest
    if fits 32 n then some ({ s with precision := some n.toNat }, a, rest) else none
  | _ => some (s, a, cs)

/-- The argument at the place after a percent sign, written, with the arguments and the characters
left. -/
def argument? (a : Arguments) (cs : List Char) : Option (List Char × Arguments × List Char) := do
  let (a, cs) ← named? a cs
  let (s, cs) := readFlags {} cs
  let (s, a, cs) ← readWidth? s a cs
  let (s, a, cs) ← readPrecision? s a cs
  let cs := match cs with
    | c :: rest => if c == 'h' || c == 'l' || c == 'L' then rest else cs
    | [] => cs
  match cs with
  | letter :: rest =>
    let (v, a) ← a.take?
    let written ← convert? s letter v
    some (written, a, rest)
  | [] => none

/-- The place after a percent sign; a second percent sign stands for itself. -/
def place? (a : Arguments) : List Char → Option (List Char × Arguments × List Char)
  | '%' :: rest => some (['%'], a, rest)
  | cs => argument? a cs

/-- A template filled with arguments, which have to be used up unless they have names. -/
def fillFrom? : Nat → Arguments → List Char → Option (List Char)
  | 0, _, _ => none
  | _ + 1, a, [] => if a.rest.isEmpty || a.named.isSome then some [] else none
  | fuel + 1, a, '%' :: rest => do
    let (written, a, rest) ← place? a rest
    let more ← fillFrom? fuel a rest
    some (written ++ more)
  | fuel + 1, a, c :: rest => (fillFrom? fuel a rest).map (c :: ·)

/-- The message of a template and arguments (`getMessage`); without arguments the template
itself. -/
def fill? (template : String) (args : List Json) : Option String :=
  if args.isEmpty then some template
  else
    let cs := template.toList
    (fillFrom? (cs.length + 1) (.of args) cs).map String.ofList

end FeatureFlags.Log.Template
