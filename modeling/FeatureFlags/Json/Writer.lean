import FeatureFlags.Json
import FeatureFlags.Text.Quoted

/-!
# Writing JSON

A value on one line. Members and items are separated by a comma, names from values by a colon, and
after both comes a space unless the text is to be compact. Strings escape the quote, the backslash
and the controls below U+0020; in the ASCII form they escape every character above U+007E as well,
by its UTF-16 units.
-/

namespace FeatureFlags.Json

/-- How a value is written: with which characters as they are, and with what after a comma or a
colon. -/
structure Style where
  ascii : Bool
  gap : List Char

/-- A UTF-16 unit as an escape. -/
def unitEscape (n : Nat) : List Char := '\\' :: 'u' :: Text.hexDigits 4 n

/-- The escapes of a character by its UTF-16 units. -/
def unitEscapes (c : Char) : List Char :=
  let n := c.toNat
  if n < 0x10000 then unitEscape n
  else
    unitEscape (0xD800 + (n - 0x10000) / 0x400) ++ unitEscape (0xDC00 + (n - 0x10000) % 0x400)

/-- One character of a string. -/
def writeChar (ascii : Bool) (c : Char) : List Char :=
  if c == '"' || c == '\\' then ['\\', c]
  else if c == '\n' then ['\\', 'n']
  else if c == '\r' then ['\\', 'r']
  else if c == '\t' then ['\\', 't']
  else if c.toNat == 0x8 then ['\\', 'b']
  else if c.toNat == 0xC then ['\\', 'f']
  else if c.toNat < 0x20 then unitEscape c.toNat
  else if ascii && 0x7E < c.toNat then unitEscapes c
  else [c]

/-- A string between its quotes. -/
def writeString (ascii : Bool) (s : String) : List Char :=
  '"' :: s.toList.flatMap (writeChar ascii) ++ ['"']

/-- A binary64 number by its shortest digits. -/
def writeReal : Binary64 → List Char
  | .nan => "NaN".toList
  | .infinite s => (if s then "-Infinity" else "Infinity").toList
  | x => x.toText.toList

def writeInt (i : Int) : List Char :=
  (if i < 0 then ['-'] else []) ++ Nat.toDigits 10 i.natAbs

mutual

/-- A value, character by character. -/
def write (style : Style) : Json → List Char
  | .null => "null".toList
  | .bool b => (if b then "true" else "false").toList
  | .int i => writeInt i
  | .real x => writeReal x
  | .string s => writeString style.ascii s
  | .unpaired => "\"\\ufffd\"".toList
  | .array items => '[' :: writeItems style items ++ [']']
  | .object members => '\x7b' :: writeMembers style members ++ ['\x7d']

def writeItems (style : Style) : List Json → List Char
  | [] => []
  | [v] => write style v
  | v :: rest => write style v ++ ',' :: style.gap ++ writeItems style rest

def writeMembers (style : Style) : List (String × Json) → List Char
  | [] => []
  | [(name, v)] => writeString style.ascii name ++ ':' :: style.gap ++ write style v
  | (name, v) :: rest =>
    writeString style.ascii name ++ ':' :: style.gap ++ write style v ++
      ',' :: style.gap ++ writeMembers style rest

end

/-- The text of a value with all characters as they are, as `JsonFormatter.format` writes it. -/
def toText (v : Json) : String := String.ofList (write ⟨false, [' ']⟩ v)

/-- The text of a value in ASCII alone. -/
def toAsciiText (v : Json) : String := String.ofList (write ⟨true, [' ']⟩ v)

/-- The text of a value with all characters as they are and no spaces between them. -/
def toCompactText (v : Json) : String := String.ofList (write ⟨false, []⟩ v)

end FeatureFlags.Json
