import FeatureFlags.Json.Reader
import FeatureFlags.Json.Writer

/-!
# JSON as bytes

JSON is sent as bytes, in UTF-8, UTF-16 or UTF-32. It starts with a character of ASCII, so zeros
among the first bytes tell which of these it is. A mark of byte order in front of UTF-8 does not
count as part of it.

What is sent here is always a text in UTF-8; its bytes may be JSON in another encoding all the same.
-/

namespace FeatureFlags.Json

/-- How characters are written as bytes; of the bytes of one number the highest comes first or
last. -/
inductive Encoding where
  | utf8
  | utf16 (highFirst : Bool)
  | utf32 (highFirst : Bool)
deriving DecidableEq, Repr

/-- The encoding that the first bytes tell (`detect_encoding`). -/
def Encoding.detect : List Nat → Encoding
  | [0, _] => .utf16 true
  | [_, 0] => .utf16 false
  | 0 :: 0 :: _ :: _ :: _ => .utf32 true
  | 0 :: _ :: _ :: _ :: _ => .utf16 true
  | _ :: 0 :: 0 :: 0 :: _ => .utf32 false
  | _ :: 0 :: _ :: _ :: _ => .utf16 false
  | _ => .utf8

/-- Two digits to a base as one number, all along a list; nothing when a digit is left over. -/
def pairUp (highFirst : Bool) (base : Nat) : List Nat → Option (List Nat)
  | [] => some []
  | [_] => none
  | a :: b :: rest =>
    let n := if highFirst then a * base + b else b * base + a
    (pairUp highFirst base rest).map (n :: ·)

/-- The sign of a number; half of a surrogate pair stands alone. -/
def signOf (n : Nat) : Sign := if isSurrogate n then .half n else .char (Char.ofNat n)

/-- The signs of UTF-16 units. -/
def signsOfUnits : List Nat → List Sign
  | [] => []
  | [n] => [signOf n]
  | high :: low :: rest =>
    if isHighSurrogate high && isSurrogate low && !isHighSurrogate low then
      .char (joinSurrogates high low) :: signsOfUnits rest
    else signOf high :: signsOfUnits (low :: rest)

/-- The signs of bytes in UTF-16. -/
def utf16? (highFirst : Bool) (bytes : List Nat) : Option (List Sign) :=
  (pairUp highFirst 0x100 bytes).map signsOfUnits

/-- The signs of bytes in UTF-32. -/
def utf32? (highFirst : Bool) (bytes : List Nat) : Option (List Sign) := do
  let units ← pairUp highFirst 0x100 bytes
  let numbers ← pairUp highFirst 0x10000 units
  if numbers.all (· < 0x110000) then some (numbers.map signOf) else none

/-- A sign as JSON has it: half of a pair is escaped. -/
def Sign.written : Sign → List Char
  | .char c => [c]
  | .half unit => unitEscape unit

/-- The bytes of characters in UTF-8. -/
def bytesOf (cs : List Char) : List Nat := (cs.flatMap String.utf8EncodeChar).map UInt8.toNat

/-- The characters of JSON that is sent as a text. There are none when its bytes are taken for
another encoding and are no characters there. -/
def sent? (s : String) : Option (List Char) :=
  match s.toList with
  | '\ufeff' :: cs => some cs
  | cs =>
    let bytes := bytesOf cs
    match Encoding.detect bytes with
    | .utf8 => some cs
    | .utf16 highFirst => (utf16? highFirst bytes).map (·.flatMap Sign.written)
    | .utf32 highFirst => (utf32? highFirst bytes).map (·.flatMap Sign.written)

end FeatureFlags.Json
