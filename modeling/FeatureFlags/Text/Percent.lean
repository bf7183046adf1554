import FeatureFlags.Text.Quoted

/-!
# Percent encoding

A text as bytes in UTF-8, and bytes in hexadecimal after a percent sign. Decoding bytes never
fails: where they are no UTF-8, the longest part that could have begun a character becomes one
replacement character.
-/

namespace FeatureFlags.Text.Percent

/-! ## UTF-8 -/

/-- The bytes of a character. -/
def charBytes (c : Char) : List Nat := (String.utf8EncodeChar c).map UInt8.toNat

/-- A character that is not complete: how many bytes are to come, its bits so far, and the bounds
of the next byte. -/
structure Unfinished where
  missing : Nat
  bits : Nat
  least : Nat
  most : Nat

/-- What stands for bytes that are no character. -/
def replacement : Char := '\ufffd'

/-- What a first byte begins: a whole character, one that is not complete, or nothing. -/
def opened (b : Nat) : Char ⊕ Option Unfinished :=
  if b < 0x80 then .inl (Char.ofNat b)
  else if 0xC2 ≤ b && b ≤ 0xDF then .inr (some ⟨1, b - 0xC0, 0x80, 0xBF⟩)
  else if b == 0xE0 then .inr (some ⟨2, 0, 0xA0, 0xBF⟩)
  else if b == 0xED then .inr (some ⟨2, 0xD, 0x80, 0x9F⟩)
  else if 0xE1 ≤ b && b ≤ 0xEF then .inr (some ⟨2, b - 0xE0, 0x80, 0xBF⟩)
  else if b == 0xF0 then .inr (some ⟨3, 0, 0x90, 0xBF⟩)
  else if 0xF1 ≤ b && b ≤ 0xF3 then .inr (some ⟨3, b - 0xF0, 0x80, 0xBF⟩)
  else if b == 0xF4 then .inr (some ⟨3, 4, 0x80, 0x8F⟩)
  else .inr none

/-- The characters that are complete with a first byte, and what is left over. -/
def beginning (b : Nat) : List Char × Option Unfinished :=
  match opened b with
  | .inl c => ([c], none)
  | .inr (some u) => ([], some u)
  | .inr none => ([replacement], none)

/-- The characters of bytes. -/
def decodeBytes : Option Unfinished → List Nat → List Char
  | none, [] => []
  | some _, [] => [replacement]
  | none, b :: rest =>
    let (cs, u) := beginning b
    cs ++ decodeBytes u rest
  | some u, b :: rest =>
    if u.least ≤ b && b ≤ u.most then
      let bits := u.bits * 0x40 + (b - 0x80)
      if u.missing == 1 then Char.ofNat bits :: decodeBytes none rest
      else decodeBytes (some ⟨u.missing - 1, bits, 0x80, 0xBF⟩) rest
    else
      let (cs, v) := beginning b
      replacement :: cs ++ decodeBytes v rest

/-! ## Encoding -/

/-- A byte after a percent sign. -/
def encodeByte (b : Nat) : List Char := '%' :: hexDigits 2 b |>.map Char.toUpper

/-- Encodes the characters that may not stand as they are. -/
def encode (keep : Char → Bool) (cs : List Char) : List Char :=
  cs.flatMap fun c => if keep c then [c] else (charBytes c).flatMap encodeByte

/-- The value of a hexadecimal digit. -/
def hexValue? (c : Char) : Option Nat :=
  if '0' ≤ c && c ≤ '9' then some (c.toNat - '0'.toNat)
  else if 'a' ≤ c && c ≤ 'f' then some (c.toNat - 'a'.toNat + 10)
  else if 'A' ≤ c && c ≤ 'F' then some (c.toNat - 'A'.toNat + 10)
  else none

/-- Encodes like `encode`, but leaves a percent sign with two hexadecimal digits alone. -/
def encodeRest (keep : Char → Bool) : List Char → List Char
  | '%' :: a :: b :: rest =>
    if (hexValue? a).isSome && (hexValue? b).isSome then '%' :: a :: b :: encodeRest keep rest
    else encode keep ['%'] ++ encodeRest keep (a :: b :: rest)
  | c :: rest => encode keep [c] ++ encodeRest keep rest
  | [] => []

/-! ## Decoding -/

/-- The bytes that a text stands for. -/
def bytes : List Char → List Nat
  | '%' :: a :: b :: rest =>
    match hexValue? a, hexValue? b with
    | some high, some low => (high * 16 + low) :: bytes rest
    | _, _ => charBytes '%' ++ bytes (a :: b :: rest)
  | c :: rest => charBytes c ++ bytes rest
  | [] => []

/-- The text that an encoded text stands for. -/
def decode (s : String) : String := String.ofList (decodeBytes none (bytes s.toList))

/-- Letters, digits and four marks stand as they are everywhere. -/
def isUnreserved (c : Char) : Bool :=
  c.isAlphanum || c == '-' || c == '.' || c == '_' || c == '~'

end FeatureFlags.Text.Percent
