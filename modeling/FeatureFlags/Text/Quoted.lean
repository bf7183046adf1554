import FeatureFlags.Text.PrintableTable

/-!
# Quoted text

How a text is shown inside a message: between single quotes, or between double quotes when it
holds a single quote and no double quote. The quote in use and the backslash are escaped by a
backslash, and a character without a printed form is written as a hexadecimal escape of two, four
or eight digits.
-/

namespace FeatureFlags.Text

/-- Has the character a printed form of its own? -/
def isPrintable (c : Char) : Bool :=
  !unprintableRanges.any fun (first, last) => first ≤ c.toNat && c.toNat ≤ last

/-- The low `width` hexadecimal digits of a number. -/
def hexDigits (width n : Nat) : List Char :=
  (List.range width).reverse.map fun i => Nat.digitChar (n / Nat.pow 16 i % 16)

/-- The escape of a character by its number. -/
def numericEscape (c : Char) : List Char :=
  let n := c.toNat
  if n < 0x100 then '\\' :: 'x' :: hexDigits 2 n
  else if n < 0x10000 then '\\' :: 'u' :: hexDigits 4 n
  else '\\' :: 'U' :: hexDigits 8 n

/-- One character between quotes of the given kind, with `keep` telling what stands for itself. -/
def quotedChar (keep : Char → Bool) (quote c : Char) : List Char :=
  if c == quote || c == '\\' then ['\\', c]
  else if c == '\n' then ['\\', 'n']
  else if c == '\r' then ['\\', 'r']
  else if c == '\t' then ['\\', 't']
  else if keep c then [c]
  else numericEscape c

/-- The quote a text is shown between. -/
def quoteFor (cs : List Char) : Char :=
  if cs.contains '\'' && !cs.contains '"' then '"' else '\''

/-- A text between quotes, with `keep` telling which characters stand for themselves. -/
def quotedWith (keep : Char → Bool) (s : String) : String :=
  let cs := s.toList
  let q := quoteFor cs
  String.ofList (q :: cs.flatMap (quotedChar keep q) ++ [q])

/-- A text between quotes, as messages show it (`repr`). -/
def quoted (s : String) : String :=
  quotedWith isPrintable s

/-- A text between quotes in printable ASCII alone. -/
def quotedAscii (s : String) : String :=
  quotedWith (fun c => 0x20 ≤ c.toNat && c.toNat < 0x7F) s

end FeatureFlags.Text
