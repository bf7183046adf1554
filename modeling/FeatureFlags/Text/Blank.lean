/-!
# Blank characters

Two classes of blank character, and the trims that take a class off both ends of a text. A white
character has the White_Space property of Unicode; a blank character is a white one or one of the
four information separators U+001C to U+001F. Everything that trims says which class it means.
-/

namespace FeatureFlags.Text

/-- The characters with the White_Space property. -/
def isWhite (c : Char) : Bool :=
  let n := c.toNat
  (0x9 ≤ n && n ≤ 0xD) || n == 0x20 || n == 0x85 || n == 0xA0 || n == 0x1680 ||
    (0x2000 ≤ n && n ≤ 0x200A) || n == 0x2028 || n == 0x2029 || n == 0x202F || n == 0x205F ||
    n == 0x3000

/-- A white character or an information separator: what `strip` takes off. -/
def isBlank (c : Char) : Bool :=
  isWhite c || (0x1C ≤ c.toNat && c.toNat ≤ 0x1F)

/-- Takes off the longest end whose characters all satisfy `p`. -/
def trimEnd (p : Char → Bool) (cs : List Char) : List Char :=
  (cs.reverse.dropWhile p).reverse

/-- Takes characters that satisfy `p` off both ends. -/
def trimChars (p : Char → Bool) (cs : List Char) : List Char :=
  trimEnd p (cs.dropWhile p)

/-- A text without the `p` characters at its two ends. -/
def trim (p : Char → Bool) (s : String) : String :=
  String.ofList (trimChars p s.toList)

/-- A text with nothing but blank characters, the empty text among them. -/
def isBlankText (s : String) : Bool :=
  s.toList.all isBlank

/-- The parts of a list between the elements that satisfy `p`; never empty. -/
def splitOn (p : Char → Bool) : List Char → List (List Char)
  | [] => [[]]
  | c :: rest =>
    if p c then [] :: splitOn p rest
    else
      match splitOn p rest with
      | [] => [[c]]
      | part :: parts => (c :: part) :: parts

end FeatureFlags.Text

/-- Nothing for an absent or empty text, else the text. -/
def FeatureFlags.given (o : Option String) : Option String := o.filter fun s => !s.isEmpty
