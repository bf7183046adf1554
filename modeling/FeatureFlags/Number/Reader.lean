import FeatureFlags.Json.Reader
import FeatureFlags.Text.Blank
import FeatureFlags.Text.Case

/-!
# Numbers in texts

Reading a number that a person wrote. White characters around it do not matter. A whole number may
have a sign, zeros in front, single bars between its digits, and a fraction of zeros; a real number
has a sign, a fraction and an exponent at will, or is an infinity or no number in words.
-/

namespace FeatureFlags.Number

/-- Takes off a plus sign, unless a minus sign follows it. -/
def dropPlus : List Char → List Char
  | '+' :: '-' :: rest => '+' :: '-' :: rest
  | '+' :: rest => rest
  | cs => cs

/-- Takes off leading zeros and the bars among them. What stays begins with another digit; when
there is none, the last character that was taken off comes back. -/
def dropZeros : List Char → List Char
  | '0' :: rest =>
    let filler := rest.takeWhile fun c => c == '0' || c == '_'
    let last := filler.getLast?.getD '0'
    match rest.drop filler.length with
    | [] => [last]
    | '.' :: places => last :: '.' :: places
    | c :: digits => if Json.isDigit c then c :: digits else '0' :: rest
  | cs => cs

/-- Takes off a fraction that consists of zeros. -/
def dropZeroFraction (cs : List Char) : List Char :=
  match cs.dropWhile (· != '.') with
  | '.' :: '0' :: zeros => if zeros.all (· == '0') then cs.takeWhile (· != '.') else cs
  | _ => cs

/-- Do two bars stand side by side? -/
def hasDoubleBar : List Char → Bool
  | '_' :: '_' :: _ => true
  | _ :: rest => hasDoubleBar rest
  | [] => false

/-- Takes out the bars, when none is at an end and no two stand side by side. -/
def dropBars (cs : List Char) : List Char :=
  if cs.head? == some '_' || cs.getLast? == some '_' || hasDoubleBar cs then cs
  else cs.filter (· != '_')

/-- A natural number without zeros in front. -/
def plain? (cs : List Char) : Option Nat :=
  match cs with
  | ['0'] => some 0
  | c :: _ => if c != '0' && cs.all Json.isDigit then some (Json.digitsValue cs) else none
  | [] => none

/-- Why a text is no whole number. -/
inductive IntRefusal where
  | unclear
  | huge
deriving DecidableEq, Repr

/-- The digits of a whole number, ready to be read: a minus sign at most is in front. -/
def tidyInt (cs : List Char) : List Char :=
  dropBars (dropZeroFraction (dropZeros (dropPlus (Text.trimChars Text.isWhite cs))))

/-- Reads a whole number. -/
def readInt (s : String) : Except IntRefusal Int :=
  let tidy := tidyInt s.toList
  let magnitude : Option Int :=
    match tidy with
    | '-' :: cs => (plain? cs).map fun n => -(n : Int)
    | cs => (plain? cs).map Int.ofNat
  match magnitude with
  | none => .error .unclear
  | some i => if Json.maxIntDigits < tidy.length then .error .huge else .ok i

/-- Takes off a sign; is it a minus? -/
def sign : List Char → Bool × List Char
  | '-' :: rest => (true, rest)
  | '+' :: rest => (false, rest)
  | cs => (false, cs)

/-- The words for numbers that have no digits. -/
def wordOf? (negative : Bool) (cs : List Char) : Option Binary64 :=
  match Text.lowerAscii (String.ofList cs) with
  | "inf" => some (.infinite negative)
  | "infinity" => some (.infinite negative)
  | "nan" => some .nan
  | _ => none

/-- Digits with a point at most, then an exponent. -/
def decimal? (negative : Bool) (cs : List Char) : Option Binary64 :=
  let whole := cs.takeWhile Json.isDigit
  let (places, rest) :=
    match cs.dropWhile Json.isDigit with
    | '.' :: rest => (rest.takeWhile Json.isDigit, rest.dropWhile Json.isDigit)
    | rest => ([], rest)
  if whole.isEmpty && places.isEmpty then none
  else
    let (power, rest) := Json.exponent rest
    if rest.isEmpty then
      some (.ofDecimal negative (Json.digitsValue (whole ++ places))
        (power.getD 0 - places.length))
    else none

/-- A real number with nothing around it. -/
def bareReal? (cs : List Char) : Option Binary64 :=
  let (negative, cs) := sign cs
  (wordOf? negative cs).or (decimal? negative cs)

/-- Reads a real number; bars are taken out only when no white character is around it. -/
def readReal? (s : String) : Option Binary64 :=
  (bareReal? (Text.trimChars Text.isWhite s.toList)).or (bareReal? (dropBars s.toList))

/-! ## Plain whole numbers -/

/-- The value of digits that may be parted by single bars. -/
def barredDigits? (cs : List Char) : Option Nat :=
  let groups := Text.splitOn (· == '_') cs
  if groups.all fun g => !g.isEmpty && g.all Json.isDigit then
    some (Json.digitsValue groups.flatten)
  else none

/-- A whole number by a stricter rule: a sign and digits, with blank characters around them. -/
def wholeText? (s : String) : Option Int :=
  let (negative, cs) := sign (Text.trimChars Text.isBlank s.toList)
  (barredDigits? cs).map (Binary64.signed negative)

end FeatureFlags.Number
