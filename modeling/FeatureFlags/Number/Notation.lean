import FeatureFlags.Number.Shortest

/-!
# Written numbers

The text of a binary64 number by its shortest digits, and with a fixed number of places or digits.
Whole and small numbers are written positionally while their leading digit stands between 10^-4
and 10^15; others with an exponent of at least two digits.
-/

namespace FeatureFlags.Binary64

/-- The decimal digits of a natural number. -/
def digitsOf (n : Nat) : List Char := Nat.toDigits 10 n

/-- Fills a text on the left up to a width. -/
def padLeft (width : Nat) (fill : Char) (cs : List Char) : List Char :=
  List.replicate (width - cs.length) fill ++ cs

/-- A power of ten after its mark: a sign and at least two digits. -/
def exponentText (mark : Char) (e : Int) : List Char :=
  mark :: (if e < 0 then '-' else '+') :: padLeft 2 '0' (digitsOf e.natAbs)

/-- The point stands after `point` digits; zeros fill both sides. -/
def positional (digits : List Char) (point : Int) : List Char :=
  if point ≤ 0 then '0' :: '.' :: List.replicate (-point).toNat '0' ++ digits
  else
    let n := point.toNat
    let whole := digits.take n ++ List.replicate (n - digits.length) '0'
    let rest := digits.drop n
    whole ++ '.' :: (if rest.isEmpty then ['0'] else rest)

/-- One digit, a point if more follow, and the exponent. -/
def scientific (digits : List Char) (e : Int) : List Char :=
  match digits with
  | [] => []
  | d :: rest => d :: (if rest.isEmpty then [] else '.' :: rest) ++ exponentText 'e' e

/-- The written form of a magnitude. -/
def magnitudeText (mantissa : Nat) (exponent : Int) : List Char :=
  if mantissa == 0 then ['0', '.', '0']
  else
    let (n, scale) := shortest mantissa exponent
    let digits := digitsOf n
    let point := scale + digits.length
    if -4 < point && point ≤ 16 then positional digits point
    else scientific digits (point - 1)

/-- The shortest text that reads back as the number. -/
def toText : Binary64 → String
  | .nan => "nan"
  | .infinite s => if s then "-inf" else "inf"
  | .finite s m e => String.ofList ((if s then ['-'] else []) ++ magnitudeText m e)

/-! ## Fixed forms -/

/-- A magnitude in tenths to the power `places`, rounded to the nearest, a half to the even. -/
def scaled (mantissa : Nat) (exponent places : Int) : Nat :=
  roundHalfEven (mantissa * twoTo exponent * tenTo places) (twoTo (-exponent) * tenTo (-places))

/-- A number of 10^-`places` with the point in its place; `point` keeps a bare point. -/
def withPlaces (n places : Nat) (point : Bool) : List Char :=
  let digits := padLeft (places + 1) '0' (digitsOf n)
  let whole := digits.take (digits.length - places)
  let rest := digits.drop (digits.length - places)
  whole ++ (if places == 0 then (if point then ['.'] else []) else '.' :: rest)

/-- A magnitude with `places` digits after the point. -/
def fixedText (places : Nat) (point : Bool) (mantissa : Nat) (exponent : Int) : List Char :=
  withPlaces (scaled mantissa exponent places) places point

/-- The digits of a magnitude to `places` places after the first, and the exponent of the first. -/
def rounded (places mantissa : Nat) (exponent : Int) : Nat × Int :=
  if mantissa == 0 then (0, 0)
  else
    let lead := leadingExponent mantissa exponent
    let n := scaled mantissa exponent (places - lead)
    if n == tenTo (places + 1) then (tenTo places, lead + 1) else (n, lead)

/-- A magnitude with one digit before the point, `places` after it, and an exponent. -/
def exponentForm (mark : Char) (places : Nat) (point : Bool) (mantissa : Nat) (exponent : Int) :
    List Char :=
  let (n, lead) := rounded places mantissa exponent
  withPlaces n places point ++ exponentText mark lead

/-- Drops the zeros that end a fraction, and the point if nothing else is left of it. -/
def dropFraction (cs : List Char) : List Char :=
  if cs.contains '.' then
    let kept := (cs.reverse.dropWhile (· == '0')).reverse
    if kept.getLast? == some '.' then kept.dropLast else kept
  else cs

/-- A magnitude with `precision` digits in all, positional while the exponent allows; the zeros
that end it are kept only when `point` asks for them. -/
def generalText (mark : Char) (precision : Nat) (point : Bool) (mantissa : Nat) (exponent : Int) :
    List Char :=
  let p := max precision 1
  let (n, lead) := rounded (p - 1) mantissa exponent
  let tidy := fun cs => if point then cs else dropFraction cs
  if -4 ≤ lead && lead < p then
    tidy (withPlaces n ((p : Int) - 1 - lead).toNat point)
  else tidy (withPlaces n (p - 1) point) ++ exponentText mark lead

end FeatureFlags.Binary64
