import FeatureFlags.Number.Binary64

/-!
# Shortest decimal digits

The decimal with the fewest digits that reads back as a given binary64 number, and of those the
one nearest to it. For one digit, two digits, up to seventeen, the two neighbours of the value on
that decimal grid are tested against the interval of reals that round to it; its ends belong to
the interval exactly when the significand is even.
-/

namespace FeatureFlags.Binary64

/-- A positive value as a quotient, with half the distance to its neighbours below and above over
the same denominator. -/
structure Interval where
  value : Nat
  unit : Nat
  below : Nat
  above : Nat
  closed : Bool

/-- The interval of `mantissa` · 2 ^ `exponent` in units of 10 ^ `scale`. -/
def intervalOf (mantissa : Nat) (exponent scale : Int) : Interval :=
  let up := twoTo exponent * tenTo (-scale)
  { value := 4 * mantissa * up
    unit := 4 * twoTo (-exponent) * tenTo scale
    below := if mantissa == mantissaBound / 2 && minExponent < exponent then up else 2 * up
    above := 2 * up
    closed := mantissa % 2 == 0 }

/-- Does the whole number `n` of units read back as the value? -/
def Interval.holds (i : Interval) (n : Nat) : Bool :=
  let at_ := n * i.unit
  if at_ ≤ i.value then
    if i.closed then i.value - at_ ≤ i.below else i.value - at_ < i.below
  else
    if i.closed then at_ - i.value ≤ i.above else at_ - i.value < i.above

/-- The neighbour of the value on the grid that reads back, the nearer if both do. -/
def Interval.pick? (i : Interval) : Option Nat :=
  let lo := i.value / i.unit
  let hi := lo + 1
  match i.holds lo && lo != 0, i.holds hi with
  | true, true =>
    let down := i.value - lo * i.unit
    let up := hi * i.unit - i.value
    if down < up then some lo
    else if up < down then some hi
    else if lo % 2 == 0 then some lo else some hi
  | true, false => some lo
  | false, true => some hi
  | false, false => none

/-- The exponent of the leading decimal digit of a positive number. -/
def leadingExponent (mantissa : Nat) (exponent : Int) : Int :=
  let guess := Int.fdiv ((Int.ofNat mantissa.log2 + exponent) * 30103) 100000
  let reaches (k : Int) : Bool :=
    tenTo k * twoTo (-exponent) ≤ mantissa * twoTo exponent * tenTo (-k)
  if reaches (guess + 1) then guess + 1 else if reaches guess then guess else guess - 1

/-- Drops the trailing zeros of a decimal. -/
def dropZeros : Nat → Nat → Int → Nat × Int
  | 0, digits, scale => (digits, scale)
  | fuel + 1, digits, scale =>
    if digits != 0 && digits % 10 == 0 then dropZeros fuel (digits / 10) (scale + 1)
    else (digits, scale)

/-- Digits and scale of the shortest decimal of a positive number, with at least `17 - fuel`
digits. -/
def shortestFrom (mantissa : Nat) (exponent lead : Int) : Nat → Nat × Int
  | 0 => (roundHalfEven (mantissa * twoTo exponent) (twoTo (-exponent)), 0)
  | fuel + 1 =>
    let scale := lead - (16 - (fuel : Int))
    match (intervalOf mantissa exponent scale).pick? with
    | some n => dropZeros 17 n scale
    | none => shortestFrom mantissa exponent lead fuel

/-- The shortest decimal of a positive finite number, as digits and a power of ten. -/
def shortest (mantissa : Nat) (exponent : Int) : Nat × Int :=
  shortestFrom mantissa exponent (leadingExponent mantissa exponent) 17

end FeatureFlags.Binary64
