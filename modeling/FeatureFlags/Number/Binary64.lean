/-!
# Binary64 numbers

A binary64 number is a sign with a significand below 2^53 times a power of two, or an infinity, or
no number at all. Arithmetic here is exact arithmetic on natural numbers: a quotient is rounded to
the nearest number of the format, ties to the even significand.
-/

namespace FeatureFlags

/-- A binary64 number; a finite one stands for ± `mantissa` · 2 ^ `exponent`. -/
inductive Binary64 where
  | finite (negative : Bool) (mantissa : Nat) (exponent : Int)
  | infinite (negative : Bool)
  | nan
deriving DecidableEq, Repr

/-- The quotient rounded to the nearest whole number, a half to the even one. -/
def roundHalfEven (num den : Nat) : Nat :=
  let q := num / den
  let r := num % den
  if 2 * r < den then q
  else if den < 2 * r then q + 1
  else if q % 2 == 0 then q else q + 1

namespace Binary64

/-- The least exponent of the format. -/
def minExponent : Int := -1074

/-- The greatest exponent of the format. -/
def maxExponent : Int := 971

/-- A power of two; one when the exponent is negative. -/
def twoTo (e : Int) : Nat := Nat.pow 2 e.toNat

/-- A power of ten; one when the exponent is negative. -/
def tenTo (e : Int) : Nat := Nat.pow 10 e.toNat

/-- The significands of the format lie below this bound. -/
def mantissaBound : Nat := twoTo 53

def zero (negative : Bool) : Binary64 := .finite negative 0 minExponent

/-- `num / den` as a significand over `2 ^ e`, rounded. -/
def significandAt (num den : Nat) (e : Int) : Nat :=
  roundHalfEven (num * twoTo (-e)) (den * twoTo e)

/-- The exponent at which the significand of `num / den` has 53 binary digits, before rounding. -/
def exponentOf (num den : Nat) : Int :=
  let guess : Int := Int.ofNat num.log2 - Int.ofNat den.log2 - 53
  let e := if num * twoTo (-guess) < den * twoTo guess * mantissaBound then guess else guess + 1
  max e minExponent

/-- The number nearest to `num / den`. -/
def ofRatio (negative : Bool) (num den : Nat) : Binary64 :=
  if num == 0 then zero negative
  else
    let e := exponentOf num den
    let m := significandAt num den e
    let (m, e) := if m == mantissaBound then (m / 2, e + 1) else (m, e)
    if maxExponent < e then .infinite negative else .finite negative m e

/-- The number of decimal digits of a natural number; one for zero. -/
def digitCount (n : Nat) : Nat := (Nat.toDigits 10 n).length

/-- The number nearest to `digits` · 10 ^ `exponent`. -/
def ofDecimal (negative : Bool) (digits : Nat) (exponent : Int) : Binary64 :=
  let size : Int := exponent + digitCount digits
  if digits == 0 || size < -400 then zero negative
  else if 400 < size then .infinite negative
  else ofRatio negative (digits * tenTo exponent) (tenTo (-exponent))

/-- The number nearest to a whole number. -/
def ofInt (i : Int) : Binary64 := ofDecimal (i < 0) i.natAbs 0

def isFinite : Binary64 → Bool
  | .finite .. => true
  | _ => false

def isZero : Binary64 → Bool
  | .finite _ m _ => m == 0
  | _ => false

def isNegative : Binary64 → Bool
  | .finite s _ _ => s
  | .infinite s => s
  | .nan => false

/-- Puts a sign on a magnitude. -/
def signed (negative : Bool) (n : Nat) : Int := if negative then -(n : Int) else n

/-- The whole number a finite number is equal to. -/
def toInt? : Binary64 → Option Int
  | .finite s m e =>
    if e ≥ 0 then some (signed s (m * twoTo e))
    else if m % twoTo (-e) == 0 then some (signed s (m / twoTo (-e)))
    else none
  | _ => none

/-- The whole part of a finite number, the fraction dropped. -/
def truncate? : Binary64 → Option Int
  | .finite s m e => some (signed s (m * twoTo e / twoTo (-e)))
  | _ => none

/-- The greatest whole number not above a finite number of `scale`-ths, and what is left of it
rounded to `parts` parts of a whole. -/
def floorParts? (parts : Nat) : Binary64 → Option (Int × Nat)
  | .finite s m e =>
    let num := m * twoTo e
    let den := twoTo (-e)
    let whole := num / den
    let rest := num % den
    if s && rest != 0 then some (-(whole : Int) - 1, roundHalfEven ((den - rest) * parts) den)
    else some (signed s whole, roundHalfEven (rest * parts) den)
  | _ => none

end Binary64

end FeatureFlags
