/-!
# Double precision, exactly

A non-negative double is a natural number times a power of two. Rounding to the nearest double is
done in whole numbers, a half going to the even neighbour, so every operation below is one exact
quotient followed by one rounding.
-/

namespace TaintFlow

/-- A quotient rounded to the nearest whole number, a half to the even neighbour. -/
def roundDiv (num den : Nat) : Nat :=
  let q := num / den
  let twice := 2 * (num % den)
  if twice < den then q
  else if den < twice then q + 1
  else if q % 2 = 0 then q else q + 1

/-- The non-negative double `mantissa * 2 ^ exponent`. -/
structure Binary64 where
  mantissa : Nat
  exponent : Int
  deriving DecidableEq, Repr, Inhabited

namespace Binary64

/-- The number of bits of a mantissa. -/
def precision : Nat := 53

/-- The exponent of the smallest positive double. -/
def minExponent : Int := -1074

/-- The first exponent, with a full mantissa, that is out of range. -/
def maxExponent : Int := 971

def zero : Binary64 := ⟨0, minExponent⟩

def isZero (x : Binary64) : Bool := x.mantissa == 0

/-- The value as a fraction. -/
def toFraction (x : Binary64) : Nat × Nat :=
  if 0 ≤ x.exponent then (x.mantissa * Nat.pow 2 x.exponent.toNat, 1)
  else (x.mantissa, Nat.pow 2 (-x.exponent).toNat)

/-- A fraction in units of a power of two, rounded. -/
def roundAt (num den : Nat) (exponent : Int) : Nat :=
  if 0 ≤ exponent then roundDiv num (den * Nat.pow 2 exponent.toNat)
  else roundDiv (num * Nat.pow 2 (-exponent).toNat) den

/-- The exponent at which a positive fraction fills the mantissa. -/
def exponentFor (num den : Nat) : Int :=
  let guess : Int := (num.log2 : Int) - den.log2 - precision
  let fits (e : Int) : Bool :=
    if 0 ≤ e then num < den * Nat.pow 2 e.toNat * Nat.pow 2 precision
    else num * Nat.pow 2 (-e).toNat < den * Nat.pow 2 precision
  let least := if fits guess then guess else if fits (guess + 1) then guess + 1 else guess + 2
  max least minExponent

/-- The double nearest to a fraction, or none if it is out of range. -/
def nearest? (num den : Nat) : Option Binary64 :=
  if num = 0 then some zero
  else
    let exponent := exponentFor num den
    let mantissa := roundAt num den exponent
    let x : Binary64 :=
      if mantissa = Nat.pow 2 precision then ⟨Nat.pow 2 (precision - 1), exponent + 1⟩ else ⟨mantissa, exponent⟩
    if maxExponent < x.exponent then none else some x

/-- The nearest double to a fraction that is known to be in range. -/
def nearest (num den : Nat) : Binary64 := (nearest? num den).getD zero

/-- The nearest double to a whole number. -/
def ofNat? (n : Nat) : Option Binary64 := nearest? n 1

/-- Sum. -/
def add? (x y : Binary64) : Option Binary64 :=
  let (a, b) := x.toFraction
  let (c, d) := y.toFraction
  nearest? (a * d + c * b) (b * d)

/-- Product. -/
def mul? (x y : Binary64) : Option Binary64 :=
  let (a, b) := x.toFraction
  let (c, d) := y.toFraction
  nearest? (a * c) (b * d)

/-- Quotient by a double that is not zero. -/
def div? (x y : Binary64) : Option Binary64 :=
  let (a, b) := x.toFraction
  let (c, d) := y.toFraction
  nearest? (a * d) (b * c)

end Binary64

end TaintFlow
