import TaintFlow.Decimal.Binary64
import TaintFlow.Text

/-!
# The shortest decimal of a double

The digits written for a double are the fewest that read back as the same double, and of those the
nearest to it. A decimal reads back if it lies in the interval of numbers that round to the double;
the ends belong to it if the mantissa is even.
-/

namespace TaintFlow

/-- The decimal `digits * 10 ^ exponent`. -/
structure Decimal where
  digits : Nat
  exponent : Int
  deriving DecidableEq, Repr, Inhabited

namespace Decimal

/-- Ten to a power, as a fraction. -/
def tenTo (e : Int) : Nat × Nat := if 0 ≤ e then (Nat.pow 10 e.toNat, 1) else (1, Nat.pow 10 (-e).toNat)

/-- The decimal as a fraction. -/
def toFraction (d : Decimal) : Nat × Nat :=
  let (n, m) := tenTo d.exponent
  (d.digits * n, m)

/-- Drops trailing zeros of the digits, at most `fuel` of them. -/
def trimZeros : (fuel : Nat) → Decimal → Decimal
  | 0, d => d
  | fuel + 1, d =>
    if d.digits ≠ 0 ∧ d.digits % 10 = 0 then trimZeros fuel ⟨d.digits / 10, d.exponent + 1⟩ else d

end Decimal

namespace Binary64

/-- The numbers that round to a double: four times the bounds in units of its exponent, and whether
the bounds belong to it. Below a power of two the gap is half as wide. -/
def interval (x : Binary64) : Nat × Nat × Bool :=
  let narrow := x.mantissa = Nat.pow 2 (precision - 1) ∧ minExponent < x.exponent
  (4 * x.mantissa - (if narrow then 1 else 2), 4 * x.mantissa + 2, x.mantissa % 2 == 0)

/-- Whether a decimal reads back as the double. -/
def readsBack (x : Binary64) (d : Decimal) : Bool :=
  let (low, high, closed) := x.interval
  let (n, m) := d.toFraction
  let (p, q) := toFraction ⟨1, x.exponent - 2⟩
  -- compare `n / m` with `low * p / q` and `high * p / q`
  if closed then low * p * m ≤ n * q && n * q ≤ high * p * m
  else low * p * m < n * q && n * q < high * p * m

/-- The largest power of ten that is not above a positive fraction. -/
def decimalExponent (num den : Nat) : Int :=
  if den ≤ num then ((toString (num / den)).length : Int) - 1
  else
    match (List.range 350).find? fun j => den ≤ num * Nat.pow 10 (j + 1) with
    | some j => -((j : Int) + 1)
    | none => -350

/-- The decimals with a number of digits on both sides of a positive fraction, the nearer first. -/
def neighbours (num den count : Nat) : List Decimal :=
  let step := decimalExponent num den - (count : Int) + 1
  let (a, b) := Decimal.tenTo step
  let below := num * b / (den * a)
  let rest := num * b % (den * a)
  if 2 * rest ≤ den * a then [⟨below, step⟩, ⟨below + 1, step⟩]
  else [⟨below + 1, step⟩, ⟨below, step⟩]

/-- The shortest decimal that reads back. -/
def shortest (x : Binary64) : Decimal :=
  if x.isZero then ⟨0, 0⟩
  else
    let (num, den) := x.toFraction
    let found := (List.range 17).findSome? fun n =>
      (neighbours num den (n + 1)).find? (readsBack x)
    (found.getD ⟨x.mantissa, x.exponent⟩).trimZeros 400

end Binary64

namespace Decimal

/-- The text of a decimal in JSON: positional where the point falls within the first sixteen places
or at most five zeros follow it, and always with a fraction there; otherwise with an exponent. -/
def jsonText (d : Decimal) : String :=
  let digits := toString d.digits
  let length := digits.length
  let point : Int := (length : Int) + d.exponent
  let zeros (n : Nat) : String := Text.repeated n "0"
  if d.digits = 0 then "0.0"
  else if 0 ≤ d.exponent && point ≤ 16 then digits ++ zeros d.exponent.toNat ++ ".0"
  else if 0 < point && point ≤ 16 then
    String.ofList (digits.toList.take point.toNat) ++ "." ++
      String.ofList (digits.toList.drop point.toNat)
  else if -5 < point && point ≤ 0 then "0." ++ zeros (-point).toNat ++ digits
  else
    let exponent := toString (point - 1)
    if length = 1 then digits ++ "e" ++ exponent
    else
      String.ofList (digits.toList.take 1) ++ "." ++ String.ofList (digits.toList.drop 1) ++ "e" ++
        exponent

end Decimal

end TaintFlow
