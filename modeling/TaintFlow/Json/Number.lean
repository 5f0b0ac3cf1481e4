import TaintFlow.Decimal.Binary64
import TaintFlow.Json.Basic

/-!
# JSON numbers in double precision

A numeral is read in two steps: its digits, as many as fit in 64 bits, make a significand with a
power of ten; the significand is then rounded to a double and scaled by that power. The result may
be off by a last place where the numeral has many digits or a large exponent.
-/

namespace TaintFlow.Json

/-- The digits of a numeral so far: `significand * 10 ^ exponent`. -/
structure Scaled where
  significand : Nat
  exponent : Int
  deriving DecidableEq, Repr, Inhabited

/-- Whether another digit still fits. -/
def Scaled.fits (s : Scaled) (digit : Nat) : Bool := s.significand * 10 + digit < natLimit

/-- The digits before the point: those that no longer fit only scale. -/
def Scaled.whole : Scaled → (full : Bool) → List Nat → Scaled
  | s, _, [] => s
  | s, full, d :: ds =>
    if !full && s.fits d then Scaled.whole ⟨s.significand * 10 + d, s.exponent⟩ false ds
    else Scaled.whole ⟨s.significand, s.exponent + 1⟩ true ds

/-- The digits after the point: those from the first that does not fit are dropped. -/
def Scaled.decimals : Scaled → List Nat → Scaled
  | s, [] => s
  | s, d :: ds =>
    if s.fits d then Scaled.decimals ⟨s.significand * 10 + d, s.exponent - 1⟩ ds else s

/-- The largest power of ten that is a double. -/
def maxTenPower : Nat := 308

/-- A double scaled by a power of ten, in steps that stay in range; none if the result does not. -/
def scale? : (fuel : Nat) → Binary64 → Int → Option Binary64
  | 0, x, _ => some x
  | fuel + 1, x, exponent =>
    if exponent.natAbs ≤ maxTenPower then
      let power := Binary64.nearest (Nat.pow 10 exponent.natAbs) 1
      if 0 ≤ exponent then x.mul? power else x.div? power
    else if x.isZero then some x
    else if 0 ≤ exponent then none
    else (x.div? (.nearest (Nat.pow 10 maxTenPower) 1)).bind fun y => scale? fuel y (exponent + maxTenPower)

/-- The value of a digit. -/
def digitValue (c : Char) : Nat := c.toNat - 48

/-- The exponent part of a numeral, without its mark. -/
def exponentValue : List Char → Int
  | '-' :: ds => -(digitsValue ds : Int)
  | '+' :: ds => digitsValue ds
  | ds => digitsValue ds

/-- The sign and the magnitude of a number; none if it is out of range. -/
def double? : Json → Option (Bool × Binary64)
  | number numeral => do
    let cs := numeral.toList
    let negative := cs.head? == some '-'
    let cs := if negative then cs.drop 1 else cs
    let whole := cs.takeWhile Char.isDigit
    let rest := cs.dropWhile Char.isDigit
    let (decimals, rest) := match rest with
      | '.' :: rest => (rest.takeWhile Char.isDigit, rest.dropWhile Char.isDigit)
      | rest => ([], rest)
    let power : Int := match rest with
      | _ :: rest => exponentValue rest
      | [] => 0
    let scaled := (Scaled.whole ⟨0, 0⟩ false (whole.map digitValue)).decimals (decimals.map digitValue)
    let x ← scale? 8 (← Binary64.ofNat? scaled.significand) (scaled.exponent + power)
    return (negative, x)
  | _ => none

end TaintFlow.Json
