/-
  Gatehouse — the double nearest to a decimal number.

  `nearest` divides with 62 or 63 binary digits and lets the last one stand for all that
  follow, so that the one rounding to a double is that of the exact quotient.
-/

namespace Gatehouse.Nearest

/-- The double nearest to `n / d`. -/
def ofFraction (n d : Nat) : Float :=
  if n = 0 ∨ d = 0 then 0
  else
    let shift : Int := 62 - (Nat.log2 n - Nat.log2 d)
    let n := if 0 ≤ shift then n * Nat.pow 2 shift.toNat else n
    let d := if 0 ≤ shift then d else d * Nat.pow 2 (-shift).toNat
    let quotient := if n % d = 0 then n / d else (n / d) ||| 1
    (UInt64.ofNat quotient).toFloat.scaleB (-shift)

/-- A power of ten beyond every double. -/
def beyond : Nat := 400

/-- The double nearest to `significand · 10^e`, a significand of so many digits, if there is
    one in range. -/
def ofDecimal? (significand : Nat) (e : Int) (digits : Nat) : Option Float :=
  if significand = 0 then some 0
  else if (beyond : Int) < e then none
  else if e < -((beyond + digits : Nat) : Int) then some 0
  else
    let x := if 0 ≤ e then ofFraction (significand * Nat.pow 10 e.toNat) 1
      else ofFraction significand (Nat.pow 10 (-e).toNat)
    if x.isInf then none else some x

end Gatehouse.Nearest
