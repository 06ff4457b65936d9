/-
  Gatehouse — the shortest decimal text of a binary floating-point number.

  A finite double is ±m · 2^q. Its shortest decimal is the number d · 10^e with the fewest
  digits that is still rounded to the same double; of two such numbers the nearer one
  counts. `shortest` finds it by exact arithmetic on natural numbers, from one digit
  upwards. How the digits are laid out is a matter of `Style`.
-/
import Gatehouse.Text.Decimal

namespace Gatehouse.Shortest

/-- The numbers that round to a double: above `low / scale`, below `high / scale`, the ends
    included if `closed`. The double itself is `mid / scale`. -/
structure Interval where
  low : Nat
  mid : Nat
  high : Nat
  scale : Nat
  closed : Bool

/-- The bit above the fraction of a double. -/
def hiddenBit : Nat := 0x10000000000000

/-- The bit that tells the sign of a double. -/
def signBit : Nat := 0x8000000000000000

/-- The interval of the double whose magnitude has the given bits. -/
def intervalOfBits (bits : Nat) : Interval :=
  let exponent := bits / hiddenBit
  let fraction := bits % hiddenBit
  let m := if exponent = 0 then fraction else fraction + hiddenBit
  let shift := if exponent = 0 then 1 else exponent
  -- Twice the distances to the neighbours, in units of the last place of `m`, times four.
  let lowerIsCloser := fraction = 0 ∧ 1 < exponent
  let below := if lowerIsCloser then 1 else 2
  let up := if 1075 ≤ shift then Nat.pow 2 (shift - 1075) else 1
  let scale := 4 * if 1075 ≤ shift then 1 else Nat.pow 2 (1075 - shift)
  { low := (4 * m - below) * up, mid := 4 * m * up, high := (4 * m + 2) * up, scale,
    closed := m % 2 = 0 }

/-- The fraction `n / d` lies in the interval. -/
def Interval.holds (i : Interval) (n d : Nat) : Bool :=
  let x := n * i.scale
  if i.closed then i.low * d ≤ x && x ≤ i.high * d else i.low * d < x && x < i.high * d

/-- The distance of `n / d` from the double, up to a common factor. -/
def Interval.distance (i : Interval) (n d : Nat) : Nat :=
  let x := n * i.scale
  let y := i.mid * d
  if x ≤ y then y - x else x - y

/-- The decimal `n · 10^e` as a fraction. -/
def fraction (n : Nat) (e : Int) : Nat × Nat :=
  if 0 ≤ e then (n * Nat.pow 10 e.toNat, 1) else (n, Nat.pow 10 (-e).toNat)

/-- The best decimal on the grid of multiples of `10^e`, if one rounds to the double. An exact
    tie goes to the even number. -/
def onGrid (i : Interval) (e : Int) : Option Nat :=
  let below :=
    if 0 ≤ e then i.mid / (i.scale * Nat.pow 10 e.toNat)
    else i.mid * Nat.pow 10 (-e).toNat / i.scale
  let fits (n : Nat) : Bool := let (a, b) := fraction n e; 0 < n && i.holds a b
  let far (n : Nat) : Nat := let (a, b) := fraction n e; i.distance a b
  match fits below, fits (below + 1) with
  | true, true =>
    if far below < far (below + 1) then some below
    else if far (below + 1) < far below then some (below + 1)
    else some (if below % 2 = 0 then below else below + 1)
  | true, false => some below
  | false, true => some (below + 1)
  | false, false => none

/-- The power of ten of the leading digit, for a double that is not zero. -/
def magnitude (i : Interval) : Int :=
  if i.scale ≤ i.mid then (Text.decimalChars (i.mid / i.scale)).length - 1
  else -(((Text.decimalChars ((i.scale - 1) / i.mid)).length : Int))

/-- Try grids from coarse to fine: the first one that holds a decimal gives the fewest digits. -/
def search (i : Interval) : Nat → Int → Nat × Int
  | 0, e => ((onGrid i e).getD 0, e)
  | more + 1, e =>
    match onGrid i e with
    | some n => (n, e)
    | none => search i more (e - 1)

/-- The digits and the power of ten of the shortest decimal for the bits of a magnitude. -/
def shortest (bits : Nat) : List Char × Int :=
  if bits = 0 then (['0'], 0)
  else
    let i := intervalOfBits bits
    let (n, e) := search i 18 (magnitude i + 1)
    let digits := Text.decimalChars n
    let kept := Text.dropTrailingZeros digits
    (kept, e + (digits.length - kept.length))

/-- How digits are laid out. -/
structure Style where
  /-- The least power of ten of the leading digit that is written without an exponent. -/
  leastPlain : Int
  /-- The first power of ten of the leading digit that is written with an exponent. -/
  firstScientific : Int
  /-- The fraction that a whole number gets. -/
  wholeMark : List Char
  /-- The mark before an exponent that is not negative. -/
  exponentPlus : List Char
  /-- The fewest digits of an exponent. -/
  exponentDigits : Nat

/-- Digits times a power of ten, in the style. -/
def Style.layout (s : Style) (digits : List Char) (e : Int) : List Char :=
  let lead := e + digits.length - 1
  if s.leastPlain ≤ lead ∧ lead < s.firstScientific then
    if 0 ≤ e then digits ++ List.replicate e.toNat '0' ++ s.wholeMark
    else if 0 ≤ lead then
      digits.take (lead.toNat + 1) ++ '.' :: digits.drop (lead.toNat + 1)
    else '0' :: '.' :: List.replicate (-lead - 1).toNat '0' ++ digits
  else
    let mantissa := match digits with
      | [d] => [d]
      | d :: ds => d :: '.' :: ds
      | [] => []
    let mark := if lead < 0 then ['-'] else s.exponentPlus
    mantissa ++ 'e' :: mark ++ Text.padded s.exponentDigits lead.natAbs

/-- A finite double in the style. -/
def Style.text (s : Style) (x : Float) : String :=
  let bits := x.toBits.toNat
  let sign := if signBit ≤ bits then ['-'] else []
  let (digits, e) := shortest (bits % signBit)
  String.ofList (sign ++ s.layout digits e)

end Gatehouse.Shortest
