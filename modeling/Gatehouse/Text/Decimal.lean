/-
  Gatehouse — decimal numbers.

  Natural numbers and integers in decimal digits: writing (`decimal`, `decimalInt`),
  writing to a fixed width (`padded`), and reading back (`readDecimal?`).
-/

namespace Gatehouse.Text

/-- A natural number in decimal digits, without leading zeros. -/
def decimalChars (n : Nat) : List Char := Nat.toDigits 10 n

/-- A natural number in decimal digits, without leading zeros. -/
def decimal (n : Nat) : String := String.ofList (decimalChars n)

/-- An integer in decimal digits; a minus sign stands before a negative one. -/
def decimalInt : Int → String
  | .ofNat n => decimal n
  | .negSucc n => "-" ++ decimal (n + 1)

/-- A natural number in at least `width` digits, filled up with zeros on the left. -/
def padded (width n : Nat) : List Char :=
  let ds := decimalChars n
  List.replicate (width - ds.length) '0' ++ ds

/-- The value of a decimal digit. -/
def digitValue? (c : Char) : Option Nat :=
  if '0' ≤ c ∧ c ≤ '9' then some (c.toNat - '0'.toNat) else none

/-- The number that a list of digits continues from `acc`. -/
def readDigits? (acc : Nat) : List Char → Option Nat
  | [] => some acc
  | c :: cs => (digitValue? c).bind fun d => readDigits? (10 * acc + d) cs

/-- The number written by one or more decimal digits. -/
def readDecimal? : List Char → Option Nat
  | [] => none
  | cs => readDigits? 0 cs

/-- Drop the zeros at the end. -/
def dropTrailingZeros (cs : List Char) : List Char :=
  (cs.reverse.dropWhile (· == '0')).reverse

end Gatehouse.Text
