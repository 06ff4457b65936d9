/-
  Gatehouse — numbers in TOML documents.

  Integers are decimal with a sign, or hexadecimal, octal or binary without one, and lie in
  the range of 64 bits with a sign. Other numbers have a fraction or an exponent, or are
  infinite or none at all. Between two digits an underscore may stand.
-/
import Gatehouse.Number.Nearest
import Gatehouse.Toml.Value
import Gatehouse.Toml.Scan

namespace Gatehouse.Toml

/-- The digits without the underscores between them. A first digit is required, and a digit on
    either side of an underscore. -/
def spaced? (isDigit : Char → Bool) : List Char → Option (List Char)
  | [] => none
  | [c] => if isDigit c then some [c] else none
  | c :: '_' :: rest => if isDigit c then (spaced? isDigit rest).map (c :: ·) else none
  | c :: rest => if isDigit c then (spaced? isDigit rest).map (c :: ·) else none

/-- The digits of a decimal number without a zero in front. -/
def whole? (cs : List Char) : Option (List Char) :=
  match cs with
  | '0' :: _ :: _ => none
  | cs => spaced? Char.isDigit cs

/-- The number that digits of a base write. -/
def inBase (base : Nat) (digits : List Char) : Nat :=
  digits.foldl (fun n c => base * n + (Text.hexValue? c).getD 0) 0

/-- The bound of the integers: they lie from its negative up to it, itself left out. -/
def integerBound : Int := 0x8000000000000000

/-- The integer, if it is in range. -/
def inRange? (n : Int) : Option Value :=
  if -integerBound ≤ n ∧ n < integerBound then some (.integer n) else none

/-- A sign, and what follows it. -/
def splitSign : List Char → Bool × List Char
  | '-' :: rest => (true, rest)
  | '+' :: rest => (false, rest)
  | cs => (false, cs)

/-- The integer that a word writes. -/
def integer? (word : List Char) : Option Value :=
  let digitBelow (base : Nat) (c : Char) : Bool := (Text.hexValue? c).any (· < base)
  let based (base : Nat) (rest : List Char) :=
    (spaced? (digitBelow base) rest).bind fun ds => inRange? (inBase base ds)
  match word with
  | '0' :: 'x' :: rest => based 16 rest
  | '0' :: 'o' :: rest => based 8 rest
  | '0' :: 'b' :: rest => based 2 rest
  | _ =>
    let (negative, rest) := splitSign word
    (whole? rest).bind fun ds =>
      let n : Int := inBase 10 ds
      inRange? (if negative then -n else n)

/-- The exponents that are read in full. -/
def exponentDigits : Nat := 18

/-- The exponent that follows a number, zero if none does. -/
def exponent? : List Char → Option Int
  | [] => some 0
  | e :: rest =>
    if e = 'e' ∨ e = 'E' then
      let (negative, digits) := splitSign rest
      (spaced? Char.isDigit digits).map fun ds =>
        let n : Int := inBase 10 (ds.dropWhile (· = '0') |>.take exponentDigits)
        if negative then -n else n
    else none

/-- A digit, or an underscore between two. -/
def isNumberPart (c : Char) : Bool := c.isDigit || c = '_'

/-- The fraction's digits and what follows them; no digits if there is no point. -/
def fractionPart (cs : List Char) : Scan (List Char) :=
  match cs with
  | '.' :: rest =>
    (spaced? Char.isDigit (rest.takeWhile isNumberPart)).map fun ds =>
      (ds, rest.dropWhile isNumberPart)
  | cs => some ([], cs)

/-- The number with a fraction or an exponent that a word writes. -/
def real? (word : List Char) : Option Value :=
  let (negative, rest) := splitSign word
  let signed (x : Float) : Value := .real (if negative then -x else x)
  if rest = ['i', 'n', 'f'] then some (signed (1 / 0))
  else if rest = ['n', 'a', 'n'] then some (signed (0 / 0))
  else if (rest.dropWhile isNumberPart).isEmpty then none
  else do
    let front ← whole? (rest.takeWhile isNumberPart)
    let (back, tail) ← fractionPart (rest.dropWhile isNumberPart)
    let e ← exponent? tail
    let digits := front ++ back
    (Nearest.ofDecimal? (inBase 10 digits) (e - back.length) digits.length).map signed

end Gatehouse.Toml
