/-
  Gatehouse — spans of time.

  A span is a whole number of nanoseconds, never negative: a timeout, an interval,
  the window of the attempt budget. `Span.text` writes it in the largest unit whose
  whole part is not zero, with the exact decimal fraction.
-/
import Gatehouse.Text.Decimal

namespace Gatehouse

/-- A length of time in nanoseconds. -/
structure Span where
  nanos : Nat
deriving DecidableEq, Repr, Inhabited

namespace Span

/-- Nanoseconds in a second. -/
def nanosPerSecond : Nat := 1000000000

/-- Nanoseconds in a millisecond. -/
def nanosPerMilli : Nat := 1000000

def ofSeconds (n : Nat) : Span := ⟨n * nanosPerSecond⟩

def ofMillis (n : Nat) : Span := ⟨n * nanosPerMilli⟩

/-- Whole seconds, the fraction dropped. -/
def seconds (d : Span) : Nat := d.nanos / nanosPerSecond

/-- Whole milliseconds, the fraction dropped. -/
def millis (d : Span) : Nat := d.nanos / nanosPerMilli

/-- The longest span that is a count of 64-bit seconds and nanoseconds. -/
def longest : Span := ⟨0x10000000000000000 * nanosPerSecond - 1⟩

/-- `n` counted in units of `10 ^ places`, as a decimal number. -/
def inUnits (n places : Nat) : List Char :=
  let unit := Nat.pow 10 places
  let fraction := Text.dropTrailingZeros (Text.padded places (n % unit))
  Text.decimalChars (n / unit) ++ if fraction.isEmpty then [] else '.' :: fraction

/-- The span in the largest of `s`, `ms`, `µs` and `ns` whose whole part is not zero. -/
def text (d : Span) : String :=
  if 1000000000 ≤ d.nanos then String.ofList (inUnits d.nanos 9) ++ "s"
  else if 1000000 ≤ d.nanos then String.ofList (inUnits d.nanos 6) ++ "ms"
  else if 1000 ≤ d.nanos then String.ofList (inUnits d.nanos 3) ++ "µs"
  else Text.decimal d.nanos ++ "ns"

end Span

end Gatehouse
