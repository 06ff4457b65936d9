/-
  Gatehouse — instants.

  An instant counts seconds from 1970-01-01T00:00:00Z and nanoseconds upwards from
  the second. A leap second is the last second of its minute with 10⁹ nanoseconds or
  more. Instants are ordered by second, then by nanosecond (`Instant.lt_iff`).

  * `Instant.add?` moves by a signed number of nanoseconds, within the representable
    years −262143 to 262142. Moving out of a leap second drops the extra second.
  * `Instant.text` writes the date and time of day with the shortest exact fraction
    of 0, 3, 6 or 9 digits.
  * `Instant.micros` is the stored form: microseconds from the year 2000, cut towards
    it.
-/
import Gatehouse.Text.Decimal
import Gatehouse.Time.Calendar

namespace Gatehouse

/-- A point in time. -/
structure Instant where
  seconds : Int
  nanos : Nat := 0
deriving DecidableEq, Repr, Inhabited

namespace Instant

/-- Nanoseconds in a second. -/
def giga : Nat := 1000000000

/-- Seconds in a day. -/
def day : Nat := 86400

/-- The second −262143-01-01T00:00:00Z. -/
def firstSecond : Int := -8334601228800

/-- The second 262142-12-31T23:59:59Z. -/
def lastSecond : Int := 8210266876799

/-- The earliest instant. -/
def earliest : Instant := ⟨firstSecond, 0⟩

/-- The second is one of a representable year. -/
def inRange (seconds : Int) : Bool := firstSecond ≤ seconds && seconds ≤ lastSecond

/-- The instant at a whole second, if its year is representable. -/
def ofSeconds? (seconds : Int) : Option Instant :=
  if inRange seconds then some ⟨seconds, 0⟩ else none

/-- The instant lies strictly before another. -/
def isBefore (s t : Instant) : Bool :=
  s.seconds < t.seconds || (s.seconds == t.seconds && s.nanos < t.nanos)

instance : LT Instant := ⟨fun s t => s.isBefore t = true⟩

instance : LE Instant := ⟨fun s t => t.isBefore s = false⟩

instance (s t : Instant) : Decidable (s < t) := inferInstanceAs (Decidable (_ = true))

instance (s t : Instant) : Decidable (s ≤ t) := inferInstanceAs (Decidable (_ = false))

theorem lt_iff {s t : Instant} :
    s < t ↔ s.seconds < t.seconds ∨ (s.seconds = t.seconds ∧ s.nanos < t.nanos) := by
  show s.isBefore t = true ↔ _
  simp [isBefore]

theorem le_iff_not_lt {s t : Instant} : s ≤ t ↔ ¬ t < s := by
  show t.isBefore s = false ↔ ¬ t.isBefore s = true
  simp

theorem not_le {s t : Instant} : ¬ s ≤ t ↔ t < s := by
  rw [le_iff_not_lt, Classical.not_not]

theorem lt_of_lt_of_le {s t u : Instant} (hst : s < t) (htu : t ≤ u) : s < u := by
  rw [le_iff_not_lt] at htu
  rw [lt_iff] at *
  omega

theorem le_of_lt {s t : Instant} (h : s < t) : s ≤ t := by
  rw [le_iff_not_lt]
  rw [lt_iff] at *
  omega

/-- The instant `nanos` nanoseconds after the start of a second, in canonical form. -/
def ofNanos? (seconds : Int) (nanos : Int) : Option Instant :=
  let second := seconds + nanos / (giga : Int)
  if inRange second then some ⟨second, (nanos % (giga : Int)).toNat⟩ else none

/-- The instant `delta` nanoseconds later, if its year is representable. -/
def add? (t : Instant) (delta : Int) : Option Instant :=
  if t.nanos < giga then ofNanos? t.seconds (t.nanos + delta)
  else
    let whole := delta.tdiv giga
    let part := delta.tmod giga
    if 0 < whole || (0 < part && 2 * giga ≤ t.nanos + part) then
      ofNanos? t.seconds (t.nanos - giga + delta)
    else if whole < 0 then ofNanos? (t.seconds + 1) (t.nanos - giga + delta)
    else some ⟨t.seconds, (t.nanos + part).toNat⟩

/-- The instant `n` seconds later, if its year is representable. -/
def addSeconds? (t : Instant) (n : Nat) : Option Instant := t.add? (n * giga)

/-- The second 2000-01-01T00:00:00Z, from which stored instants count. -/
def storedEpoch : Int := 946684800

/-- Microseconds from the year 2000, cut towards it. -/
def micros (t : Instant) : Int :=
  ((t.seconds - storedEpoch) * giga + t.nanos).tdiv 1000

/-- The instant that is stored as `n` microseconds from the year 2000. -/
def ofMicros (n : Int) : Instant :=
  ⟨storedEpoch + n / 1000000, ((n % 1000000) * 1000).toNat⟩

/-- The instant as it is read back from storage. -/
def cut (t : Instant) : Instant := ofMicros t.micros

/-- The year, with a sign and at least four digits outside 0 to 9999. -/
def yearText (year : Int) : List Char :=
  if 0 ≤ year ∧ year ≤ 9999 then Text.padded 4 year.toNat
  else (if year < 0 then '-' else '+') :: Text.padded 4 year.natAbs

/-- The fraction of a second: absent, or the fewest of 3, 6 and 9 digits that are exact. -/
def fractionText (nanos : Nat) : List Char :=
  if nanos = 0 then []
  else if nanos % 1000000 = 0 then '.' :: Text.padded 3 (nanos / 1000000)
  else if nanos % 1000 = 0 then '.' :: Text.padded 6 (nanos / 1000)
  else '.' :: Text.padded 9 nanos

/-- The instant as date, time of day and the letter of universal time. -/
def text (t : Instant) : String :=
  let date := Date.ofDays (t.seconds / (day : Int))
  let ofDay := (t.seconds % (day : Int)).toNat
  let (second, fraction) :=
    if t.nanos < giga then (ofDay % 60, t.nanos) else (ofDay % 60 + 1, t.nanos - giga)
  String.ofList <|
    yearText date.year ++ '-' :: Text.padded 2 date.month ++ '-' :: Text.padded 2 date.day
      ++ 'T' :: Text.padded 2 (ofDay / 3600) ++ ':' :: Text.padded 2 (ofDay / 60 % 60)
      ++ ':' :: Text.padded 2 second ++ fractionText fraction ++ ['Z']

end Instant

end Gatehouse
