/-
  Gatehouse — dates and times in TOML documents.

  `moment?` reads a date, a time of day, or both with or without an offset from UTC, and
  gives it as it is written back: a capital T between date and time, a capital Z for UTC, and
  a fraction of a second of at most nine digits without zeros at the end.
-/
import Gatehouse.Toml.Scan

namespace Gatehouse.Toml

/-- The number that exactly so many digits write. -/
def fixed (width : Nat) (cs : List Char) : Scan Nat :=
  let digits := cs.take width
  if digits.length = width then (Text.readDecimal? digits).map fun n => (n, cs.drop width)
  else none

/-- Pass over the character, if it is next. -/
def expect (c : Char) : List Char → Option (List Char)
  | d :: rest => if d = c then some rest else none
  | [] => none

/-- The days of a month. -/
def daysInMonth (year month : Nat) : Nat :=
  if month = 2 then
    if year % 4 = 0 ∧ (year % 100 ≠ 0 ∨ year % 400 = 0) then 29 else 28
  else if month = 4 ∨ month = 6 ∨ month = 9 ∨ month = 11 then 30
  else 31

/-- A date, as written back. -/
def date (cs : List Char) : Option (List Char × List Char) := do
  let (year, cs) ← fixed 4 cs
  let (month, cs) ← fixed 2 (← expect '-' cs)
  let (day, cs) ← fixed 2 (← expect '-' cs)
  if 1 ≤ month ∧ month ≤ 12 ∧ 1 ≤ day ∧ day ≤ daysInMonth year month then
    some (Text.padded 4 year ++ '-' :: Text.padded 2 month ++ '-' :: Text.padded 2 day, cs)
  else none

/-- The digits of a fraction of a second that count. -/
def fractionDigits : Nat := 9

/-- The fraction of a second, as written back. -/
def fraction (cs : List Char) : Scan (List Char) :=
  match cs with
  | '.' :: rest =>
    let digits := rest.takeWhile Char.isDigit
    let kept := Text.dropTrailingZeros (digits.take fractionDigits)
    if digits.isEmpty then none
    else some (if kept.isEmpty then [] else '.' :: kept, rest.dropWhile Char.isDigit)
  | _ => some ([], cs)

/-- A time of day, as written back. A minute may have a leap second. -/
def time (cs : List Char) : Option (List Char × List Char) := do
  let (hour, cs) ← fixed 2 cs
  let (minute, cs) ← fixed 2 (← expect ':' cs)
  let (second, cs) ← fixed 2 (← expect ':' cs)
  let (part, cs) ← fraction cs
  if hour ≤ 23 ∧ minute ≤ 59 ∧ second ≤ 60 then
    some (Text.padded 2 hour ++ ':' :: Text.padded 2 minute ++ ':' :: Text.padded 2 second ++ part,
      cs)
  else none

/-- An offset from UTC, as written back; nothing is no offset. -/
def offset (cs : List Char) : Option (List Char × List Char) :=
  match cs with
  | [] => some ([], [])
  | 'Z' :: rest | 'z' :: rest => some (['Z'], rest)
  | sign :: rest => do
    let (hour, rest) ← fixed 2 rest
    let (minute, rest) ← fixed 2 (← expect ':' rest)
    let sign := if sign = '-' ∧ 0 < hour + minute then '-' else '+'
    if hour ≤ 23 ∧ minute ≤ 59 then
      some (sign :: Text.padded 2 hour ++ ':' :: Text.padded 2 minute, rest)
    else none

/-- The moment that a word writes, as written back. The word may hold a space between the date
    and the time. -/
def moment? (word : List Char) : Option String :=
  let whole (s : Scan (List Char)) : Option (List Char) :=
    s.bind fun (cs, rest) => if rest.isEmpty then some cs else none
  let text := match date word with
    | none => whole (time word)
    | some (day, []) => some day
    | some (day, mark :: rest) =>
      if mark = 'T' ∨ mark = 't' ∨ mark = ' ' then do
        let (clock, rest) ← time rest
        let zone ← whole (offset rest)
        some (day ++ 'T' :: clock ++ zone)
      else none
  text.map String.ofList

end Gatehouse.Toml
