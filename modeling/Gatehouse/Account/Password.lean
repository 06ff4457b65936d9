/-
  Gatehouse — the strength of passwords.

  A password has 8 to 128 characters, and holds at least three of the four kinds: upper
  case letters, lower case letters, digits and punctuation. Letters of every script
  count; digits and punctuation are those of ASCII.
-/
import Gatehouse.Text.Decimal
import Gatehouse.Text.LetterCase

namespace Gatehouse.Password

/-- The fewest characters of a password. -/
def least : Nat := 8

/-- The most characters of a password. -/
def most : Nat := 128

/-- The fewest kinds of characters in a password. -/
def leastKinds : Nat := 3

/-- A digit of ASCII. -/
def isDigit (c : Char) : Bool := '0' ≤ c && c ≤ '9'

/-- A visible ASCII character that is neither a letter nor a digit. -/
def isPunctuation (c : Char) : Bool :=
  0x21 ≤ c.toNat && c.toNat ≤ 0x7E && !c.isAlphanum

/-- The kinds of characters that count. -/
def kinds : List (Char → Bool) := [Text.isUppercase, Text.isLowercase, isDigit, isPunctuation]

/-- How many of the kinds occur in the password. -/
def kindsIn (password : String) : Nat := kinds.countP fun kind => password.toList.any kind

/-- Why a password is too weak. -/
inductive Weakness
  | tooShort
  | tooLong
  | tooFewKinds
deriving DecidableEq, Repr

def Weakness.message : Weakness → String
  | tooShort => "password must be at least " ++ Text.decimal least ++ " characters long"
  | tooLong => "password must be at most " ++ Text.decimal most ++ " characters long"
  | tooFewKinds =>
    "password must contain at least 3 of: uppercase, lowercase, numbers, special characters"

/-- The first rule that the password breaks, if any. -/
def weakness? (password : String) : Option Weakness :=
  if password.length < least then some .tooShort
  else if most < password.length then some .tooLong
  else if kindsIn password < leastKinds then some .tooFewKinds
  else none

/-- A password is strong exactly if it keeps the three rules. -/
theorem weakness?_eq_none_iff {p : String} :
    weakness? p = none ↔ least ≤ p.length ∧ p.length ≤ most ∧ leastKinds ≤ kindsIn p := by
  unfold weakness?
  split
  · simp; omega
  · split
    · simp; omega
    · split <;> simp <;> omega

end Gatehouse.Password
