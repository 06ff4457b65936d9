/-
  Gatehouse — user names.

  A user name has 3 to 32 characters: letters, numbers, underscores and hyphens of any
  script. `Username.ofText` is the only way to a user name; a value of the type carries
  the facts that it checked.
-/
import Gatehouse.Text.Alphanumeric
import Gatehouse.Text.Decimal

namespace Gatehouse

/-- Why a text is refused as a user name. -/
inductive UsernameError
  | tooShort (actual : Nat)
  | tooLong (actual : Nat)
  | invalidCharacters
deriving DecidableEq, Repr

namespace Username

/-- The fewest characters of a user name. -/
def least : Nat := 3

/-- The most characters of a user name. -/
def most : Nat := 32

/-- A character that a user name may hold. -/
def allows (c : Char) : Bool := Text.isAlphanumeric c || c == '_' || c == '-'

end Username

def UsernameError.message : UsernameError → String
  | .tooShort actual =>
    "Username too short: minimum " ++ Text.decimal Username.least ++ " characters, got "
      ++ Text.decimal actual
  | .tooLong actual =>
    "Username too long: maximum " ++ Text.decimal Username.most ++ " characters, got "
      ++ Text.decimal actual
  | .invalidCharacters =>
    "Username contains invalid characters (only alphanumeric, underscore, and hyphen allowed)"

/-- A well-formed user name. -/
structure Username where
  text : String
  long : Username.least ≤ text.length
  short : text.length ≤ Username.most
  allowed : text.toList.all Username.allows = true
deriving DecidableEq

namespace Username

instance : Repr Username := ⟨fun u n => reprPrec u.text n⟩

@[ext]
theorem ext {u v : Username} (h : u.text = v.text) : u = v := by
  cases u; cases v; cases h; rfl

/-- The text as a user name. -/
def ofText (text : String) : Except UsernameError Username :=
  if long : least ≤ text.length then
    if short : text.length ≤ most then
      if allowed : text.toList.all allows = true then .ok ⟨text, long, short, allowed⟩
      else .error .invalidCharacters
    else .error (.tooLong text.length)
  else .error (.tooShort text.length)

end Username

end Gatehouse
