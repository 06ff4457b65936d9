/-
  Gatehouse — the values of settings.

  A setting is a text, a truth value or a natural number. Values of other types are taken
  for what they say if they say it without doubt: a number for the text of its digits, a
  word such as `yes` for a truth value, a truth value for one or zero.
-/
import Gatehouse.Config.Tree
import Gatehouse.Text.Lowercase

namespace Gatehouse.Config

/-- A value and where it was set. -/
structure Cell where
  origin : Option Origin
  value : Toml.Value

/-- What a tree says as a value. -/
def Cell.ofTree : Tree → Cell
  | .leaf origin value => ⟨origin, value⟩
  | .branch _ => ⟨none, .table .implied []⟩

/-- What stands in the place of a value of another type. -/
def foundIn : Toml.Value → Found
  | .text s | .moment s => .text s
  | .integer n => .integer n
  | .real x => .real x
  | .bool b => .bool b
  | .array _ _ => .sequence
  | .table _ _ => .map

namespace Cell

/-- The value is of another type. -/
def refuse (c : Cell) (expected : String) : Except Mismatch α :=
  .error ⟨foundIn c.value, expected, c.origin⟩

/-- The value as text. -/
def text (c : Cell) : Except Mismatch String :=
  match c.value with
  | .text s | .moment s => .ok s
  | .integer n => .ok (Text.decimalInt n)
  | .real x => .ok (realText plainStyle x)
  | .bool b => .ok (if b then "true" else "false")
  | .array _ _ | .table _ _ => c.refuse "a string"

/-- Words for true, in lower case. -/
def yesWords : List String := ["true", "on", "yes"]

/-- Words for false, in lower case. -/
def noWords : List String := ["false", "off", "no"]

/-- The value as a truth value. A word that is none is told in lower case. -/
def truth (c : Cell) : Except Mismatch Bool :=
  match c.value with
  | .bool b => .ok b
  | .integer n => .ok (n ≠ 0)
  | .real x => .ok (x != 0)
  | .text s | .moment s =>
    let word := Text.lowercase s
    if word = "1" ∨ word ∈ yesWords then .ok true
    else if word = "0" ∨ word ∈ noWords then .ok false
    else .error ⟨.text word, "a boolean", c.origin⟩
  | .array _ _ | .table _ _ => c.refuse "a boolean"

/-- The bound of the natural numbers. -/
def naturalBound : Nat := 0x10000000000000000

/-- The number below the bound that digits write, maybe behind a plus sign. -/
def readNatural? (cs : List Char) : Option Nat :=
  let digits := match cs with
    | '+' :: rest => rest
    | cs => cs
  (Text.readDecimal? digits).filter (· < naturalBound)

/-- The value as a natural number. -/
def natural (c : Cell) : Except Mismatch Nat :=
  match c.value with
  | .integer n =>
    if 0 ≤ n then .ok n.toNat else c.refuse "an unsigned 64 bit or less integer"
  | .real x => .ok x.round.toUInt64.toNat
  | .bool b => .ok (if b then 1 else 0)
  | .text s | .moment s =>
    let word := Text.lowercase s
    if word ∈ yesWords then .ok 1
    else if word ∈ noWords then .ok 0
    else match readNatural? s.toList with
      | some n => .ok n
      | none => c.refuse "an integer"
  | .array _ _ | .table _ _ => c.refuse "an integer"

/-- The value as a natural number of so many bits. Of one that does not fit, it is not told
    where it was set. -/
def sized (bits : Nat) (c : Cell) : Except Mismatch Nat := do
  let n ← c.natural
  if n < Nat.pow 2 bits then .ok n
  else .error ⟨.natural n, "an unsigned " ++ Text.decimal bits ++ " bit integer", none⟩

end Cell

end Gatehouse.Config
