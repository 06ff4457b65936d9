/-
  Gatehouse — network addresses.

  Reading and writing the addresses of RFC 791 and RFC 4291. `Address.text` writes an
  address in its one short form: lower case, without leading zeros, the longest run of
  two or more zero groups (of several, the first) as a double colon, and an address that
  stands for a version 4 one with its four numbers.
-/
import Gatehouse.Text.Decimal
import Gatehouse.Text.Hex
import Gatehouse.Text.Split

namespace Gatehouse

/-- An address: four bytes, or eight groups of sixteen bits. -/
inductive Address
  | v4 (bytes : List UInt8)
  | v6 (groups : List UInt16)
deriving DecidableEq, Repr

namespace Address

/-! ## Reading -/

/-- A byte in up to three decimal digits without leading zeros. -/
def byte? (cs : List Char) : Option UInt8 :=
  if 3 < cs.length ∨ (cs.head? = some '0' ∧ 1 < cs.length) then none
  else ((Text.readDecimal? cs).filter (· < 256)).map (·.toUInt8)

/-- Four bytes between dots. -/
def fourBytes? (cs : List Char) : Option (List UInt8) :=
  let parts := Text.pieces '.' cs
  if parts.length = 4 then parts.mapM byte? else none

/-- A group of one to four hexadecimal digits. -/
def group? (cs : List Char) : Option UInt16 :=
  if cs.isEmpty ∨ 4 < cs.length then none
  else (cs.foldlM (fun n c => (Text.hexValue? c).map (16 * n + ·)) 0).map (·.toUInt16)

/-- Two bytes as a group. -/
def pair (a b : UInt8) : UInt16 := a.toUInt16 * 256 + b.toUInt16

/-- The groups of parts between colons; the last part may be a version 4 address. -/
def groupsOf? : List (List Char) → Option (List UInt16)
  | [] => some []
  | [p] =>
    match group? p, fourBytes? p with
    | some g, _ => some [g]
    | none, some [a, b, c, d] => some [pair a b, pair c d]
    | none, _ => none
  | p :: ps => do return (← group? p) :: (← groupsOf? ps)

/-- The groups on one side of a double colon. -/
def sideOf? (cs : List Char) : Option (List UInt16) :=
  if cs.isEmpty then some [] else groupsOf? (Text.pieces ':' cs)

/-- What stands before and after the first double colon. -/
def cutDouble : List Char → Option (List Char × List Char)
  | ':' :: ':' :: rest => some ([], rest)
  | c :: rest => (cutDouble rest).map fun (l, r) => (c :: l, r)
  | [] => none

/-- The eight groups of a version 6 address. -/
def eightGroups? (cs : List Char) : Option (List UInt16) :=
  match cutDouble cs with
  | some (l, r) => do
    let head ← sideOf? l
    let tail ← sideOf? r
    if '.' ∉ l ∧ head.length + tail.length < 8 then
      some (head ++ List.replicate (8 - head.length - tail.length) 0 ++ tail)
    else none
  | none => (groupsOf? (Text.pieces ':' cs)).filter (·.length = 8)

/-- The address that a text stands for. -/
def ofText? (text : String) : Option Address :=
  match fourBytes? text.toList with
  | some bytes => some (.v4 bytes)
  | none => (eightGroups? text.toList).map .v6

/-! ## Writing -/

/-- Four bytes with dots between them. -/
def dotted (bytes : List UInt8) : String :=
  String.intercalate "." (bytes.map fun b => Text.decimal b.toNat)

/-- Groups in hexadecimal digits with colons between them. -/
def colons (groups : List UInt16) : String :=
  String.intercalate ":" (groups.map fun g => String.ofList (Nat.toDigits 16 g.toNat))

/-- How many zero groups the list starts with. -/
def zerosAhead (groups : List UInt16) : Nat := (groups.takeWhile (· == 0)).length

/-- Where the first longest run of zero groups starts, and its length. -/
def longestRun (groups : List UInt16) : Nat × Nat :=
  (List.range groups.length).foldl
    (fun best i =>
      let n := zerosAhead (groups.drop i)
      if best.2 < n then (i, n) else best)
    (0, 0)

/-- A version 6 address. -/
def sixText (groups : List UInt16) : String :=
  match groups with
  | [0, 0, 0, 0, 0, 0xffff, a, b] =>
    "::ffff:" ++ dotted [(a / 256).toUInt8, a.toUInt8, (b / 256).toUInt8, b.toUInt8]
  | _ =>
    let (start, length) := longestRun groups
    if 1 < length then
      colons (groups.take start) ++ "::" ++ colons (groups.drop (start + length))
    else colons groups

/-- The one short form of an address. -/
def text : Address → String
  | v4 bytes => dotted bytes
  | v6 groups => sixText groups

end Address

end Gatehouse
