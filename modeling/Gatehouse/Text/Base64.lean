/-
  Gatehouse — base64 text.

  Bytes written as letters, three bytes in four letters, without padding. A last group
  of one or two bytes takes two or three letters, whose spare bits are zero. `decode`
  accepts exactly what `encode` writes; a refusal names the letter and its place, or
  the length.
-/
import Gatehouse.Text.Decimal

namespace Gatehouse.Base64

/-- The two alphabets in use: they differ in the letters for 62 and 63. -/
inductive Alphabet
  | standard
  | urlSafe
deriving DecidableEq, Repr

/-- Why a text is not base64. Letters are given as bytes with their offset. -/
inductive Fault
  | symbol (byte offset : Nat)
  | length (n : Nat)
  | lastSymbol (byte offset : Nat)
  | padding
deriving DecidableEq, Repr

def Fault.message : Fault → String
  | symbol byte offset =>
    "Invalid symbol " ++ Text.decimal byte ++ ", offset " ++ Text.decimal offset ++ "."
  | length n => "Invalid input length: " ++ Text.decimal n
  | lastSymbol byte offset =>
    "Invalid last symbol " ++ Text.decimal byte ++ ", offset " ++ Text.decimal offset ++ "."
  | padding => "Invalid padding"

/-- The letter for a number below 64. -/
def Alphabet.symbol (a : Alphabet) (n : Nat) : Char :=
  if n < 26 then Char.ofNat ('A'.toNat + n)
  else if n < 52 then Char.ofNat ('a'.toNat + (n - 26))
  else if n < 62 then Char.ofNat ('0'.toNat + (n - 52))
  else match a, n with
    | .standard, 62 => '+'
    | .standard, _ => '/'
    | .urlSafe, 62 => '-'
    | .urlSafe, _ => '_'

/-- The number that a letter stands for. -/
def Alphabet.value? (a : Alphabet) (byte : UInt8) : Option Nat :=
  let n := byte.toNat
  if 'A'.toNat ≤ n ∧ n ≤ 'Z'.toNat then some (n - 'A'.toNat)
  else if 'a'.toNat ≤ n ∧ n ≤ 'z'.toNat then some (n - 'a'.toNat + 26)
  else if '0'.toNat ≤ n ∧ n ≤ '9'.toNat then some (n - '0'.toNat + 52)
  else if n = (a.symbol 62).toNat then some 62
  else if n = (a.symbol 63).toNat then some 63
  else none

/-! ## Writing -/

/-- The bytes as letters. -/
def encode (a : Alphabet) : List UInt8 → List Char
  | [] => []
  | [x] => [a.symbol (x.toNat / 4), a.symbol (x.toNat % 4 * 16)]
  | [x, y] =>
    [a.symbol (x.toNat / 4), a.symbol (x.toNat % 4 * 16 + y.toNat / 16),
      a.symbol (y.toNat % 16 * 4)]
  | x :: y :: z :: rest =>
    a.symbol (x.toNat / 4) :: a.symbol (x.toNat % 4 * 16 + y.toNat / 16)
      :: a.symbol (y.toNat % 16 * 4 + z.toNat / 64) :: a.symbol (z.toNat % 64) :: encode a rest

/-- The bytes as a text of letters. -/
def encodeText (a : Alphabet) (bytes : List UInt8) : String := String.ofList (encode a bytes)

/-- The number of letters for `n` bytes. -/
def encodedLength (n : Nat) : Nat := (4 * n + 2) / 3

theorem length_encode (a : Alphabet) (bytes : List UInt8) :
    (encode a bytes).length = encodedLength bytes.length := by
  fun_induction encode a bytes <;> simp_all [encodedLength]
  omega

/-! ## Reading -/

/-- The byte that marks padding, which this form does not have. -/
def paddingByte : UInt8 := '='.toUInt8

/-- The number for the letter at an offset. -/
def value (a : Alphabet) (byte : UInt8) (offset : Nat) : Except Fault Nat :=
  match a.value? byte with
  | some n => .ok n
  | none => .error (.symbol byte.toNat offset)

/-- What is known of the last group while its letters are read: their numbers, and how many
    padding marks followed from which offset on. -/
structure LastGroup where
  values : List Nat := []
  lastByte : UInt8 := 0
  padding : Nat := 0
  paddingAt : Nat := 0

/-- Read the letters of the last group, `index` of them read before. -/
def readLast (a : Alphabet) (offset : Nat) : Nat → LastGroup → List UInt8 → Except Fault LastGroup
  | _, g, [] => .ok g
  | index, g, b :: rest =>
    if b = paddingByte then
      if index < 2 then .error (.symbol b.toNat (offset + index))
      else
        let start := if g.padding = 0 then index else g.paddingAt
        readLast a offset (index + 1) { g with padding := g.padding + 1, paddingAt := start } rest
    else if 0 < g.padding then .error (.symbol paddingByte.toNat (offset + g.paddingAt))
    else do
      let n ← value a b (offset + index)
      readLast a offset (index + 1) { g with values := g.values ++ [n], lastByte := b } rest

/-- The bytes of the last group. Two letters make one byte and three make two; the bits that
    are left over have to be zero. -/
def finishLast (offset : Nat) (g : LastGroup) : Except Fault (List UInt8) :=
  let spare := Except.error (.lastSymbol g.lastByte.toNat (offset + g.values.length - 1))
  if 2 ≤ g.values.length ∧ 0 < g.padding then .error .padding
  else match g.values with
    | [p, q] => if q % 16 = 0 then .ok [(p * 4 + q / 16).toUInt8] else spare
    | [p, q, r] =>
      if r % 4 = 0 then .ok [(p * 4 + q / 16).toUInt8, (q % 16 * 16 + r / 4).toUInt8] else spare
    | [p, q, r, s] =>
      .ok [(p * 4 + q / 16).toUInt8, (q % 16 * 16 + r / 4).toUInt8, (r % 4 * 64 + s).toUInt8]
    | vs => .error (.length (offset + vs.length))

/-- Read the letters from an offset on, a group of four at a time. -/
def decodeFrom (a : Alphabet) (offset : Nat) : List UInt8 → Except Fault (List UInt8)
  | p :: q :: r :: s :: t :: rest => do
    let p ← value a p offset
    let q ← value a q (offset + 1)
    let r ← value a r (offset + 2)
    let s ← value a s (offset + 3)
    let bytes ← decodeFrom a (offset + 4) (t :: rest)
    return (p * 4 + q / 16).toUInt8 :: (q % 16 * 16 + r / 4).toUInt8
      :: (r % 4 * 64 + s).toUInt8 :: bytes
  | [] => .ok []
  | rest => do finishLast offset (← readLast a offset 0 {} rest)

/-- The bytes that a text of letters stands for. A stray letter at the end of a text whose
    length fits no group is reported before everything else. -/
def decode (a : Alphabet) (text : List UInt8) : Except Fault (List UInt8) :=
  match text.getLast? with
  | some b =>
    if text.length % 4 = 1 ∧ b ≠ paddingByte ∧ a.value? b = none then
      .error (.symbol b.toNat (text.length - 1))
    else decodeFrom a 0 text
  | none => .ok []

end Gatehouse.Base64
