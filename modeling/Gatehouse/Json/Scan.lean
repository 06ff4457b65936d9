/-
  Gatehouse — the lexical parts of JSON.

  Words, strings and numbers, read byte by byte. A string is kept as bytes until its end
  and has to be UTF-8; an escaped pair of surrogates makes one character. A number with a
  fraction or an exponent, or beyond 64 bits, is a double.
-/
import Gatehouse.Json.Cursor
import Gatehouse.Number.Shortest
import Gatehouse.Text.Hex
import Gatehouse.Text.Utf8

namespace Gatehouse.Json

/-- The byte of an ASCII character. -/
def ascii (c : Char) : UInt8 := c.toNat.toUInt8

/-! ## Words -/

/-- Read the rest of a word byte by byte. -/
def readWord : List Char → Cursor → Except Error Cursor
  | [], c => .ok c
  | w :: ws, c =>
    match c.rest with
    | [] => .error (c.here .endInValue)
    | b :: _ => if b = ascii w then readWord ws c.next else .error (c.next.here .noWord)

/-! ## Strings -/

/-- The value of a hexadecimal digit. -/
def hexValue? (b : UInt8) : Option Nat := Text.hexValue? (Char.ofNat b.toNat)

/-- The number of four hexadecimal digits. -/
def hexFour? (p q r s : UInt8) : Option Nat := do
  let p ← hexValue? p
  let q ← hexValue? q
  let r ← hexValue? r
  let s ← hexValue? s
  return ((p * 16 + q) * 16 + r) * 16 + s

/-- The byte that an escape letter stands for. -/
def escapeByte? (b : UInt8) : Option UInt8 :=
  if b = ascii '"' ∨ b = ascii '\\' ∨ b = ascii '/' then some b
  else if b = ascii 'b' then some 8
  else if b = ascii 'f' then some 12
  else if b = ascii 'n' then some 10
  else if b = ascii 'r' then some 13
  else if b = ascii 't' then some 9
  else none

/-- The number is the first half of a pair of surrogates. -/
def isHighSurrogate (n : Nat) : Bool := 0xD800 ≤ n && n ≤ 0xDBFF

/-- The number is the second half of a pair of surrogates. -/
def isLowSurrogate (n : Nat) : Bool := 0xDC00 ≤ n && n ≤ 0xDFFF

/-- The code point of a pair of surrogates. -/
def pairedCodePoint (high low : Nat) : Nat := 0x10000 + (high - 0xD800) * 0x400 + (low - 0xDC00)

/-- The bytes of a code point. -/
def codePointBytes (n : Nat) : List UInt8 := (String.singleton (Char.ofNat n)).toUTF8.toList

/-- Put bytes in front of a list that is kept in reverse. -/
def pushAll (bytes acc : List UInt8) : List UInt8 := bytes.reverse ++ acc

/-- Read a string up to its closing quote. The bytes read so far are in `acc`, latest first. -/
def scanString (offset : Nat) (acc : List UInt8) : List UInt8 → Except Error (List UInt8 × Cursor)
  | [] => .error { fault := .endInString, offset }
  | b :: rest =>
    if b = ascii '"' then .ok (acc.reverse, ⟨rest, offset + 1⟩)
    else if b = ascii '\\' then
      match rest with
      | [] => .error { fault := .endInString, offset := offset + 1 }
      | e :: rest =>
        if e = ascii 'u' then
          match rest with
          | p :: q :: r :: s :: rest =>
            match hexFour? p q r s with
            | none => .error { fault := .badEscape, offset := offset + 6 }
            | some n =>
              if isLowSurrogate n then .error { fault := .loneSurrogate, offset := offset + 6 }
              else if isHighSurrogate n then
                match rest with
                | [] => .error { fault := .endInString, offset := offset + 6 }
                | b' :: rest =>
                  if b' = ascii '\\' then
                    match rest with
                    | [] => .error { fault := .endInString, offset := offset + 7 }
                    | e' :: rest =>
                      if e' = ascii 'u' then
                        match rest with
                        | p' :: q' :: r' :: s' :: rest =>
                          match hexFour? p' q' r' s' with
                          | none => .error { fault := .badEscape, offset := offset + 12 }
                          | some m =>
                            if isLowSurrogate m then
                              scanString (offset + 12)
                                (pushAll (codePointBytes (pairedCodePoint n m)) acc) rest
                            else .error { fault := .loneSurrogate, offset := offset + 12 }
                        | rest =>
                          .error { fault := .endInString, offset := offset + 8 + rest.length }
                      else .error { fault := .brokenSurrogate, offset := offset + 8 }
                  else .error { fault := .brokenSurrogate, offset := offset + 7 }
              else scanString (offset + 6) (pushAll (codePointBytes n) acc) rest
          | rest => .error { fault := .endInString, offset := offset + 2 + rest.length }
        else
          match escapeByte? e with
          | some b' => scanString (offset + 2) (b' :: acc) rest
          | none => .error { fault := .badEscape, offset := offset + 2 }
    else if b < 32 then .error { fault := .controlCharacter, offset := offset + 1 }
    else scanString (offset + 1) (b :: acc) rest

/-- The closing quote ends a string. -/
@[simp]
theorem scanString_quote (offset : Nat) (acc rest : List UInt8) :
    scanString offset acc (ascii '"' :: rest) = .ok (acc.reverse, ⟨rest, offset + 1⟩) := by
  rw [scanString.eq_def]
  simp

/-- Read a string whose opening quote has been read. A byte that is not of UTF-8 is a fault
    behind that byte. -/
def readString (c : Cursor) : Except Error (String × Cursor) := do
  let (bytes, after) ← scanString c.offset [] c.rest
  match String.fromUTF8? ⟨bytes.toArray⟩ with
  | some s => return (s, after)
  | none =>
    let raw := c.rest.take (after.offset - c.offset - 1)
    throw { fault := .badCodePoint, offset := Text.wellFormedPrefixLength c.offset raw + 1 }

/-- Pass over a string up to its closing quote; what it spells is not looked at. -/
def skipString (offset : Nat) : List UInt8 → Except Error Cursor
  | [] => .error { fault := .endInString, offset }
  | b :: rest =>
    if b = ascii '"' then .ok ⟨rest, offset + 1⟩
    else if b = ascii '\\' then
      match rest with
      | [] => .error { fault := .endInString, offset := offset + 1 }
      | e :: rest =>
        if e = ascii 'u' then
          match rest with
          | p :: q :: r :: s :: rest =>
            match hexFour? p q r s with
            | none => .error { fault := .badEscape, offset := offset + 6 }
            | some _ => skipString (offset + 6) rest
          | rest => .error { fault := .endInString, offset := offset + 2 + rest.length }
        else if (escapeByte? e).isSome then skipString (offset + 2) rest
        else .error { fault := .badEscape, offset := offset + 2 }
    else if b < 32 then .error { fault := .controlCharacter, offset }
    else skipString (offset + 1) rest

@[simp]
theorem skipString_quote (offset : Nat) (rest : List UInt8) :
    skipString offset (ascii '"' :: rest) = .ok ⟨rest, offset + 1⟩ := by
  rw [skipString.eq_def]
  simp

/-! ## Numbers -/

/-- A number as it is read. -/
inductive Number
  | natural (n : Nat)
  | negative (n : Nat)
  | real (x : Float)

/-- Doubles are written with a fraction or an exponent of at least two digits. -/
def realStyle : Shortest.Style :=
  { leastPlain := -5, firstScientific := 16, wholeMark := ['.', '0'], exponentPlus := ['+'],
    exponentDigits := 2 }

def Number.found : Number → Found
  | natural n => .integer n
  | negative n => .integer (-n)
  | real x => .real (realStyle.text x)

/-- The value of a digit. -/
def digit? (b : UInt8) : Option Nat :=
  let n := b.toNat
  if '0'.toNat ≤ n ∧ n ≤ '9'.toNat then some (n - '0'.toNat) else none

/-- The digits at the cursor, latest first in front of `acc`. -/
def takeDigitsFrom (offset : Nat) (acc : List Nat) : List UInt8 → List Nat × Cursor
  | [] => (acc.reverse, ⟨[], offset⟩)
  | b :: rest =>
    match digit? b with
    | some d => takeDigitsFrom (offset + 1) (d :: acc) rest
    | none => (acc.reverse, ⟨b :: rest, offset⟩)

/-- The digits at the cursor. -/
def takeDigits (c : Cursor) : List Nat × Cursor := takeDigitsFrom c.offset [] c.rest

/-- The greatest significand. -/
def significandLimit : Nat := 0xFFFFFFFFFFFFFFFF

/-- Append digits to a significand while it stays within its limit; what is left over. -/
def accumulate (n : Nat) : List Nat → Nat × List Nat
  | [] => (n, [])
  | d :: ds => if significandLimit < n * 10 + d then (n, d :: ds) else accumulate (n * 10 + d) ds

/-- The power of ten as a double. -/
def powerOfTen (n : Nat) : Float := Float.ofScientific 1 false n

/-- The greatest power of ten among the doubles. -/
def greatestPower : Nat := 308

/-- Scale a double by a power of ten, at most `greatestPower` at a time. -/
def scale : Nat → Float → Int → Option Float
  | 0, x, _ => some x
  | more + 1, x, e =>
    if e.natAbs ≤ greatestPower then
      if 0 ≤ e then
        let y := x * powerOfTen e.natAbs
        if y.isInf then none else some y
      else some (x / powerOfTen e.natAbs)
    else if x == 0 then some x
    else if 0 ≤ e then none
    else scale more (x / powerOfTen greatestPower) (e + greatestPower)

/-- The double for a significand and a power of ten, if it is finite. -/
def real? (negative : Bool) (significand : Nat) (e : Int) : Option Float :=
  (scale (e.natAbs / greatestPower + 2) (Float.ofNat significand) e).map fun x =>
    if negative then -x else x

/-- The double read up to the cursor. -/
def finishReal (negative : Bool) (significand : Nat) (e : Int) (c : Cursor) :
    Except Error (Number × Cursor) :=
  match real? negative significand e with
  | some x => .ok (.real x, c)
  | none => .error (c.here .numberOutOfRange)

/-- The greatest exponent that is read in full. -/
def exponentLimit : Nat := 0x7FFFFFFF

/-- Read the digits of an exponent, at the first of which the cursor stands. An exponent beyond
    the limit is out of range, or makes the number zero. -/
def readExponentDigits (negative : Bool) (significand : Nat) (e : Int) (down : Bool) (c : Cursor) :
    Except Error (Number × Cursor) :=
  let (digits, after) := takeDigits c
  let rec go (n read : Nat) : List Nat → Except Error (Number × Cursor)
    | [] =>
      let total := if down then e - n else e + n
      finishReal negative significand (max (-0x80000000) (min 0x7FFFFFFF total)) after
    | d :: ds =>
      if exponentLimit < n * 10 + d then
        if significand ≠ 0 ∧ !down then
          .error { fault := .numberOutOfRange, offset := c.offset + read + 1 }
        else .ok (.real (if negative then -0.0 else 0.0), after)
      else go (n * 10 + d) (read + 1) ds
  go 0 0 digits

/-- Read an exponent, at whose letter the cursor stands. -/
def readExponent (negative : Bool) (significand : Nat) (e : Int) (c : Cursor) :
    Except Error (Number × Cursor) :=
  let c := c.next
  let (down, c) := match c.rest with
    | b :: _ =>
      if b = ascii '-' then (true, c.next)
      else if b = ascii '+' then (false, c.next)
      else (false, c)
    | [] => (false, c)
  match c.rest with
  | [] => .error (c.here .endInValue)
  | b :: _ =>
    if (digit? b).isSome then readExponentDigits negative significand e down c
    else .error (c.next.here .badNumber)

/-- The cursor stands at the letter of an exponent. -/
def atExponent (c : Cursor) : Bool := c.rest.head?.any fun b => b = ascii 'e' || b = ascii 'E'

/-- Finish a number whose digits have been read, up to an exponent. -/
def readScale (negative : Bool) (significand : Nat) (e : Int) (c : Cursor) :
    Except Error (Number × Cursor) :=
  if atExponent c then readExponent negative significand e c
  else finishReal negative significand e c

/-- Read a fraction, at whose point the cursor stands. -/
def readFraction (negative : Bool) (significand : Nat) (e : Int) (c : Cursor) :
    Except Error (Number × Cursor) :=
  let c := c.next
  let (digits, after) := takeDigits c
  if digits.isEmpty then
    .error (c.behind (if c.rest.isEmpty then .endInValue else .badNumber))
  else
    let (significand, left) := accumulate significand digits
    readScale negative significand (e - (digits.length - left.length : Nat)) after

/-- Finish a number whose whole digits have been read; `dropped` of them do not count. -/
def readTail (negative : Bool) (significand dropped : Nat) (c : Cursor) :
    Except Error (Number × Cursor) :=
  match c.rest with
  | b :: _ =>
    if b = ascii '.' then readFraction negative significand dropped c
    else if atExponent c then readExponent negative significand dropped c
    else whole
  | [] => whole
where
  whole : Except Error (Number × Cursor) :=
    if 0 < dropped then finishReal negative significand dropped c
    else if !negative then .ok (.natural significand, c)
    else if significand = 0 ∨ 0x8000000000000000 < significand then
      .ok (.real (-(Float.ofNat significand)), c)
    else .ok (.negative significand, c)

/-- Read a number behind its sign. -/
def readUnsigned (negative : Bool) (c : Cursor) : Except Error (Number × Cursor) :=
  match c.rest with
  | [] => .error (c.here .endInValue)
  | b :: _ =>
    match digit? b with
    | none => .error (c.next.here .badNumber)
    | some 0 =>
      let c := c.next
      if c.rest.head?.any fun b => (digit? b).isSome then .error (c.behind .badNumber)
      else readTail negative 0 0 c
    | some _ =>
      let (digits, after) := takeDigits c
      let (significand, left) := accumulate 0 digits
      readTail negative significand left.length after

/-- Read a number, at whose sign or first digit the cursor stands. -/
def readNumber (c : Cursor) : Except Error (Number × Cursor) :=
  if c.rest.head? = some (ascii '-') then readUnsigned true c.next else readUnsigned false c

/-- Pass over the digits at the cursor. -/
def skipDigits (c : Cursor) : Cursor := (takeDigits c).2

/-- Pass over an exponent, if there is one. -/
def skipExponent (c : Cursor) : Except Error Cursor :=
  if atExponent c then
    let c := c.next
    let c := match c.rest with
      | b :: _ => if b = ascii '-' ∨ b = ascii '+' then c.next else c
      | [] => c
    match c.rest with
    | b :: _ => if (digit? b).isSome then .ok (skipDigits c) else .error (c.next.here .badNumber)
    | [] => .error (c.here .badNumber)
  else .ok c

/-- Pass over a fraction and an exponent, where there are any. -/
def skipTail (c : Cursor) : Except Error Cursor :=
  match c.rest with
  | b :: _ =>
    if b = ascii '.' then
      let c := c.next
      let (digits, after) := takeDigits c
      if digits.isEmpty then .error (c.behind .badNumber) else skipExponent after
    else skipExponent c
  | [] => .ok c

/-- Pass over a number behind its sign; its size does not matter. -/
def skipUnsigned (c : Cursor) : Except Error Cursor :=
  match c.rest with
  | [] => .error (c.here .badNumber)
  | b :: _ =>
    match digit? b with
    | none => .error (c.next.here .badNumber)
    | some 0 =>
      let c := c.next
      if c.rest.head?.any fun b => (digit? b).isSome then .error (c.behind .badNumber)
      else skipTail c
    | some _ => skipTail (skipDigits c)

end Gatehouse.Json
