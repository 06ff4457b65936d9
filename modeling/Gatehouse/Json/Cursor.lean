/-
  Gatehouse — reading positions in a JSON text.

  A cursor stands between two bytes of the input. Faults are placed either at the cursor
  or behind the byte that it looks at.
-/
import Gatehouse.Json.Error

namespace Gatehouse.Json

/-- What is left to read, and how many bytes were read before. -/
structure Cursor where
  rest : List UInt8
  offset : Nat
deriving DecidableEq

namespace Cursor

/-- The cursor before the first byte. -/
def start (input : List UInt8) : Cursor := ⟨input, 0⟩

/-- The cursor behind the byte that it looks at. -/
def next (c : Cursor) : Cursor := ⟨c.rest.tail, c.offset + 1⟩

/-- The cursor moved forward to an offset. -/
def advance (c : Cursor) (offset : Nat) : Cursor := ⟨c.rest.drop (offset - c.offset), offset⟩

/-- A fault at the cursor. -/
def here (c : Cursor) (fault : Fault) : Error := { fault, offset := c.offset }

/-- A fault behind the byte that the cursor looks at. -/
def behind (c : Cursor) (fault : Fault) : Error :=
  { fault, offset := if c.rest.isEmpty then c.offset else c.offset + 1 }

end Cursor

/-- A space, tab or line end between the parts of a value. -/
def isSpace (b : UInt8) : Bool := b = 32 || b = 10 || b = 9 || b = 13

/-- Pass over the spaces before the next byte. -/
def skipFrom (offset : Nat) : List UInt8 → Cursor
  | [] => ⟨[], offset⟩
  | b :: rest => if isSpace b then skipFrom (offset + 1) rest else ⟨b :: rest, offset⟩

/-- Pass over the spaces before the next byte. -/
def Cursor.skipSpace (c : Cursor) : Cursor := skipFrom c.offset c.rest

end Gatehouse.Json
