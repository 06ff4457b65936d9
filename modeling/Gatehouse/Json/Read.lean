/-
  Gatehouse — reading JSON values of a known form.

  A `Reader` reads one value. A value of another form is a fault of the data, placed
  behind it; where it starts a list or an object, the reader stays in front of it.
  `skipValue` passes over a value of any form.
-/
import Gatehouse.Json.Scan

namespace Gatehouse.Json

/-- Reads a value from a cursor on and says where it ends. -/
abbrev Reader (α : Type) := Cursor → Except Error (α × Cursor)

/-- The fault of a value that is not of the expected form. -/
def mismatch (c : Cursor) (expected : String) : Error :=
  let fault (found : Found) (after : Cursor) : Error := after.here (.invalidType found expected)
  let word (tail : String) (found : Found) : Error :=
    match readWord tail.toList c.next with
    | .ok after => fault found after
    | .error e => e
  match c.rest with
  | [] => c.behind .endInValue
  | b :: _ =>
    if b = ascii 'n' then word "ull" .null
    else if b = ascii 't' then word "rue" (.bool true)
    else if b = ascii 'f' then word "alse" (.bool false)
    else if b = ascii '-' ∨ (digit? b).isSome then
      match readNumber c with
      | .ok (n, after) => fault n.found after
      | .error e => e
    else if b = ascii '"' then
      match readString c.next with
      | .ok (s, after) => fault (.text s) after
      | .error e => e
    else if b = ascii '[' then fault .sequence c
    else if b = ascii '\x7b' then fault .map c
    else c.behind .noValue

/-- The cursor at the first byte of the value. -/
def atValue (c : Cursor) : Except Error Cursor :=
  let c := c.skipSpace
  if c.rest.isEmpty then .error (c.behind .endInValue) else .ok c

/-- A text. -/
def readText : Reader String := fun c => do
  let c ← atValue c
  if c.rest.head? = some (ascii '"') then readString c.next else throw (mismatch c "a string")

/-- The least and the greatest signed number of 64 bits. -/
def isInt64 (n : Int) : Bool := -0x8000000000000000 ≤ n && n < 0x8000000000000000

/-- A signed number of 64 bits. -/
def readInt64 : Reader Int := fun c => do
  let c ← atValue c
  let expected := "i64"
  if c.rest.head?.any fun b => b = ascii '-' || (digit? b).isSome then
    match ← readNumber c with
    | (.natural n, after) =>
      if isInt64 n then return (n, after)
      else throw (after.here (.invalidValue (.integer n) expected))
    | (.negative n, after) => return (-n, after)
    | (.real x, after) => throw (after.here (.invalidType (Number.real x).found expected))
  else throw (mismatch c expected)

/-- The value, or none for `null`. -/
def readOptional {α : Type} (read : Reader α) : Reader (Option α) := fun c => do
  let c := c.skipSpace
  if c.rest.head? = some (ascii 'n') then
    let c ← readWord "ull".toList c.next
    return (none, c)
  else
    let (a, c) ← read c
    return (some a, c)

/-- The value, or none for a value of another form; reading goes on where the fault showed. -/
def readLeniently {α : Type} (read : Reader α) : Reader (Option α) := fun c =>
  match read c with
  | .ok (a, c) => .ok (some a, c)
  | .error e => .ok (none, c.advance e.offset)

/-! ## Lists and objects -/

/-- A step from one element to the next: the cursor at the next value, or none at the end of the
    list. -/
def nextElement (first : Bool) (c : Cursor) : Except Error (Option Cursor × Cursor) := do
  let c := c.skipSpace
  match c.rest with
  | [] => throw (c.behind .endInList)
  | b :: _ =>
    if b = ascii ']' then return (none, c)
    else
      let c ← if b = ascii ',' ∧ !first then pure c.next.skipSpace
        else if first then pure c
        else throw (c.behind .noCommaInList)
      match c.rest with
      | [] => throw (c.behind .endInValue)
      | b :: _ => if b = ascii ']' then throw (c.behind .trailingComma) else return (some c, c)

/-- A step from one member to the next: the key, or none at the end of the object. -/
def nextKey (first : Bool) (c : Cursor) : Except Error (Option String × Cursor) := do
  let c := c.skipSpace
  match c.rest with
  | [] => throw (c.behind .endInObject)
  | b :: _ =>
    if b = ascii '\x7d' then return (none, c)
    else
      let c ← if b = ascii ',' ∧ !first then pure c.next.skipSpace
        else if first then pure c
        else throw (c.behind .noCommaInObject)
      match c.rest with
      | [] => throw (c.behind .endInValue)
      | b :: _ =>
        if b = ascii '"' then
          let (key, c) ← readString c.next
          return (some key, c)
        else if b = ascii '\x7d' then throw (c.behind .trailingComma)
        else throw (c.behind .keyNotString)

/-- The colon between a key and its value. -/
def readColon (c : Cursor) : Except Error Cursor :=
  let c := c.skipSpace
  match c.rest with
  | [] => .error (c.behind .endInObject)
  | b :: _ => if b = ascii ':' then .ok c.next else .error (c.behind .noColon)

/-- The end of a list: where it is, or where the search for it stopped. -/
def endList (c : Cursor) : Except Error Unit × Cursor :=
  let c := c.skipSpace
  match c.rest with
  | [] => (.error (c.behind .endInList), c)
  | b :: _ =>
    if b = ascii ']' then (.ok (), c.next)
    else if b = ascii ',' then
      let c := c.next.skipSpace
      let fault := if c.rest.head? = some (ascii ']') then .trailingComma else .trailingCharacters
      (.error (c.behind fault), c)
    else (.error (c.behind .trailingCharacters), c)

/-- The end of an object: where it is, or where the search for it stopped. -/
def endObject (c : Cursor) : Except Error Unit × Cursor :=
  let c := c.skipSpace
  match c.rest with
  | [] => (.error (c.behind .endInObject), c)
  | b :: _ =>
    if b = ascii '\x7d' then (.ok (), c.next)
    else if b = ascii ',' then (.error (c.behind .trailingComma), c)
    else (.error (c.behind .trailingCharacters), c)

/-- The elements of a list, read alike; at most `fuel` of them. -/
def readElements {α : Type} (read : Reader α) : Nat → Bool → List α → Reader (List α)
  | 0, _, acc, c => .ok (acc.reverse, c)
  | fuel + 1, first, acc, c => do
    match ← nextElement first c with
    | (none, c) => return (acc.reverse, c)
    | (some c, _) =>
      let (a, c) ← read c
      readElements read fuel false (a :: acc) c

/-- A list of values of one form. -/
def readList {α : Type} (read : Reader α) : Reader (List α) := fun c => do
  let c ← atValue c
  if c.rest.head? = some (ascii '[') then
    let (as, c) ← readElements read (c.rest.length + 1) true [] c.next
    let (done, c) := endList c
    done
    return (as, c)
  else throw (mismatch c "a sequence")

/-! ## Values of any form -/

/-- What encloses a value. -/
inductive Frame
  | list
  | object
deriving DecidableEq

/-- What comes next while values of any form are passed over. -/
inductive Stage
  | value
  | opened
  | closed

/-- The key of a member and its colon. -/
def skipKey (c : Cursor) : Except Error Cursor := do
  let c := c.skipSpace
  match c.rest with
  | [] => throw (c.behind .endInObject)
  | b :: _ =>
    if b = ascii '"' then
      let c ← skipString c.next.offset c.next.rest
      readColon c
    else throw (c.behind .keyNotString)

/-- The cursor at the next value inside a frame. -/
def enter (frame : Frame) (c : Cursor) : Except Error Cursor :=
  match frame with
  | .list => .ok c
  | .object => skipKey c

/-- The byte that closes a frame. -/
def Frame.closing : Frame → UInt8
  | list => ascii ']'
  | object => ascii '\x7d'

/-- Pass over a value inside the enclosing frames, innermost first, in at most `fuel` steps. -/
def skipSteps : Nat → Stage → List Frame → Cursor → Except Error Cursor
  | 0, _, _, c => .ok c
  | _, .closed, [], c => .ok c
  | _, .opened, [], c => .ok c
  | fuel + 1, .value, frames, c => do
    let c ← atValue c
    match c.rest with
    | [] => throw (c.behind .endInValue)
    | b :: _ =>
      if b = ascii 'n' then skipSteps fuel .closed frames (← readWord "ull".toList c.next)
      else if b = ascii 't' then skipSteps fuel .closed frames (← readWord "rue".toList c.next)
      else if b = ascii 'f' then skipSteps fuel .closed frames (← readWord "alse".toList c.next)
      else if b = ascii '-' then skipSteps fuel .closed frames (← skipUnsigned c.next)
      else if (digit? b).isSome then skipSteps fuel .closed frames (← skipUnsigned c)
      else if b = ascii '"' then
        skipSteps fuel .closed frames (← skipString c.next.offset c.next.rest)
      else if b = ascii '[' then skipSteps fuel .opened (.list :: frames) c.next
      else if b = ascii '\x7b' then skipSteps fuel .opened (.object :: frames) c.next
      else throw (c.behind .noValue)
  | fuel + 1, .opened, frame :: frames, c => do
    let c := c.skipSpace
    match c.rest with
    | [] => throw (c.behind (if frame = .list then .endInList else .endInObject))
    | b :: _ =>
      if b = frame.closing then skipSteps fuel .closed frames c.next
      else skipSteps fuel .value (frame :: frames) (← enter frame c)
  | fuel + 1, .closed, frame :: frames, c => do
    let c := c.skipSpace
    match c.rest with
    | [] => throw (c.behind (if frame = .list then .endInList else .endInObject))
    | b :: _ =>
      if b = ascii ',' then skipSteps fuel .value (frame :: frames) (← enter frame c.next)
      else if b = frame.closing then skipSteps fuel .closed frames c.next
      else throw (c.behind (if frame = .list then .noCommaInList else .noCommaInObject))

@[simp]
theorem skipSteps_closed (fuel : Nat) (c : Cursor) : skipSteps fuel .closed [] c = .ok c := by
  cases fuel <;> simp [skipSteps]

/-- Pass over a value of any form. -/
def skipValue (c : Cursor) : Except Error Cursor :=
  skipSteps (2 * c.rest.length + 2) .value [] c

/-- Nothing but spaces follows. -/
def atEnd (c : Cursor) : Except Error Unit :=
  let c := c.skipSpace
  if c.rest.isEmpty then .ok () else .error (c.behind .trailingCharacters)

/-- Read a value that the input starts with; what follows it is not looked at. -/
def readFront {α : Type} (read : Reader α) (input : List UInt8) : Except Error α :=
  (read (Cursor.start input)).map (·.1)

/-- Read a value that is the whole input. -/
def readAll {α : Type} (read : Reader α) (input : List UInt8) : Except Error α := do
  let (a, c) ← read (Cursor.start input)
  atEnd c
  return a

end Gatehouse.Json
