/-
  Gatehouse — JSON records.

  A record has named fields and is read from an object, or from a list that holds the
  fields in order. In an object, fields may stand in any order; names that the record
  does not know are passed over, and a field that stands there twice is refused. What has
  been read so far is a draft, from which `finish` makes the value.
-/
import Gatehouse.Json.Read

namespace Gatehouse.Json

/-- A field of a record with drafts of type `σ`. -/
structure Field (σ : Type) where
  name : String
  /-- The draft has the field already. -/
  filled : σ → Bool
  /-- Reads the field's value into the draft. -/
  read : σ → Reader σ
  /-- The draft for a list that ends before the field; none if the list is refused then. -/
  absent : σ → Option σ

/-- A field that is read by `read` and kept by `keep`. -/
def Field.of {σ α : Type} (name : String) (get : σ → Option α) (keep : σ → α → σ)
    (read : Reader α) (default : Option α) : Field σ where
  name
  filled := fun d => (get d).isSome
  read := fun d c => (read c).map fun (a, c) => (keep d a, c)
  absent := fun d => default.map (keep d)

/-- A record with values of type `α`. -/
structure Record (σ α : Type) where
  title : String
  start : σ
  fields : List (Field σ)
  finish : σ → Except Fault α

/-- Why a record was not read: a fault that has its place, or one that is placed where the
    record ends. -/
inductive Trouble
  | placed (e : Error)
  | pending (fault : Fault) (c : Cursor)

namespace Record

variable {σ α : Type}

/-- What the record is called where it is expected. -/
def expected (r : Record σ α) : String := "struct " ++ r.title

/-- What is expected of a list of the fields. -/
def expectedLength (r : Record σ α) : String :=
  r.expected ++ " with " ++ Text.decimal r.fields.length
    ++ (if r.fields.length = 1 then " element" else " elements")

/-- A fault inside a field or an element. -/
def within {β : Type} (part : String) (x : Except Error β) : Except Trouble β :=
  x.mapError fun e => .placed { e with path := part :: e.path }

/-- A fault between the fields. -/
def between {β : Type} (x : Except Error β) : Except Trouble β := x.mapError .placed

/-- Read members into the draft up to the end of the object; at most `fuel` of them. -/
def readMembers (r : Record σ α) : Nat → Bool → σ → Cursor → Except Trouble (σ × Cursor)
  | 0, _, d, c => .ok (d, c)
  | fuel + 1, first, d, c => do
    match ← between (nextKey first c) with
    | (none, c) => return (d, c)
    | (some key, c) =>
      match r.fields.find? (·.name = key) with
      | some f =>
        if f.filled d then throw (.pending (.duplicateField key) c)
        let c ← between (readColon c)
        let (d, c) ← within key (f.read d c)
        r.readMembers fuel false d c
      | none =>
        let c ← between (readColon c)
        let c ← within key (skipValue c)
        r.readMembers fuel false d c

/-- Read elements into the draft, one for each of the fields; `n` were read before. -/
def readFields (r : Record σ α) : Nat → List (Field σ) → σ → Cursor → Except Trouble (σ × Cursor)
  | _, [], d, c => .ok (d, c)
  | n, f :: fs, d, c => do
    match ← between (nextElement (n = 0) c) with
    | (none, c) =>
      match f.absent d with
      | some d => r.readFields (n + 1) fs d c
      | none => throw (.pending (.invalidLength n r.expectedLength) c)
    | (some c, _) =>
      let (d, c) ← within ("[" ++ Text.decimal n ++ "]") (f.read d c)
      r.readFields (n + 1) fs d c

/-- The value of a finished draft. -/
def conclude (r : Record σ α) : Except Trouble (σ × Cursor) → Except Trouble (α × Cursor)
  | .ok (d, c) =>
    match r.finish d with
    | .ok a => .ok (a, c)
    | .error fault => .error (.pending fault c)
  | .error t => .error t

/-- Close a record with `close`, and place a fault that has no place yet behind it. -/
def closeWith (close : Cursor → Except Error Unit × Cursor) :
    Except Trouble (α × Cursor) → Except Error (α × Cursor)
  | .ok (a, c) => let (done, c) := close c; done.map fun _ => (a, c)
  | .error (.placed e) => .error e
  | .error (.pending fault c) => .error ((close c).2.here fault)

/-- Read a record. -/
def read (r : Record σ α) : Reader α := fun c => do
  let c ← atValue c
  if c.rest.head? = some (ascii '\x7b') then
    closeWith endObject (r.conclude (r.readMembers (c.rest.length + 1) true r.start c.next))
  else if c.rest.head? = some (ascii '[') then
    closeWith endList (r.conclude (r.readFields 0 r.fields r.start c.next))
  else throw (mismatch c r.expected)

end Record

/-- The field's value in a finished draft. -/
def required {α : Type} (name : String) : Option α → Except Fault α
  | some a => .ok a
  | none => .error (.missingField name)

end Gatehouse.Json
