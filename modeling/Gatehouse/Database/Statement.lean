/-
  Gatehouse — statements for a relational database.

  A statement names its table and carries cells: columns with the values bound to them.
  `Statement.text` is what is sent, with a numbered mark for each value, and
  `Statement.parameters` are the values in the order of the marks. A reply is a failure, a
  count of the rows that were touched, or rows under named columns, from which values are
  taken by the names of their columns (`Row.text`, `Row.bool`, …).
-/
import Gatehouse.Text.Decimal
import Gatehouse.Text.Quoted
import Gatehouse.Time.Instant

namespace Gatehouse.Database

/-- A value of a column. -/
inductive Value
  | null
  | text (s : String)
  | bool (b : Bool)
  | int (n : Int)
  /-- Microseconds from the year 2000. -/
  | time (micros : Int)
deriving DecidableEq, Repr

/-- An instant as a value. -/
def Value.ofInstant (t : Instant) : Value := .time t.micros

/-- A column with its value. -/
structure Cell where
  column : String
  value : Value
deriving DecidableEq, Repr

/-- The cells of a row. -/
abbrev Row := List Cell

/-- A statement. -/
inductive Statement
  /-- Add a row. -/
  | insert (table : String) (cells : Row)
  /-- The rows with a value in a column. -/
  | select (table : String) (columns : List String) (key : Cell)
  /-- Whether there is a row with a value in a column. -/
  | contains (table : String) (key : Cell)
  /-- Set cells of the rows with a value in a column. -/
  | update (table : String) (key : Cell) (cells : Row)
  /-- Set a mark in the rows with a value in a column, or only in those without the mark. -/
  | mark (table column : String) (key : Cell) (unmarked : Bool)
  /-- Remove the rows with a value in a column. -/
  | delete (table : String) (key : Cell)
  /-- Remove the rows with a smaller value in a column. -/
  | deleteBelow (table : String) (bound : Cell)
deriving DecidableEq, Repr

namespace Statement

/-- The mark for the `n`-th parameter. -/
def place (n : Nat) : String := "$" ++ Text.decimal n

/-- The columns of cells. -/
def columnsOf (cells : Row) : List String := cells.map (·.column)

/-- Items with commas between them. -/
def commas (items : List String) : String := String.intercalate ", " items

/-- The columns, each set to its mark; the marks are counted from `n`. -/
def settings (n : Nat) : Row → List String
  | [] => []
  | c :: cs => (c.column ++ " = " ++ place n) :: settings (n + 1) cs

/-- The text of a statement. -/
def text : Statement → String
  | insert table cells =>
    "INSERT INTO " ++ table ++ " (" ++ commas (columnsOf cells) ++ ") VALUES ("
      ++ commas ((List.range cells.length).map fun i => place (i + 1)) ++ ")"
  | select table columns key =>
    "SELECT " ++ commas columns ++ " FROM " ++ table ++ " WHERE " ++ key.column ++ " = " ++ place 1
  | contains table key =>
    "SELECT EXISTS (SELECT 1 FROM " ++ table ++ " WHERE " ++ key.column ++ " = " ++ place 1 ++ ")"
  | update table key cells =>
    "UPDATE " ++ table ++ " SET " ++ commas (settings 2 cells) ++ " WHERE " ++ key.column ++ " = "
      ++ place 1
  | mark table column key unmarked =>
    "UPDATE " ++ table ++ " SET " ++ column ++ " = TRUE WHERE " ++ key.column ++ " = " ++ place 1
      ++ (if unmarked then " AND " ++ column ++ " = FALSE" else "")
  | delete table key => "DELETE FROM " ++ table ++ " WHERE " ++ key.column ++ " = " ++ place 1
  | deleteBelow table bound =>
    "DELETE FROM " ++ table ++ " WHERE " ++ bound.column ++ " < " ++ place 1

/-- The values of a statement, in the order of their marks. -/
def parameters : Statement → List Value
  | insert _ cells => cells.map (·.value)
  | select _ _ key | contains _ key | mark _ _ key _ | delete _ key => [key.value]
  | update _ key cells => key.value :: cells.map (·.value)
  | deleteBelow _ bound => [bound.value]

end Statement

/-! ## Replies -/

/-- Why a statement has no result. -/
inductive Failure
  /-- The connections are closed, and nothing was sent. -/
  | closed
  /-- The database reports an error. -/
  | reported (code message : String) (constraint : Option String)
  /-- A row was expected. -/
  | noRow
  | noColumn (name : String)
  /-- A value is missing, in a column by name or by number. -/
  | unexpectedNull (column : String)
  /-- A value is not of the type of its column. -/
  | mismatch (column : String)
deriving DecidableEq, Repr

namespace Failure

def message : Failure → String
  | closed => "attempted to acquire a connection on a closed pool"
  | reported _ message _ => "error returned from database: " ++ message
  | noRow => "no rows returned by a query that expected to return at least one row"
  | noColumn name => "no column found for name: " ++ name
  | unexpectedNull column =>
    "error occurred while decoding column " ++ column
      ++ ": unexpected null; try decoding as an \x60Option\x60"
  | mismatch column => "error occurred while decoding column " ++ column ++ ": mismatched types"

/-- The code of a value that has to be unique and is not. -/
def uniqueViolation : String := "23505"

/-- A value that has to be unique is not. -/
def isDuplicate : Failure → Bool
  | reported code _ _ => code == uniqueViolation
  | _ => false

/-- The constraint that is violated, if the database names it. -/
def constraint? : Failure → Option String
  | reported _ _ c => c
  | _ => none

end Failure

/-- The reply to a statement. -/
structure Reply where
  /-- The rows that were touched. -/
  affected : Nat := 0
  rows : List Row := []
deriving DecidableEq, Repr

/-! ## Reading rows -/

/-- The value in a column; of several columns with one name the last counts. -/
def Row.value (r : Row) (column : String) : Except Failure Value :=
  match r.reverse.find? (·.column == column) with
  | some c => .ok c.value
  | none => .error (.noColumn column)

/-- A value read as `read` says. -/
def Row.get {α : Type} (read : Value → Option α) (r : Row) (column : String) :
    Except Failure α := do
  match ← Row.value r column with
  | .null => .error (.unexpectedNull (Text.quote column))
  | v =>
    match read v with
    | some a => .ok a
    | none => .error (.mismatch (Text.quote column))

/-- A text. -/
def Row.text (r : Row) (column : String) : Except Failure String :=
  Row.get (fun | .text s => some s | _ => none) r column

/-- A truth value. -/
def Row.bool (r : Row) (column : String) : Except Failure Bool :=
  Row.get (fun | .bool b => some b | _ => none) r column

/-- An integer. -/
def Row.int (r : Row) (column : String) : Except Failure Int :=
  Row.get (fun | .int n => some n | _ => none) r column

/-- An instant. -/
def Row.instant (r : Row) (column : String) : Except Failure Instant :=
  Row.get (fun | .time n => some (Instant.ofMicros n) | _ => none) r column

/-- The truth value that is alone in the first row. -/
def Reply.scalar (r : Reply) : Except Failure Bool :=
  match r.rows with
  | (⟨_, .bool b⟩ :: _) :: _ => .ok b
  | (⟨_, .null⟩ :: _) :: _ => .error (.unexpectedNull "0")
  | _ :: _ => .error (.mismatch "0")
  | [] => .error .noRow

end Gatehouse.Database
