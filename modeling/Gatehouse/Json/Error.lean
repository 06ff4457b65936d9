/-
  Gatehouse — why a JSON text is refused.

  A fault is either of the syntax or of the data: a well-formed value that is not of the
  form asked for. `Error.text` writes the fault with the line and the column, which
  counts the bytes read in the line.
-/
import Gatehouse.Text.Decimal
import Gatehouse.Text.Quoted

namespace Gatehouse.Json

/-- What stands in the place of the value asked for. -/
inductive Found
  | null
  | bool (b : Bool)
  | integer (n : Int)
  | real (digits : String)
  | text (s : String)
  | sequence
  | map
deriving DecidableEq, Repr

def Found.message : Found → String
  | null => "null"
  | bool b => "boolean \x60" ++ (if b then "true" else "false") ++ "\x60"
  | integer n => "integer \x60" ++ Text.decimalInt n ++ "\x60"
  | real digits => "floating point \x60" ++ digits ++ "\x60"
  | text s => "string " ++ Text.quote s
  | sequence => "sequence"
  | map => "map"

/-- What is wrong with a text. -/
inductive Fault
  | endInValue
  | endInList
  | endInObject
  | endInString
  | noValue
  | noWord
  | noColon
  | noCommaInList
  | noCommaInObject
  | keyNotString
  | trailingComma
  | trailingCharacters
  | badNumber
  | numberOutOfRange
  | badEscape
  | badCodePoint
  | loneSurrogate
  | brokenSurrogate
  | controlCharacter
  | missingField (name : String)
  | duplicateField (name : String)
  | invalidType (found : Found) (expected : String)
  | invalidValue (found : Found) (expected : String)
  | invalidLength (n : Nat) (expected : String)
  | unknownVariant (word : String) (known : List String)
deriving DecidableEq, Repr

namespace Fault

def message : Fault → String
  | endInValue => "EOF while parsing a value"
  | endInList => "EOF while parsing a list"
  | endInObject => "EOF while parsing an object"
  | endInString => "EOF while parsing a string"
  | noValue => "expected value"
  | noWord => "expected ident"
  | noColon => "expected " ++ Text.ticked ":"
  | noCommaInList => "expected " ++ Text.ticked "," ++ " or " ++ Text.ticked "]"
  | noCommaInObject => "expected " ++ Text.ticked "," ++ " or " ++ Text.ticked "\x7d"
  | keyNotString => "key must be a string"
  | trailingComma => "trailing comma"
  | trailingCharacters => "trailing characters"
  | badNumber => "invalid number"
  | numberOutOfRange => "number out of range"
  | badEscape => "invalid escape"
  | badCodePoint => "invalid unicode code point"
  | loneSurrogate => "lone leading surrogate in hex escape"
  | brokenSurrogate => "unexpected end of hex escape"
  | controlCharacter => "control character (\\u0000-\\u001F) found while parsing a string"
  | missingField name => "missing field " ++ Text.ticked name
  | duplicateField name => "duplicate field " ++ Text.ticked name
  | invalidType found expected => "invalid type: " ++ found.message ++ ", expected " ++ expected
  | invalidValue found expected => "invalid value: " ++ found.message ++ ", expected " ++ expected
  | invalidLength n expected => "invalid length " ++ Text.decimal n ++ ", expected " ++ expected
  | unknownVariant word known =>
    "unknown variant " ++ Text.ticked word ++ ", expected one of "
      ++ String.intercalate ", " (known.map Text.ticked)

/-- The text is well-formed so far, but not of the form asked for. -/
def isData : Fault → Bool
  | missingField _ | duplicateField _ | invalidType _ _ | invalidValue _ _ | invalidLength _ _
  | unknownVariant _ _ => true
  | _ => false

end Fault

/-- A fault, the number of bytes read before it showed, and the field or element in which it
    lies. -/
structure Error where
  fault : Fault
  offset : Nat
  path : List String := []
deriving DecidableEq, Repr

/-- The byte that ends a line. -/
def lineEnd : UInt8 := 10

/-- The line of the byte after `before`, and the number of bytes of `before` in that line. -/
def position (before : List UInt8) : Nat × Nat :=
  (before.count lineEnd + 1, (before.reverse.takeWhile (· != lineEnd)).length)

/-- The fault and where in the input it showed. -/
def Error.text (e : Error) (input : List UInt8) : String :=
  let (line, column) := position (input.take e.offset)
  e.fault.message ++ " at line " ++ Text.decimal line ++ " column " ++ Text.decimal column

end Gatehouse.Json
