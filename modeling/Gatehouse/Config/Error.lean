/-
  Gatehouse — what may be wrong with a configuration.

  A setting is missing, or its value is not of the setting's type; a section is not one; or
  a file is not well-formed. Where a value came from is told with it.
-/
import Gatehouse.Number.Shortest
import Gatehouse.Text.Decimal
import Gatehouse.Text.Quoted

namespace Gatehouse.Config

/-- Where a value was set. -/
inductive Origin
  | file (path : String)
  | environment
deriving DecidableEq, Repr

def Origin.text : Origin → String
  | file path => path
  | environment => "the environment"

/-- What stands in the place of the value asked for. -/
inductive Found
  | bool (b : Bool)
  | integer (n : Int)
  | natural (n : Nat)
  | real (x : Float)
  | text (s : String)
  | sequence
  | map

/-- Numbers are written without an exponent. -/
def plainStyle : Shortest.Style :=
  { leastPlain := -400, firstScientific := 400, wholeMark := [], exponentPlus := [],
    exponentDigits := 1 }

/-- A number in the style; the infinite ones and the one that is none have names. -/
def realText (style : Shortest.Style) (x : Float) : String :=
  if x.isNaN then "NaN"
  else if x.isInf then (if x < 0 then "-inf" else "inf")
  else style.text x

/-- What stands in the place of a setting. -/
def Found.asSetting : Found → String
  | bool b => "boolean " ++ Text.ticked (if b then "true" else "false")
  | integer n => "64-bit integer " ++ Text.ticked (Text.decimalInt n)
  | natural n => "64-bit unsigned integer " ++ Text.ticked (Text.decimal n)
  | real x => "floating point " ++ Text.ticked (realText plainStyle x)
  | text s => "string " ++ Text.quote s
  | sequence => "sequence"
  | map => "map"

/-- What stands in the place of a section. -/
def Found.asSection : Found → String
  | integer n => "integer " ++ Text.ticked (Text.decimalInt n)
  | natural n => "integer " ++ Text.ticked (Text.decimal n)
  | real x => "floating point " ++ Text.ticked (realText { plainStyle with wholeMark := ['.', '0'] } x)
  | found => found.asSetting

/-- A value that is not of the type asked for. -/
structure Mismatch where
  found : Found
  expected : String
  origin : Option Origin

/-- Why there is no configuration. -/
inductive Error
  /-- A section or setting has no value. -/
  | missing (name : String)
  /-- A section is a single value. -/
  | noSection (found : Found) (type : String)
  /-- A section is a list that has too few values. -/
  | short (length : Nat) (type : String) (size : Nat)
  /-- A setting has a value of another type. -/
  | mismatch (m : Mismatch) (key : String)
  /-- A file is not well-formed. -/
  | malformed (path : String)

def Error.message : Error → String
  | missing name => "missing field " ++ Text.ticked name
  | noSection found type => "invalid type: " ++ found.asSection ++ ", expected struct " ++ type
  | short length type size =>
    "invalid length " ++ Text.decimal length ++ ", expected struct " ++ type ++ " with "
      ++ Text.decimal size ++ (if size = 1 then " element" else " elements")
  | mismatch m key =>
    "invalid type: " ++ m.found.asSetting ++ ", expected " ++ m.expected ++ " for key "
      ++ Text.ticked key ++ (match m.origin with
        | some origin => " in " ++ origin.text
        | none => "")
  | malformed path => "malformed TOML in " ++ path

end Gatehouse.Config
