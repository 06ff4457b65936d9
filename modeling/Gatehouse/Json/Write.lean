/-
  Gatehouse — writing JSON.

  A document is written without spaces, with the members of an object in the given order.
  Quotes, backslashes and control characters are escaped; all else stands for itself.
-/
import Gatehouse.Text.Decimal
import Gatehouse.Text.Quoted

namespace Gatehouse.Json

/-- A JSON document to be written. -/
inductive Doc
  | null
  | bool (b : Bool)
  | int (n : Int)
  | text (s : String)
  | list (items : List Doc)
  | object (members : List (String × Doc))

/-- The short escape of a character, if it has one. -/
def escapeLetter? (c : Char) : Option Char :=
  if c = '"' then some '"'
  else if c = '\\' then some '\\'
  else if c.toNat = 8 then some 'b'
  else if c.toNat = 12 then some 'f'
  else if c = '\n' then some 'n'
  else if c = '\r' then some 'r'
  else if c = '\t' then some 't'
  else none

/-- A hexadecimal digit. -/
def hexDigit (n : Nat) : Char := Nat.digitChar n

/-- A character inside a string. -/
def writeChar (c : Char) : List Char :=
  match escapeLetter? c with
  | some e => ['\\', e]
  | none =>
    if c.toNat < 32 then
      ['\\', 'u', '0', '0', hexDigit (c.toNat / 16), hexDigit (c.toNat % 16)]
    else [c]

/-- A string between its quotes. -/
def writeText (s : String) : List Char := '"' :: s.toList.flatMap writeChar ++ ['"']

mutual

/-- A document. -/
def write : Doc → List Char
  | .null => ['n', 'u', 'l', 'l']
  | .bool true => ['t', 'r', 'u', 'e']
  | .bool false => ['f', 'a', 'l', 's', 'e']
  | .int n => (Text.decimalInt n).toList
  | .text s => writeText s
  | .list [] => ['[', ']']
  | .list (d :: ds) => '[' :: write d ++ writeItems ds ++ [']']
  | .object [] => ['\x7b', '\x7d']
  | .object ((k, d) :: ms) => '\x7b' :: writeText k ++ ':' :: write d ++ writeMembers ms ++ ['\x7d']

/-- The further elements of a list. -/
def writeItems : List Doc → List Char
  | [] => []
  | d :: ds => ',' :: write d ++ writeItems ds

/-- The further members of an object. -/
def writeMembers : List (String × Doc) → List Char
  | [] => []
  | (k, d) :: ms => ',' :: writeText k ++ ':' :: write d ++ writeMembers ms

end

/-- A document as text. -/
def Doc.render (d : Doc) : String := String.ofList (write d)

end Gatehouse.Json
