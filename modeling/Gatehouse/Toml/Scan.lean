/-
  Gatehouse — the characters of a TOML document.

  Every reader here takes what is left of the document and gives what it read and what is
  left after it, or nothing if the document is not well-formed there. Why it is not is left
  out, for nobody asks.
-/
import Gatehouse.Text.Decimal
import Gatehouse.Text.Hex

namespace Gatehouse.Toml

/-- Something read, and what is left after it. -/
abbrev Scan (α : Type) := Option (α × List Char)

/-! ## Blanks, line ends, comments -/

/-- A space or tab. -/
def isBlank (c : Char) : Bool := c = ' ' || c = '\t'

/-- Pass over the spaces and tabs. -/
def skipBlanks (cs : List Char) : List Char := cs.dropWhile isBlank

/-- What is left after a line end, if one is next: a line feed, maybe behind a carriage
    return. -/
def lineEnd? : List Char → Option (List Char)
  | '\n' :: rest => some rest
  | '\r' :: '\n' :: rest => some rest
  | _ => none

/-- A character that may stand in a comment and in every text: not a control character, but a
    tab. -/
def isPlain (c : Char) : Bool := c = '\t' || (' ' ≤ c && c.toNat ≠ 0x7F)

/-- Pass over a comment, if one is next. -/
def skipComment : List Char → List Char
  | '#' :: rest => rest.dropWhile isPlain
  | cs => cs

/-- Pass over the rest of a line, which may hold blanks and a comment. -/
def endLine (cs : List Char) : Option (List Char) :=
  match skipComment (skipBlanks cs) with
  | [] => some []
  | rest => lineEnd? rest

/-- Pass over blanks, line ends and comments, each with one unit of `fuel`. -/
def skipLines : Nat → List Char → List Char
  | 0, cs => cs
  | fuel + 1, cs =>
    let rest := skipComment (skipBlanks cs)
    match lineEnd? rest with
    | some rest => skipLines fuel rest
    | none => rest

/-! ## Texts -/

/-- The number that so many hexadecimal digits continue from `acc`. -/
def hexNumber : Nat → Nat → List Char → Scan Nat
  | 0, acc, cs => some (acc, cs)
  | _ + 1, _, [] => none
  | n + 1, acc, c :: cs => (Text.hexValue? c).bind fun d => hexNumber n (16 * acc + d) cs

/-- The character of a code point that so many hexadecimal digits write. -/
def codePoint (digits : Nat) (cs : List Char) : Scan Char :=
  (hexNumber digits 0 cs).bind fun (n, rest) =>
    if n.isValidChar then some (Char.ofNat n, rest) else none

/-- The character that an escape stands for; the backslash is already read. -/
def escape : List Char → Scan Char
  | 'b' :: rest => some ('\x08', rest)
  | 't' :: rest => some ('\t', rest)
  | 'n' :: rest => some ('\n', rest)
  | 'f' :: rest => some ('\x0c', rest)
  | 'r' :: rest => some ('\r', rest)
  | '"' :: rest => some ('"', rest)
  | '\\' :: rest => some ('\\', rest)
  | 'u' :: rest => codePoint 4 rest
  | 'U' :: rest => codePoint 8 rest
  | _ => none

/-- Put a character in front of what was read. -/
def Scan.cons (c : Char) (s : Scan (List Char)) : Scan (List Char) :=
  s.map fun (cs, rest) => (c :: cs, rest)

/-- The rest of a text between double quotes on one line. -/
def basicText : Nat → List Char → Scan (List Char)
  | 0, _ => none
  | _ + 1, [] => none
  | _ + 1, '"' :: rest => some ([], rest)
  | fuel + 1, '\\' :: rest => (escape rest).bind fun (c, rest) => (basicText fuel rest).cons c
  | fuel + 1, c :: rest => if isPlain c then (basicText fuel rest).cons c else none

/-- The rest of a text between single quotes on one line. -/
def literalText : List Char → Scan (List Char)
  | [] => none
  | '\'' :: rest => some ([], rest)
  | c :: rest => if isPlain c then (literalText rest).cons c else none

/-- The quotes at the end of a text of several lines: three close it, and up to two more
    before them belong to it. Nothing if there are fewer than three. -/
def closing (quote : Char) (cs : List Char) : Scan (List Char) :=
  let n := (cs.takeWhile (· = quote)).length
  if n < 3 then none
  else if 5 < n then some ([quote, quote], cs.drop 5)
  else some (List.replicate (n - 3) quote, cs.drop n)

/-- Pass over blanks and line ends. -/
def skipFold : List Char → List Char
  | '\r' :: '\n' :: rest => skipFold rest
  | c :: rest => if isBlank c || c = '\n' then skipFold rest else c :: rest
  | [] => []

/-- What is left after a line that ends in a backslash: the blanks and line ends that follow
    do not count. -/
def foldedLine? (cs : List Char) : Option (List Char) :=
  (lineEnd? (skipBlanks cs)).map skipFold

/-- The rest of a text between tripled double quotes. -/
def basicLines : Nat → List Char → Scan (List Char)
  | 0, _ => none
  | _ + 1, [] => none
  | fuel + 1, '"' :: rest =>
    match closing '"' ('"' :: rest) with
    | some read => some read
    | none => (basicLines fuel rest).cons '"'
  | fuel + 1, '\\' :: rest =>
    match foldedLine? rest with
    | some rest => basicLines fuel rest
    | none => (escape rest).bind fun (c, rest) => (basicLines fuel rest).cons c
  | fuel + 1, c :: rest =>
    match lineEnd? (c :: rest) with
    | some rest => (basicLines fuel rest).cons '\n'
    | none => if isPlain c then (basicLines fuel rest).cons c else none

/-- The rest of a text between tripled single quotes. -/
def literalLines : Nat → List Char → Scan (List Char)
  | 0, _ => none
  | _ + 1, [] => none
  | fuel + 1, '\'' :: rest =>
    match closing '\'' ('\'' :: rest) with
    | some read => some read
    | none => (literalLines fuel rest).cons '\''
  | fuel + 1, c :: rest =>
    match lineEnd? (c :: rest) with
    | some rest => (literalLines fuel rest).cons '\n'
    | none => if isPlain c then (literalLines fuel rest).cons c else none

/-- The text, if one is next; a line end right behind tripled quotes does not count. -/
def quoted? (cs : List Char) : Option (Scan (List Char)) :=
  let fuel := cs.length
  let unbroken (cs : List Char) := (lineEnd? cs).getD cs
  match cs with
  | '"' :: '"' :: '"' :: rest => some (basicLines fuel (unbroken rest))
  | '\'' :: '\'' :: '\'' :: rest => some (literalLines fuel (unbroken rest))
  | '"' :: rest => some (basicText fuel rest)
  | '\'' :: rest => some (literalText rest)
  | _ => none

/-! ## Keys -/

/-- A character of a key without quotes. -/
def isBare (c : Char) : Bool :=
  ('a' ≤ c && c ≤ 'z') || ('A' ≤ c && c ≤ 'Z') || ('0' ≤ c && c ≤ '9') || c = '_' || c = '-'

/-- One part of a key: bare, or a text on one line. -/
def keyPart (cs : List Char) : Scan String :=
  match cs with
  | '"' :: rest => (basicText cs.length rest).map fun (s, rest) => (String.ofList s, rest)
  | '\'' :: rest => (literalText rest).map fun (s, rest) => (String.ofList s, rest)
  | _ =>
    let part := cs.takeWhile isBare
    if part.isEmpty then none else some (String.ofList part, cs.dropWhile isBare)

/-- The parts of a key between dots, and what is left after the blanks behind it. -/
def key : Nat → List Char → Scan (List String)
  | 0, _ => none
  | fuel + 1, cs =>
    (keyPart (skipBlanks cs)).bind fun (part, rest) =>
      match skipBlanks rest with
      | '.' :: rest => (key fuel rest).map fun (parts, rest) => (part :: parts, rest)
      | rest => some ([part], rest)

end Gatehouse.Toml
