/-
  Gatehouse — reading TOML documents.

  `read` takes a document line by line. A header moves the place at which the pairs of the
  lines after it are put; the document grows by `putPair`, `putHeader` and `putElement`
  alone, so nothing in it is said twice.
-/
import Gatehouse.Toml.Moment
import Gatehouse.Toml.Number

namespace Gatehouse.Toml

/-! ## Values -/

/-- A character of a word: of a number, a truth value or a moment. -/
def isWordPart (c : Char) : Bool := isBare c || c = '+' || c = '.' || c = ':'

/-- The word that is next. A space between a date and a digit belongs to it. -/
def nextWord (cs : List Char) : List Char × List Char :=
  let first := cs.takeWhile isWordPart
  let rest := cs.dropWhile isWordPart
  match date first, rest with
  | some (_, []), ' ' :: c :: after =>
    if c.isDigit then
      (first ++ ' ' :: (c :: after).takeWhile isWordPart, (c :: after).dropWhile isWordPart)
    else (first, rest)
  | _, _ => (first, rest)

/-- The value that a word writes. -/
def scalar? (word : List Char) : Option Value :=
  if word = ['t', 'r', 'u', 'e'] then some (.bool true)
  else if word = ['f', 'a', 'l', 's', 'e'] then some (.bool false)
  else (integer? word).orElse fun _ => (real? word).orElse fun _ => (moment? word).map .moment

/-- A key has fewer parts than this. -/
def partLimit : Nat := 80

/-- The parts of a key: those before the last one, and the last. -/
def splitKey (parts : List String) : Option (List String × String) :=
  if parts.length < partLimit then parts.getLast?.map fun last => (parts.dropLast, last) else none

/-- The key up to an equals sign, and what is left after the blanks behind that. -/
def keyOfPair (cs : List Char) : Scan (List String × String) :=
  (key (cs.length + 1) cs).bind fun (parts, rest) =>
    match rest with
    | '=' :: rest => (splitKey parts).map fun k => (k, skipBlanks rest)
    | _ => none

mutual

/-- The value that is next, in which so many arrays and inline tables may lie in each other. -/
def value : Nat → Nat → List Char → Scan Value
  | 0, _, _ => none
  | fuel + 1, depth, cs =>
    match quoted? cs with
    | some read => read.map fun (s, rest) => (.text (String.ofList s), rest)
    | none =>
      match cs, depth with
      | '[' :: _, 0 => none
      | '{' :: _, 0 => none
      | '[' :: rest, depth + 1 =>
        (items fuel depth rest).map fun (vs, rest) => (.array false vs, rest)
      | '{' :: rest, depth + 1 =>
        match skipBlanks rest with
        | '}' :: rest => some (.table .inline [], rest)
        | rest => (pairs fuel depth [] rest).map fun (es, rest) => (.table .inline es, rest)
      | cs, _ =>
        let (word, rest) := nextWord cs
        (scalar? word).map fun v => (v, rest)

/-- The rest of an array. -/
def items : Nat → Nat → List Char → Scan (List Value)
  | 0, _, _ => none
  | fuel + 1, depth, cs =>
    match skipLines (cs.length + 1) cs with
    | ']' :: rest => some ([], rest)
    | cs =>
      (value fuel depth cs).bind fun (v, rest) =>
        match skipLines (rest.length + 1) rest with
        | ',' :: rest => (items fuel depth rest).map fun (vs, rest) => (v :: vs, rest)
        | ']' :: rest => some ([v], rest)
        | _ => none

/-- The rest of an inline table that holds `entries` so far and goes on with a pair. -/
def pairs : Nat → Nat → Entries → List Char → Scan Entries
  | 0, _, _, _ => none
  | fuel + 1, depth, entries, cs =>
    (keyOfPair cs).bind fun ((path, last), rest) =>
      (value fuel depth rest).bind fun (v, rest) =>
        (putPair path last v .inline entries).bind fun (_, entries) =>
          match skipBlanks rest with
          | ',' :: rest => pairs fuel depth entries rest
          | '}' :: rest => some (entries, rest)
          | _ => none

end

/-! ## Documents -/

/-- The place at which pairs are put, and what the document holds. -/
structure Draft where
  place : List String
  entries : Entries

/-- Change the document. -/
def Draft.change (d : Draft) (change : Change) : Option Draft :=
  (change .header d.entries).map fun (_, entries) => { d with entries }

/-- The greatest depth of arrays and inline tables in each other. -/
def depthLimit : Nat := 79

/-- The parts of a key up to the end of a header, and what is left after the line. -/
def header (closing : List Char) (cs : List Char) : Scan (List String × String) :=
  (key (cs.length + 1) cs).bind fun (parts, rest) =>
    (splitKey parts).bind fun k =>
      if closing.isPrefixOf rest then
        (endLine (rest.drop closing.length)).map fun rest => (k, rest)
      else none

/-- Take up one line. -/
def line (d : Draft) (cs : List Char) : Scan Draft :=
  match skipBlanks cs with
  | '[' :: '[' :: rest =>
    (header [']', ']'] rest).bind fun ((path, last), rest) =>
      (d.change (putElement path last)).map fun d => ({ d with place := path ++ [last] }, rest)
  | '[' :: rest =>
    (header [']'] rest).bind fun ((path, last), rest) =>
      (d.change (putHeader path last)).map fun d => ({ d with place := path ++ [last] }, rest)
  | rest =>
    match endLine rest with
    | some rest => some (d, rest)
    | none =>
      (keyOfPair rest).bind fun ((path, last), rest) =>
        (value (2 * rest.length + 2) depthLimit rest).bind fun (v, rest) =>
          (d.change (within false d.place (putPair path last v))).bind fun d =>
            (endLine rest).map fun rest => (d, rest)

/-- Take up the lines that are left. -/
def lines : Nat → Draft → List Char → Option Entries
  | _, d, [] => some d.entries
  | 0, _, _ => none
  | fuel + 1, d, cs => (line d cs).bind fun (d, rest) => lines fuel d rest

/-- The pairs of a document. A byte order mark in front does not count. -/
def read (document : String) : Option Entries :=
  let cs := match document.toList with
    | '\uFEFF' :: rest => rest
    | cs => cs
  lines cs.length ⟨[], []⟩ cs

end Gatehouse.Toml
