/-
  Gatehouse — the form of e-mail addresses.

  An address is `local@domain`, or a display name followed by `<local@domain>`. The
  local part is a run of atoms joined by dots or a quoted text, the domain a run of
  labels joined by dots or a literal in brackets. `check` says which rule an address
  breaks first; `check_eq_ok_iff` lists all of them.
-/
import Gatehouse.Text.Alphanumeric
import Gatehouse.Text.Blank
import Gatehouse.Text.Split

namespace Gatehouse

/-- Why a text is not an e-mail address. -/
inductive AddressFault
  | openBracket
  | noSeparator
  | noDisplayName
  | emptyLocal
  | longLocal
  | emptyDomain
  | longDomain
  | emptyLabel
  | longLabel
  | badCharacter
deriving DecidableEq, Repr

namespace AddressFault

/-- The most bytes of a local part. -/
def localLimit : Nat := 64

/-- The most bytes of a domain. -/
def domainLimit : Nat := 254

/-- The most bytes of one label of a domain. -/
def labelLimit : Nat := 63

def message : AddressFault → String
  | openBracket => "Terminating '>' is missing."
  | noSeparator => "Missing separator character '@'."
  | noDisplayName => "Display name was not supplied, but email starts with '<'."
  | emptyLocal => "Local part is empty."
  | longLocal => "Local part is too long. Length limit: 64"
  | emptyDomain => "Domain is empty."
  | longDomain => "Domain is too long. Length limit: 254"
  | emptyLabel => "A sub-domain is empty."
  | longLabel => "A sub-domain is too long. Length limit: 63"
  | badCharacter => "Invalid character."

end AddressFault

namespace EmailGrammar

open AddressFault (localLimit domainLimit labelLimit)

/-! ## Characters -/

/-- A code point whose two bytes have the form of a two-byte sequence of UTF-8. These are
    allowed wherever the grammar admits characters beyond ASCII. -/
def isWide (c : Char) : Bool :=
  let high := c.toNat / 256
  let low := c.toNat % 256
  0xC2 ≤ high && high ≤ 0xDF && 0x80 ≤ low && low ≤ 0xBF

/-- The marks that an atom may hold beside letters and numbers. -/
def atomMarks : List Char := "!#$%&'*+-/=?^_\x60\x7b|\x7d~".toList

def isAtomChar (c : Char) : Bool :=
  Text.isAlphanumeric c || atomMarks.contains c || isWide c

/-- A visible ASCII character. -/
def isVisible (c : Char) : Bool := 0x21 ≤ c.toNat && c.toNat ≤ 0x7E

/-- What stands for itself between quotes. -/
def isQuotedChar (c : Char) : Bool :=
  c = ' ' || c = '\t' || (isVisible c && c ≠ '"' && c ≠ '\\') || isWide c

/-- What stands between the brackets of a literal domain. -/
def isLiteralChar (c : Char) : Bool :=
  (isVisible c && c ≠ '[' && c ≠ '\\' && c ≠ ']') || isWide c

/-! ## Parts -/

/-- The bytes that a text takes in UTF-8. -/
def byteLength (cs : List Char) : Nat := cs.foldl (fun n c => n + c.utf8Size) 0

/-- What stands before and after the last bracket that follows a space. -/
def splitBracket : List Char → Option (List Char × List Char)
  | ' ' :: '<' :: cs =>
    match splitBracket cs with
    | some (l, r) => some (' ' :: '<' :: l, r)
    | none => some ([], cs)
  | c :: cs => (splitBracket cs).map fun (l, r) => (c :: l, r)
  | [] => none

def isAtom (cs : List Char) : Bool := !cs.isEmpty && cs.all isAtomChar

/-- Quoted text: a backslash takes the visible character after it. -/
def isQuotedText : List Char → Bool
  | [] => true
  | '\\' :: c :: cs => isVisible c && isQuotedText cs
  | c :: cs => isQuotedChar c && isQuotedText cs

/-- The text begins and ends with the given marks; a single character may be both. -/
def isBetween (first last : Char) (cs : List Char) : Bool :=
  cs.head? == some first && cs.getLast? == some last

/-- The text without its first and last characters. -/
def inner (cs : List Char) : List Char := cs.tail.dropLast

def checkLocal (cs : List Char) : Except AddressFault Unit :=
  if cs.isEmpty then throw .emptyLocal
  else if localLimit < byteLength cs then throw .longLocal
  else if isBetween '"' '"' cs then
    if cs.length ≤ 2 then throw .emptyLocal
    else if isQuotedText (inner cs) then pure ()
    else throw .badCharacter
  else if (Text.pieces '.' cs).all isAtom then pure ()
  else throw .badCharacter

def checkLabel (cs : List Char) : Except AddressFault Unit :=
  if cs.isEmpty then throw .emptyLabel
  else if !(cs.head?.any Text.isAlphanumeric && cs.getLast?.any Text.isAlphanumeric) then
    throw .badCharacter
  else if labelLimit < byteLength cs then throw .longLabel
  else if isAtom cs then pure ()
  else throw .badCharacter

def checkDomain (cs : List Char) : Except AddressFault Unit :=
  if cs.isEmpty then throw .emptyDomain
  else if domainLimit < byteLength cs then throw .longDomain
  else if isBetween '[' ']' cs then
    if (inner cs).all isLiteralChar then pure () else throw .badCharacter
  else (Text.pieces '.' cs).forM checkLabel

/-! ## The address -/

/-- The display name, empty if there is none, and the bare address. -/
def splitDisplay (cs : List Char) : Except AddressFault (List Char × List Char) :=
  match splitBracket cs with
  | none => pure ([], cs)
  | some (name, rest) =>
    let rest := Text.trimChars rest
    if rest.getLast? == some '>' then pure (Text.trimChars name, rest.dropLast)
    else throw .openBracket

/-- The first rule that the text breaks, if any. -/
def check (cs : List Char) : Except AddressFault Unit := do
  let (name, address) ← splitDisplay cs
  match Text.splitLast '@' address with
  | none => throw .noSeparator
  | some (localPart, domain) =>
    if name.isEmpty && localPart.head? == some '<' then throw .noDisplayName
    checkLocal localPart
    checkDomain domain

end EmailGrammar

end Gatehouse
