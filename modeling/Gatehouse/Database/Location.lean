/-
  Gatehouse — the text that tells where the database is.

  Such a text is a URL: a scheme, and maybe a host with a port and parameters of the
  connection. `Location.fault?` tells what keeps a connection from being tried at all.
-/
import Gatehouse.Text.Decimal
import Gatehouse.Text.Hex
import Gatehouse.Text.Quoted
import Gatehouse.Text.Split

namespace Gatehouse.Location

/-- What is wrong with a URL. -/
inductive Fault
  | noScheme
  | badPort
  | badMode (word : String)
deriving DecidableEq, Repr

def Fault.message : Fault → String
  | noScheme => "relative URL without a base"
  | badPort => "invalid port number"
  | badMode word => "unknown value " ++ Text.quote word ++ " for " ++ Text.ticked "ssl_mode"

/-! ## Parts of a URL -/

/-- The URL without what stands for nothing in it: spaces and control characters at its ends,
    and tabs and line ends anywhere. -/
def tidy (cs : List Char) : List Char :=
  let isEdge (c : Char) : Bool := c ≤ ' '
  let inner := ((cs.dropWhile isEdge).reverse.dropWhile isEdge).reverse
  inner.filter fun c => c ≠ '\t' ∧ c ≠ '\n' ∧ c ≠ '\r'

/-- A character of a scheme. -/
def isSchemePart (c : Char) : Bool := c.isAlphanum || c = '+' || c = '-' || c = '.'

/-- What follows the scheme, if there is one. -/
def afterScheme? (cs : List Char) : Option (List Char) :=
  match Text.splitFirst ':' cs with
  | some (c :: scheme, rest) => if c.isAlpha && scheme.all isSchemePart then some rest else none
  | _ => none

/-- The character ends the host and port. -/
def endsHost (c : Char) : Bool := c = '/' || c = '?' || c = '#'

/-- The port as written, behind a host that may stand in brackets. -/
def portText (host : List Char) : List Char :=
  match host with
  | '[' :: _ => (host.dropWhile (· ≠ ']')).dropWhile (· ≠ ':') |>.drop 1
  | _ => (host.dropWhile (· ≠ ':')).drop 1

/-- The greatest port. -/
def greatestPort : Nat := 65535

/-- The digits write a port; none at all leave it open. -/
def isPort (digits : List Char) : Bool :=
  digits.isEmpty || (Text.readDecimal? digits).any (· ≤ greatestPort)

/-- The port of what follows a scheme is none. -/
def hasBadPort : List Char → Bool
  | '/' :: '/' :: rest =>
    let authority := rest.takeWhile (!endsHost ·)
    let host := match Text.splitLast '@' authority with
      | some (_, host) => host
      | none => authority
    !isPort ((portText host).takeWhile (· ≠ '\\'))
  | _ => false

/-! ## Parameters -/

/-- The byte that two hexadecimal digits write. -/
def byte? (high low : Char) : Option UInt8 := do
  return UInt8.ofNat (16 * (← Text.hexValue? high) + (← Text.hexValue? low))

/-- The bytes of a part of a parameter: a plus sign is a space, and a percent sign stands before
    the digits of a byte. -/
def unescape : List Char → List UInt8
  | '%' :: high :: low :: rest =>
    match byte? high low with
    | some b => b :: unescape rest
    | none => '%'.toUInt8 :: unescape (high :: low :: rest)
  | '+' :: rest => ' '.toUInt8 :: unescape rest
  | c :: rest => String.utf8EncodeChar c ++ unescape rest
  | [] => []

/-- A part of a parameter as text. -/
def partText (cs : List Char) : String :=
  (String.fromUTF8? ⟨(unescape cs).toArray⟩).getD (String.ofList cs)

/-- The parameters of what follows a scheme: names with values. -/
def parameters (cs : List Char) : List (String × String) :=
  let query := ((cs.takeWhile (· ≠ '#')).dropWhile (· ≠ '?')).drop 1
  (Text.pieces '&' query).map fun piece =>
    match Text.splitFirst '=' piece with
    | some (name, value) => (partText name, partText value)
    | none => (partText piece, "")

/-- The ways to protect a connection. -/
def modes : List String := ["disable", "allow", "prefer", "require", "verify-ca", "verify-full"]

/-- The parameter says how to protect the connection, but not in a known way. -/
def badMode? : String × String → Option String
  | (name, value) =>
    if name ∈ ["sslmode", "ssl-mode"] ∧ value.toLower ∉ modes then some value else none

/-- What is wrong with a URL, if anything is. -/
def fault? (url : String) : Option Fault :=
  match afterScheme? (tidy url.toList) with
  | none => some .noScheme
  | some rest =>
    if hasBadPort rest then some .badPort
    else ((parameters rest).findSome? badMode?).map .badMode

end Gatehouse.Location
