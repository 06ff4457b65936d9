/-
  Gatehouse — requests and responses.

  What a client sends and gets: method, path, headers and body. The names of headers are
  compared without regard to case; of several headers with one name the first counts, and
  a value that is not plain visible text counts as none.
-/
import Gatehouse.Http.Address
import Gatehouse.Text.Blank
import Gatehouse.Text.Decimal
import Gatehouse.Text.Split

namespace Gatehouse.Http

/-- A header line. -/
structure Header where
  name : String
  value : String
deriving DecidableEq, Repr

/-- A request. -/
structure Request where
  method : String
  /-- The target as it was sent. -/
  target : String
  headers : List Header
  /-- The address of whoever is connected, if it is known. -/
  peer : Option Address
  body : List UInt8
deriving DecidableEq, Repr

/-- A response. -/
structure Response where
  status : Nat
  headers : List Header
  body : String
deriving DecidableEq, Repr

/-- A character of a readable header value. -/
def isVisible (c : Char) : Bool := (32 ≤ c.toNat && c.toNat < 127) || c = '\t'

/-- The first value of a header, if it is readable. -/
def header? (headers : List Header) (name : String) : Option String :=
  ((headers.find? fun h => h.name.toLower == name).map (·.value)).filter
    fun v => v.toList.all isVisible

/-- What stands behind a beginning, if the text has it. -/
def behind? : List Char → List Char → Option (List Char)
  | [], rest => some rest
  | p :: ps, c :: cs => if p = c then behind? ps cs else none
  | _ :: _, [] => none

/-- The token of an `Authorization: Bearer` header. -/
def bearerToken (headers : List Header) : Option String := do
  let rest ← behind? "Bearer ".toList (← header? headers "authorization").toList
  let token := Text.trimChars rest
  if token.isEmpty then none else some (String.ofList token)

/-- The first hop that a header names. -/
def firstHop (headers : List Header) (name : String) : Option String := do
  let value ← header? headers name
  let hop := Text.trimChars (value.toList.takeWhile (· ≠ ','))
  if hop.isEmpty then none else some (String.ofList hop)

/-- Who makes the request: the first forwarded hop, or else the real address that a proxy
    states, or else the peer. -/
def clientKey (headers : List Header) (peer : Option Address) : String :=
  ((firstHop headers "x-forwarded-for").or (firstHop headers "x-real-ip")).getD
    ((peer.map Address.text).getD "unknown")

/-! ## Targets -/

/-- What stands behind `://` and the host, if a target names a host. -/
def afterHost? : List Char → Option (List Char)
  | ':' :: '/' :: '/' :: rest =>
    some (rest.dropWhile fun c => c ≠ '/' && c ≠ '?' && c ≠ '#')
  | c :: rest => if c.isAlphanum || c = '+' || c = '-' || c = '.' then afterHost? rest else none
  | [] => none

/-- The path of a target, without host, query and fragment. -/
def pathOf (target : String) : String :=
  let path := ((afterHost? target.toList).getD target.toList).takeWhile
    fun c => c ≠ '?' && c ≠ '#'
  if path.isEmpty then "/" else String.ofList path

/-- The path of a request. -/
def Request.path (r : Request) : String := pathOf r.target

/-- A target without its fragment. -/
def uriOf (target : String) : String := String.ofList (target.toList.takeWhile (· ≠ '#'))

end Gatehouse.Http
