/-
  Gatehouse — the header of an access token.

  The header names the algorithm of the signature. This service writes and accepts one,
  HMAC with SHA-256; it knows the names of the others so as to tell a foreign token from a
  malformed one. The further members have to be of their form, but have no effect.
-/
import Gatehouse.Json.Record

namespace Gatehouse.Jwt

/-- The names of the algorithms for signatures. -/
def algorithmNames : List String :=
  ["HS256", "HS384", "HS512", "ES256", "ES384", "RS256", "RS384", "RS512", "PS256", "PS384",
   "PS512", "EdDSA"]

/-- The one algorithm in use. -/
def algorithm : String := "HS256"

/-- One of the known names. -/
def readName (expected : String) (names : List String) : Json.Reader String := fun c => do
  let c ← Json.atValue c
  if c.rest.head? = some (Json.ascii '"') then
    let (word, after) ← Json.readString c.next
    if word ∈ names then return (word, after)
    else throw (after.here (.unknownVariant word names))
  else throw (Json.mismatch c expected)

/-- Nothing but `null`. -/
def readUnit : Json.Reader Unit := fun c => do
  let c ← Json.atValue c
  if c.rest.head? = some (Json.ascii 'n') then
    return ((), ← Json.readWord "ull".toList c.next)
  else throw (Json.mismatch c "unit")

/-- An algorithm: its name, or an object with the name as the key of `null`. -/
def readAlgorithm : Json.Reader String := fun c => do
  let c := c.skipSpace
  match c.rest with
  | [] => throw (c.behind .endInValue)
  | b :: _ =>
    if b = Json.ascii '"' then readName "variant identifier" algorithmNames c
    else if b = Json.ascii '\x7b' then
      let (name, c) ← readName "variant identifier" algorithmNames c.next
      let c ← Json.readColon c
      let (_, c) ← readUnit c
      let c := c.skipSpace
      match c.rest with
      | [] => throw (c.here .endInObject)
      | b :: _ => if b = Json.ascii '\x7d' then return (name, c.next) else throw (c.here .noValue)
    else throw (c.behind .noValue)

/-- A key in the header: an object, whose members are not looked at. -/
def readKey : Json.Reader Unit := fun c => do
  let c ← Json.atValue c
  if c.rest.head? = some (Json.ascii '\x7b') then return ((), ← Json.skipValue c)
  else throw (Json.mismatch c "struct Jwk")

/-- A header while it is read: a value for each member that was there. -/
structure HeaderDraft where
  typ : Option (Option String) := none
  alg : Option String := none
  cty : Option (Option String) := none
  jku : Option (Option String) := none
  jwk : Option (Option Unit) := none
  kid : Option (Option String) := none
  x5u : Option (Option String) := none
  x5c : Option (Option (List String)) := none
  x5t : Option (Option String) := none
  x5tS256 : Option (Option String) := none

/-- The form of a header, which is worth the name of its algorithm. -/
def headerRecord : Json.Record HeaderDraft String where
  title := "Header"
  start := {}
  fields :=
    [.of "typ" HeaderDraft.typ (fun d a => { d with typ := some a }) text none,
     .of "alg" HeaderDraft.alg (fun d a => { d with alg := some a }) readAlgorithm none,
     .of "cty" HeaderDraft.cty (fun d a => { d with cty := some a }) text none,
     .of "jku" HeaderDraft.jku (fun d a => { d with jku := some a }) text none,
     .of "jwk" HeaderDraft.jwk (fun d a => { d with jwk := some a }) (Json.readOptional readKey)
       none,
     .of "kid" HeaderDraft.kid (fun d a => { d with kid := some a }) text none,
     .of "x5u" HeaderDraft.x5u (fun d a => { d with x5u := some a }) text none,
     .of "x5c" HeaderDraft.x5c (fun d a => { d with x5c := some a })
       (Json.readOptional (Json.readList Json.readText)) none,
     .of "x5t" HeaderDraft.x5t (fun d a => { d with x5t := some a }) text none,
     .of "x5t#S256" HeaderDraft.x5tS256 (fun d a => { d with x5tS256 := some a }) text none]
  finish := fun d => Json.required "alg" d.alg
where
  text : Json.Reader (Option String) := Json.readOptional Json.readText

/-- The header of every token of this service. -/
def headerText : String := "\x7b\"typ\":\"JWT\",\"alg\":\"HS256\"\x7d"

end Gatehouse.Jwt
