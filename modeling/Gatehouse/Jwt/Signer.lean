/-
  Gatehouse — signing and checking access tokens.

  A token is the base64 text of the header, of the claims and of the signature, joined by
  dots; the signature is the keyed hash of what stands before it. `Signer.decode` accepts
  a token only if its signature is the one that this signer makes, its issuer and audience
  are this signer's, and it is not expired at the instant given by the caller.
-/
import Gatehouse.Hash.Sha256
import Gatehouse.Jwt.Claims
import Gatehouse.Jwt.Header
import Gatehouse.Text.Base64
import Gatehouse.Text.Split

namespace Gatehouse.Jwt

/-- Why a token was not signed or not accepted. -/
inductive Error
  | encodingFailed (reason : String)
  | invalidSignature
  | invalidIssuer
  | invalidAudience
  | expired
  | malformed (reason : String)
deriving DecidableEq, Repr

def Error.message : Error → String
  | encodingFailed reason => "Failed to encode token: " ++ reason
  | invalidSignature => "Token signature is invalid"
  | invalidIssuer => "Token issuer is invalid"
  | invalidAudience => "Token audience is invalid"
  | expired => "Token is expired"
  | malformed reason => "Token is malformed: " ++ reason

/-- The same failure as the service sees it. -/
def Error.toAccessTokenError : Error → AccessTokenError
  | encodingFailed reason => .signingFailed reason
  | invalidSignature => .invalidSignature
  | invalidIssuer => .invalidIssuer
  | invalidAudience => .invalidAudience
  | expired => .expired
  | malformed reason => .malformed reason

/-- How a token is malformed. -/
inductive Malformation
  | tooFewParts
  | base64 (fault : Base64.Fault)
  | json (error : Json.Error) (input : List UInt8)
  | noExpiry

def Malformation.reason : Malformation → String
  | tooFewParts => "InvalidToken"
  | base64 fault => "Base64 error: " ++ fault.message
  | json error input => "JSON error: " ++ error.text input
  | noExpiry => "Missing required claim: exp"

/-- The error for a malformation. -/
def Malformation.error (m : Malformation) : Error := .malformed m.reason

/-- How long an access token is good, in seconds. -/
def lifetimeSeconds : Nat := 900

/-- The fewest bytes of a secret that the service accepts. -/
def leastSecret : Nat := 32

/-- A secret, and the names that are stamped into tokens and required of them. -/
structure Signer where
  secret : List UInt8
  issuer : String
  audience : String

/-- A freshly signed token. -/
structure Issued where
  token : String
  expiresAt : Instant
deriving DecidableEq, Repr

/-- The identity that an accepted token carries. -/
structure Identity where
  userId : String
  email : String
  userName : String
  expiresAt : Instant
deriving DecidableEq, Repr

/-- The bytes of a list of characters. -/
def bytesOf (cs : List Char) : List UInt8 := (String.ofList cs).toUTF8.toList

/-- Bytes as unpadded URL-safe base64. -/
def base64 (bytes : List UInt8) : List Char := Base64.encode .urlSafe bytes

namespace Signer

/-! ## Signing -/

/-- The signature of a text. -/
def signature (s : Signer) (message : List Char) : List Char :=
  base64 (Sha256.hmac s.secret (bytesOf message))

/-- What is signed: the header and the claims. -/
def signedPart (c : Claims) : List Char :=
  base64 headerText.toUTF8.toList ++ '.' :: base64 c.doc.render.toUTF8.toList

/-- Sign claims as they are. -/
def sign (s : Signer) (c : Claims) : String :=
  String.ofList (signedPart c ++ '.' :: s.signature (signedPart c))

/-- Issue a token for a user. -/
def issue (s : Signer) (id email userName : String) (now : Instant) : Except Overflow Issued := do
  let c ← Claims.forUser id email userName now (lifetimeSeconds * Instant.giga)
  let c := { c with iss := s.issuer, aud := s.audience }
  return ⟨s.sign c, c.expiresAt⟩

/-! ## Checking -/

/-- The part of a token as bytes. -/
def decodePart (part : List Char) : Except Error (List UInt8) :=
  (Base64.decode .urlSafe (bytesOf part)).mapError fun f => (Malformation.base64 f).error

/-- Read a part of a token. -/
def readPart {α : Type} (read : Json.Reader α) (bytes : List UInt8) : Except Error α :=
  (Json.readAll read bytes).mapError fun e => (Malformation.json e bytes).error

/-- The claims that every token has in common, while they are read. A number that is no
    instant is passed over. -/
structure RegisteredDraft where
  exp : Option (Option Int) := none
  nbf : Option (Option Int) := none
  sub : Option (Option String) := none
  iss : Option (Option String) := none
  aud : Option (Option String) := none

/-- A number of seconds that is not negative. -/
def readSeconds : Json.Reader Int := fun c => do
  let c ← Json.atValue c
  if c.rest.head?.any fun b => b = Json.ascii '-' || (Json.digit? b).isSome then
    match ← Json.readNumber c with
    | (.natural n, after) => return (n, after)
    | (n, after) => throw (after.here (.invalidType n.found "seconds"))
  else if c.rest.head? = some (Json.ascii '[') then throw ((Json.endList c.next).2.here .noValue)
  else if c.rest.head? = some (Json.ascii '\x7b') then
    throw ((Json.endObject c.next).2.here .noValue)
  else throw (Json.mismatch c "seconds")

/-- The form of the common claims, which is worth the expiry, if there is one. -/
def registeredRecord : Json.Record RegisteredDraft (Option Int) where
  title := "ClaimsForValidation"
  start := {}
  fields :=
    [.of "exp" RegisteredDraft.exp (fun d a => { d with exp := some a }) seconds (some none),
     .of "nbf" RegisteredDraft.nbf (fun d a => { d with nbf := some a }) seconds (some none),
     .of "sub" RegisteredDraft.sub (fun d a => { d with sub := some a }) text none,
     .of "iss" RegisteredDraft.iss (fun d a => { d with iss := some a }) text none,
     .of "aud" RegisteredDraft.aud (fun d a => { d with aud := some a }) text none]
  finish := fun d => .ok (d.exp.getD none)
where
  seconds : Json.Reader (Option Int) := Json.readLeniently readSeconds
  text : Json.Reader (Option String) := Json.readLeniently Json.readText

/-- The claims of a token, its signature checked, and what its common claims say of the expiry. -/
def open? (s : Signer) (token : String) : Except Error (Claims × Option Int) := do
  let some (message, mark) := Text.splitLast '.' token.toList | throw Malformation.tooFewParts.error
  let some (header, payload) := Text.splitLast '.' message | throw Malformation.tooFewParts.error
  let name ← readPart headerRecord.read (← decodePart header)
  if name ≠ algorithm then throw .invalidSignature
  if mark ≠ s.signature message then throw .invalidSignature
  let bytes ← decodePart payload
  let claims ← readPart Claims.record.read bytes
  let expiry ← readPart registeredRecord.read bytes
  return (claims, expiry)

/-- The claims of a token that is accepted at `now`. Signature, issuer, audience and expiry are
    checked in this order. -/
def decode (s : Signer) (token : String) (now : Instant) : Except Error Claims := do
  let (claims, expiry) ← s.open? token
  if expiry.isNone then throw Malformation.noExpiry.error
  if claims.iss ≠ s.issuer then throw .invalidIssuer
  if claims.aud ≠ s.audience then throw .invalidAudience
  if claims.isExpired now.seconds then throw .expired
  return claims

/-- The identity in a token that is accepted at `now`. -/
def identify (s : Signer) (token : String) (now : Instant) : Except Error Identity := do
  let claims ← s.decode token now
  return { userId := claims.sub, email := claims.email, userName := claims.userName,
           expiresAt := claims.expiresAt }

end Signer

end Gatehouse.Jwt
