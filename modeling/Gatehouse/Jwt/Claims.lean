/-
  Gatehouse — the claims of an access token.

  The claims say who the bearer is, by whom and for whom the token was issued, and from
  when until when it is good, in whole seconds. They are written as a JSON object of seven
  members and read as strictly as that: texts are texts, seconds are 64-bit integers.
-/
import Gatehouse.Error
import Gatehouse.Json.Record
import Gatehouse.Json.Write
import Gatehouse.Time.Instant

namespace Gatehouse.Jwt

/-- What an access token says of its bearer. -/
structure Claims where
  sub : String
  email : String
  userName : String
  iss : String
  aud : String
  iat : Int
  exp : Int
deriving DecidableEq, Repr

namespace Claims

/-- Claims for a user, good for `lifetime` nanoseconds; issuer and audience are left empty. -/
def forUser (id email userName : String) (issuedAt : Instant) (lifetime : Int) :
    Except Overflow Claims :=
  match issuedAt.add? lifetime with
  | some expiry =>
    .ok { sub := id, email, userName, iss := "", aud := "", iat := issuedAt.seconds,
          exp := expiry.seconds }
  | none => .error .instant

/-- The expiry as an instant; one that is not representable counts as the earliest. -/
def expiresAt (c : Claims) : Instant := (Instant.ofSeconds? c.exp).getD Instant.earliest

/-- The claims are dead from the second `exp` onward. -/
def isExpired (c : Claims) (second : Int) : Bool := c.exp ≤ second

/-! ## As JSON -/

/-- The claims as a document. -/
def doc (c : Claims) : Json.Doc :=
  .object [("sub", .text c.sub), ("email", .text c.email), ("user_name", .text c.userName),
    ("iss", .text c.iss), ("aud", .text c.aud), ("iat", .int c.iat), ("exp", .int c.exp)]

/-- Claims while they are read. -/
structure Draft where
  sub : Option String := none
  email : Option String := none
  userName : Option String := none
  iss : Option String := none
  aud : Option String := none
  iat : Option Int := none
  exp : Option Int := none

/-- The claims of a draft; the first field that is missing is named. -/
def Draft.finish (d : Draft) : Except Json.Fault Claims := do
  return {
    sub := ← Json.required "sub" d.sub
    email := ← Json.required "email" d.email
    userName := ← Json.required "user_name" d.userName
    iss := ← Json.required "iss" d.iss
    aud := ← Json.required "aud" d.aud
    iat := ← Json.required "iat" d.iat
    exp := ← Json.required "exp" d.exp }

/-- The form of the claims. -/
def record : Json.Record Draft Claims where
  title := "Claims"
  start := {}
  fields :=
    [.of "sub" Draft.sub (fun d a => { d with sub := some a }) Json.readText none,
     .of "email" Draft.email (fun d a => { d with email := some a }) Json.readText none,
     .of "user_name" Draft.userName (fun d a => { d with userName := some a }) Json.readText none,
     .of "iss" Draft.iss (fun d a => { d with iss := some a }) Json.readText none,
     .of "aud" Draft.aud (fun d a => { d with aud := some a }) Json.readText none,
     .of "iat" Draft.iat (fun d a => { d with iat := some a }) Json.readInt64 none,
     .of "exp" Draft.exp (fun d a => { d with exp := some a }) Json.readInt64 none]
  finish := Draft.finish

end Claims

end Gatehouse.Jwt
