/-
  Gatehouse — stored tokens.

  Refresh tokens and verification tokens are records found by a secret. A token is dead
  from its expiry onward, when it is revoked, and when the owner's credential version
  has moved on. `Token.view` describes a token without its secret.
-/
import Gatehouse.Account.User
import Gatehouse.Text.Quoted

namespace Gatehouse

/-- What a token is good for. -/
inductive TokenKind
  | access
  | refresh
  | verification
deriving DecidableEq, Repr

namespace TokenKind

/-- The stored word for a kind. -/
def word : TokenKind → String
  | access => "access"
  | refresh => "refresh"
  | verification => "verification"

/-- The kind that a stored word stands for. -/
def ofWord? : String → Option TokenKind
  | "access" => some access
  | "refresh" => some refresh
  | "verification" => some verification
  | _ => none

/-- What is said of a word that stands for no kind. -/
def unknown (word : String) : String := "unknown token kind: " ++ word

/-- The name of a kind in a diagnostic view. -/
def title : TokenKind → String
  | access => "Access"
  | refresh => "Refresh"
  | verification => "Verification"

/-- Reading undoes writing, and accepts nothing else. -/
theorem ofWord?_eq_some_iff {w : String} {k : TokenKind} : ofWord? w = some k ↔ w = k.word := by
  constructor
  · intro h
    unfold ofWord? at h
    split at h <;> cases h <;> rfl
  · rintro rfl
    cases k <;> rfl

end TokenKind

/-- A stored token. A used verification token counts as revoked. -/
structure Token where
  id : String
  userId : UserId
  secret : String
  kind : TokenKind
  expiresAt : Instant
  revoked : Bool
  /-- The owner's credential version when the token was minted. -/
  credentialVersion : Int
  createdAt : Instant
deriving DecidableEq, Repr

namespace Token

/-- The token is dead from its expiry onward. -/
def isExpired (t : Token) (now : Instant) : Bool := decide (t.expiresAt ≤ now)

/-- The two words of a truth value. -/
def truth (b : Bool) : String := if b then "true" else "false"

/-- The token's fields for diagnostics; the secret is not among them. -/
def view (t : Token) : String :=
  "Token \x7b id: " ++ Text.quote t.id ++ ", user_id: UserId(" ++ Text.quote t.userId.text
    ++ "), secret: \"<redacted>\", kind: " ++ t.kind.title
    ++ ", expires_at: " ++ t.expiresAt.text ++ ", blacklisted: " ++ truth t.revoked
    ++ ", credential_version: " ++ Text.decimalInt t.credentialVersion
    ++ ", created_at: " ++ t.createdAt.text ++ " \x7d"

end Token

end Gatehouse
