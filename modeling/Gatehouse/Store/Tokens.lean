/-
  Gatehouse — the store of tokens.

  What can be asked of a store of tokens (`TokenCall`) with the answer to each question,
  and a store in memory that answers them. Each call is one atomic step: of several
  `revokeIfActive` for one secret, one alone is told that it revoked the token.
-/
import Gatehouse.Error
import Gatehouse.Session.Token

namespace Gatehouse

/-- What can be asked of a store of tokens. -/
inductive TokenCall
  | create (token : Token)
  | findBySecret (secret : String)
  | blacklist (secret : String)
  | revokeIfActive (secret : String)
  | deleteAllForUser (id : UserId)
  | sweepExpired (now : Instant)
deriving DecidableEq

namespace TokenCall

/-- The answer to a call. -/
abbrev Answer : TokenCall → Type
  | create _ => Unit
  | findBySecret _ => Option Token
  | blacklist _ => Unit
  | revokeIfActive _ => Bool
  | deleteAllForUser _ => Nat
  | sweepExpired _ => Nat

/-- What a call that got no answer in time is called. -/
def title : TokenCall → String
  | create _ => "token create"
  | findBySecret _ => "token lookup"
  | blacklist _ => "token blacklist"
  | revokeIfActive _ => "token revoke"
  | deleteAllForUser _ => "token purge"
  | sweepExpired _ => "token sweep"

end TokenCall

/-- A store of tokens in memory. -/
structure TokenStore where
  records : List Token := []
deriving DecidableEq, Repr, Inhabited

namespace TokenStore

/-- The token with a secret. -/
def findBySecret (s : TokenStore) (secret : String) : Option Token :=
  s.records.find? (·.secret == secret)

/-- Add a token, unless its secret or its identifier is in use. -/
def create (s : TokenStore) (t : Token) : Except StoreError TokenStore :=
  if s.records.any fun u => u.secret == t.secret || u.id == t.id then .error (.conflict t.id)
  else .ok ⟨s.records ++ [t]⟩

/-- Revoke the token with a secret, if there is one. -/
def blacklist (s : TokenStore) (secret : String) : TokenStore :=
  ⟨s.records.map fun t => if t.secret = secret then { t with revoked := true } else t⟩

/-- The token with a secret is there and not revoked. -/
def isActive (s : TokenStore) (secret : String) : Bool :=
  (s.findBySecret secret).any fun t => !t.revoked

/-- Drop the tokens that satisfy a condition. -/
def dropAll (s : TokenStore) (dead : Token → Bool) : TokenStore :=
  ⟨s.records.filter fun t => !dead t⟩

/-- The number of tokens that satisfy a condition. -/
def count (s : TokenStore) (p : Token → Bool) : Nat := s.records.countP p

/-- The token belongs to a user. -/
def isOwnedBy (id : UserId) (t : Token) : Bool := t.userId == id

/-- The token's expiry is past: later than this there is nothing left to tell about it. -/
def isSwept (now : Instant) (t : Token) : Bool := t.expiresAt.isBefore now

/-- Answer a call. -/
def perform (s : TokenStore) : (c : TokenCall) → Except StoreError c.Answer × TokenStore
  | .create t =>
    match s.create t with
    | .ok after => (.ok (), after)
    | .error e => (.error e, s)
  | .findBySecret secret => (.ok (s.findBySecret secret), s)
  | .blacklist secret => (.ok (), s.blacklist secret)
  | .revokeIfActive secret =>
    if s.isActive secret then (.ok true, s.blacklist secret) else (.ok false, s)
  | .deleteAllForUser id => (.ok (s.count (isOwnedBy id)), s.dropAll (isOwnedBy id))
  | .sweepExpired now => (.ok (s.count (isSwept now)), s.dropAll (isSwept now))

end TokenStore

end Gatehouse
