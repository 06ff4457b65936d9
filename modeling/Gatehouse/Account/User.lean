/-
  Gatehouse — accounts.

  A user record holds who someone is, the digest of the password, and the credential
  version, which grows with every change of the password. A profile is the part of the
  record that any caller may see.
-/
import Gatehouse.Account.Email
import Gatehouse.Account.Username
import Gatehouse.Time.Instant

namespace Gatehouse

/-- The identifier of an account: an opaque text. -/
structure UserId where
  text : String
deriving DecidableEq, Repr, Inhabited

/-- The record of an account. -/
structure User where
  id : UserId
  email : EmailAddress
  name : Username
  passwordHash : String
  firstName : String
  lastName : String
  isActive : Bool
  emailVerified : Bool
  /-- Counts the changes of the password; what was issued under another count is dead. -/
  credentialVersion : Int
  createdAt : Instant
  updatedAt : Instant
deriving DecidableEq, Repr

/-- What any caller may see of an account. -/
structure Profile where
  id : UserId
  email : EmailAddress
  name : Username
  firstName : String
  lastName : String
  isActive : Bool
  emailVerified : Bool
  createdAt : Instant
deriving DecidableEq, Repr

/-- The public part of a record. -/
def User.profile (u : User) : Profile :=
  { id := u.id, email := u.email, name := u.name, firstName := u.firstName,
    lastName := u.lastName, isActive := u.isActive, emailVerified := u.emailVerified,
    createdAt := u.createdAt }

end Gatehouse
