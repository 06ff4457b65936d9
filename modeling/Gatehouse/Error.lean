/-
  Gatehouse — failures.

  Each layer reports failures of its own: the stores (`StoreError`), the access tokens
  (`AccessTokenError`), the sender of mail (`MailError`). A service operation answers
  with an `AuthError`; the conversions to it say which detail a caller gets to see. An
  `Overflow` is a defect rather than an answer.
-/
import Gatehouse.Time.Span

namespace Gatehouse

/-! ## Rejected fields -/

/-- One rejected field of a request. -/
structure FieldError where
  field : String
  message : String
deriving DecidableEq, Repr

/-- Rejected fields, in the order in which they were found. -/
abbrev FieldErrors := List FieldError

namespace FieldErrors

/-- The fields with their messages on one line. -/
def text (es : FieldErrors) : String :=
  String.intercalate "; " (es.map fun e => e.field ++ ": " ++ e.message)

/-- The first message recorded for a field. -/
def message? (es : FieldErrors) (field : String) : Option String :=
  (es.find? (·.field == field)).map (·.message)

end FieldErrors

/-! ## Overflow -/

/-- A computation left the range of representable values. No answer is given then. -/
inductive Overflow
  | instant
  | count
deriving DecidableEq, Repr

def Overflow.message : Overflow → String
  | instant => "\x60DateTime + TimeDelta\x60 overflowed"
  | count => "attempt to add with overflow"

/-! ## Layers -/

/-- What a store reports instead of an answer. -/
inductive StoreError
  | notFound (key : String)
  | conflict (key : String)
  | unavailable (reason : String)
deriving DecidableEq, Repr

def StoreError.message : StoreError → String
  | notFound key => "Record not found: " ++ key
  | conflict key => "Record already exists: " ++ key
  | unavailable reason => "Storage unavailable: " ++ reason

/-- A store call that did not answer in time. -/
def StoreError.timedOut (call : String) (limit : Span) : StoreError :=
  .unavailable (call ++ " timed out after " ++ limit.text)

/-- Why an access token was not issued or not accepted. -/
inductive AccessTokenError
  | invalidSignature
  | invalidIssuer
  | invalidAudience
  | expired
  | malformed (reason : String)
  | signingFailed (reason : String)
deriving DecidableEq, Repr

def AccessTokenError.message : AccessTokenError → String
  | invalidSignature => "Token signature is invalid"
  | invalidIssuer => "Token issuer is invalid"
  | invalidAudience => "Token audience is invalid"
  | expired => "Token is expired"
  | malformed reason => "Token is malformed: " ++ reason
  | signingFailed reason => "Token signing failed: " ++ reason

/-- Why a mail was not handed over. -/
inductive MailError
  | deliveryFailed (reason : String)
  | timedOut (limit : Span)
deriving DecidableEq, Repr

def MailError.message : MailError → String
  | deliveryFailed reason => "Failed to deliver email: " ++ reason
  | timedOut limit => "Email delivery timed out after " ++ limit.text

/-! ## The service -/

/-- Why an operation of the service was refused. The causes that concern credentials and
    tokens carry no detail, so that a caller cannot tell an unknown account from a wrong
    password. -/
inductive AuthError
  | invalidCredentials
  | accountDeactivated
  | invalidToken
  | tokenExpired
  | tokenRevoked
  | invalidSignature
  | invalidIssuer
  | invalidAudience
  | emailTaken
  | weakPassword (reason : String)
  | validationFailed (fields : FieldErrors)
  | userNotFound (id : String)
  | storageUnavailable (reason : String)
  | internal (reason : String)
deriving DecidableEq, Repr

def AuthError.message : AuthError → String
  | invalidCredentials => "Invalid credentials"
  | accountDeactivated => "Account is deactivated"
  | invalidToken => "Invalid token"
  | tokenExpired => "Token expired"
  | tokenRevoked => "Token revoked"
  | invalidSignature => "Invalid token signature"
  | invalidIssuer => "Invalid token issuer"
  | invalidAudience => "Invalid token audience"
  | emailTaken => "Email already taken"
  | weakPassword reason => "Password too weak: " ++ reason
  | validationFailed fields => "Validation failed: " ++ fields.text
  | userNotFound id => "User not found: " ++ id
  | storageUnavailable reason => "Storage unavailable: " ++ reason
  | internal reason => "Internal error: " ++ reason

/-- An outage of a store is passed on; a surprising answer is an internal failure. -/
def StoreError.toAuthError : StoreError → AuthError
  | unavailable reason => .storageUnavailable reason
  | e => .internal e.message

/-- A caller learns which check a token failed, but not how it was malformed. -/
def AccessTokenError.toAuthError : AccessTokenError → AuthError
  | invalidSignature => .invalidSignature
  | invalidIssuer => .invalidIssuer
  | invalidAudience => .invalidAudience
  | expired => .tokenExpired
  | malformed _ => .invalidToken
  | signingFailed reason => .internal reason

end Gatehouse
