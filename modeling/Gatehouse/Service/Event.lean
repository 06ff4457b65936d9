/-
  Gatehouse — the log.

  Each thing worth a line in the log is a value of `Event`. Its level, its message and
  its fields are what is written. No event carries a password or the secret of a token.
-/
import Gatehouse.Account.User
import Gatehouse.Error
import Gatehouse.Text.Decimal

namespace Gatehouse

/-- How much an event matters. -/
inductive Level
  | debug
  | info
  | warn
  | error
deriving DecidableEq, Repr

/-- The word for a level. -/
def Level.word : Level → String
  | debug => "DEBUG"
  | info => "INFO"
  | warn => "WARN"
  | error => "ERROR"

/-- The mails that the service sends. -/
inductive MailKind
  | welcome
  | verification
deriving DecidableEq, Repr

/-- The word for a mail in the log. -/
def MailKind.word : MailKind → String
  | welcome => "welcome"
  | verification => "verification"

/-- The name of a mail's template. -/
def MailKind.template : MailKind → String
  | welcome => "welcome"
  | verification => "verify_email"

/-- Something worth a line in the log. -/
inductive Event
  | userRegistered (id : UserId)
  | mailFailed (id : UserId) (kind : MailKind) (error : MailError)
  | mailDelivered (sender : String) (address : EmailAddress) (name : Username) (kind : MailKind)
  | verificationIssued (id : UserId)
  | verificationFailed (id : UserId) (error : AuthError)
  | verificationSkipped
  | verificationRejected (reason : AuthError)
  | emailVerified (id : UserId)
  | unknownAccount
  | passwordMismatch (id : UserId)
  | accountDeactivated (id : UserId)
  | loggedIn (id : UserId)
  | tokenBlacklisted
  | tokenOutdated (id : UserId)
  | tokenRotated (id : UserId)
  | successorDiscarded (id : UserId)
  | tokenRejected (reason : AuthError)
  | passwordChanged (id : UserId) (revoked : Nat)
  | storageFailed (reason : String)
  | internalFailed (reason : String)
  | requestStarted (method uri : String)
  | requestCompleted (status : Nat)
  | limitExceeded (client : String)
  | sweeperStarted (interval timeout : Span)
  | swept (removed : Nat)
  | sweepFailed (reason : String)
  | sweeperStopped
deriving DecidableEq, Repr

namespace Event

def level : Event → Level
  | mailFailed .. | verificationFailed .. | storageFailed _ | internalFailed _ => .error
  | successorDiscarded _ | limitExceeded _ | sweepFailed _ => .warn
  | verificationIssued _ | verificationSkipped | verificationRejected _ | unknownAccount
  | passwordMismatch _ | tokenBlacklisted | tokenRotated _ | tokenRejected _ | swept _ => .debug
  | userRegistered _ | mailDelivered .. | emailVerified _ | accountDeactivated _ | loggedIn _
  | tokenOutdated _ | passwordChanged .. | requestStarted .. | requestCompleted _
  | sweeperStarted .. | sweeperStopped => .info

def message : Event → String
  | userRegistered _ => "User registered"
  | mailFailed .. => "Failed to send account email"
  | mailDelivered .. => "Email delivered"
  | verificationIssued _ => "Verification token issued"
  | verificationFailed .. => "Failed to issue verification token"
  | verificationSkipped => "Verification resend skipped: no pending verification"
  | verificationRejected _ => "Verification token rejected"
  | emailVerified _ => "Email verified"
  | unknownAccount => "Login rejected: unknown account"
  | passwordMismatch _ => "Login rejected: password mismatch"
  | accountDeactivated _ => "Login rejected: account deactivated"
  | loggedIn _ => "User logged in"
  | tokenBlacklisted => "Refresh token blacklisted"
  | tokenOutdated _ => "Refresh rejected: password changed since issuance"
  | tokenRotated _ => "Refresh token rotated"
  | successorDiscarded _ => "Rotated refresh token discarded: credentials changed during refresh"
  | tokenRejected _ => "Token rejected"
  | passwordChanged .. => "Password changed, sessions revoked"
  | storageFailed _ => "Storage unavailable"
  | internalFailed _ => "Internal error"
  | requestStarted .. => "Request started"
  | requestCompleted _ => "Request completed"
  | limitExceeded _ => "Rate limit exceeded"
  | sweeperStarted .. => "Token sweeper started"
  | swept _ => "Swept expired refresh tokens"
  | sweepFailed _ => "Token sweep failed, retrying next tick"
  | sweeperStopped => "Token sweeper stopped"

/-- The named values that are written with the message. -/
def fields : Event → List (String × String)
  | mailFailed id kind e => [("user_id", id.text), ("email", kind.word), ("error", e.message)]
  | mailDelivered sender address name kind =>
    [("from", sender), ("to", address.text), ("user_name", name.text), ("template", kind.template)]
  | verificationFailed id e => [("user_id", id.text), ("error", e.message)]
  | passwordChanged id revoked => [("user_id", id.text), ("revoked", Text.decimal revoked)]
  | userRegistered id | verificationIssued id | emailVerified id | passwordMismatch id
  | accountDeactivated id | loggedIn id | tokenOutdated id | tokenRotated id
  | successorDiscarded id => [("user_id", id.text)]
  | verificationRejected reason | tokenRejected reason => [("reason", reason.message)]
  | storageFailed reason | internalFailed reason | sweepFailed reason => [("error", reason)]
  | requestStarted method uri => [("method", method), ("uri", uri)]
  | requestCompleted status => [("status", Text.decimal status)]
  | limitExceeded client => [("client", client)]
  | sweeperStarted interval timeout =>
    [("interval_secs", Text.decimal interval.seconds),
      ("timeout_secs", Text.decimal timeout.seconds)]
  | swept removed => [("removed", Text.decimal removed)]
  | unknownAccount | verificationSkipped | tokenBlacklisted | sweeperStopped => []

end Event

end Gatehouse
