/-
  Gatehouse — the operations of the service.

  Registering, logging in and out, trading a refresh token for a new pair, checking an
  access token, changing the password, and confirming an address by mail. Each operation
  is a flow that fails with an `AuthError`; everything that lasts is in the stores.

  * A store call that fails or does not answer in time ends the operation.
  * A password change raises the owner's credential version before it removes the tokens,
    so a token that was minted in between is dead as well (`refresh`, `ensureCurrent`).
  * Failures of the mail sender are logged and otherwise ignored.
-/
import Gatehouse.Account.Registration
import Gatehouse.Service.Flow
import Gatehouse.Session.OpaqueToken

namespace Gatehouse

/-- The choices of whoever runs the service. -/
structure Settings where
  /-- A refresh token is replaced whenever it is used. -/
  rotates : Bool := true
  /-- How long a store call may take. -/
  storageLimit : Span := .ofSeconds 5
  /-- How long handing over a mail may take. -/
  mailLimit : Span := .ofSeconds 5
deriving DecidableEq, Repr

/-- The settings for diagnostics. -/
def Settings.view (s : Settings) : String :=
  "SessionSettings \x7b rotate_refresh_tokens: " ++ Token.truth s.rotates ++ ", storage_timeout: "
    ++ s.storageLimit.text ++ ", email_timeout: " ++ s.mailLimit.text ++ " \x7d"

/-- An access token and a refresh token, with their expiries. -/
structure TokenPair where
  access : Jwt.Issued
  refreshSecret : String
  refreshExpiresAt : Instant
deriving DecidableEq, Repr

/-- What someone who logged in gets. -/
structure Login where
  profile : Profile
  tokens : TokenPair
deriving DecidableEq, Repr

namespace Service

/-- The seconds that a refresh token is good for: seven days. -/
def refreshSeconds : Nat := 7 * 86400

/-- The seconds that a verification token is good for: a day. -/
def verificationSeconds : Nat := 86400

/-- The greatest credential version. -/
def lastVersion : Int := 0x7FFFFFFFFFFFFFFF

/-! ## Asking -/

/-- The time of day. -/
def now : Flow AuthError Instant := .request .now

/-- An answer that came in time, or the error for none. -/
def answered {α : Type} (title : String) (limit : Span) :
    Option (Except StoreError α) → Flow StoreError α
  | some r => .ofExcept r
  | none => .fail (.timedOut title limit)

/-- Call the store of accounts. -/
def tryUsers (s : Settings) (c : UserCall) : Flow StoreError c.Answer :=
  .ask (.users s.storageLimit c) (answered c.title s.storageLimit)

/-- Call the store of tokens. -/
def tryTokens (s : Settings) (c : TokenCall) : Flow StoreError c.Answer :=
  .ask (.tokens s.storageLimit c) (answered c.title s.storageLimit)

/-- Call the store of accounts; an error ends the operation. -/
def users (s : Settings) (c : UserCall) : Flow AuthError c.Answer :=
  (tryUsers s c).mapFailure StoreError.toAuthError

/-- Call the store of tokens; an error ends the operation. -/
def tokens (s : Settings) (c : TokenCall) : Flow AuthError c.Answer :=
  (tryTokens s c).mapFailure StoreError.toAuthError

/-- A fresh digest. -/
def hash (password : String) : Flow AuthError String := .ask (.hash password) .ofExcept

/-- Whether a password matches; without a digest the work is done all the same. -/
def verify (password : String) : Option String → Flow AuthError Bool
  | some digest => .request (.verify password digest)
  | none => .request (.verifyDecoy password)

/-- A fresh secret or identifier. -/
def draw : Flow AuthError String := .ask (.draw OpaqueToken.standardBytes) .ofExcept

/-- A fresh access token. -/
def issue (u : User) (now : Instant) : Flow AuthError Jwt.Issued :=
  .ask (.issue u.id u.email u.name now) fun
    | .ok r => .ofExcept (r.mapError AccessTokenError.toAuthError)
    | .error o => .crash o

/-- The error of a mail that was not handed over. -/
def mailError? (limit : Span) : Option (Except MailError Unit) → Option MailError
  | some (.ok ()) => none
  | some (.error e) => some e
  | none => some (.timedOut limit)

/-- Hand a mail over. A failure is logged, and the operation goes on. -/
def deliver (s : Settings) (id : UserId) (m : Mail) : Flow AuthError Unit :=
  .ask (.send s.mailLimit m) fun r =>
    match mailError? s.mailLimit r with
    | none => .done ()
    | some e => .log (.mailFailed id m.kind e)

/-! ## Tokens -/

/-- Mint a token for a user and store it. -/
def storeToken (s : Settings) (u : User) (kind : TokenKind) (seconds : Nat) (now : Instant) :
    Flow AuthError Token := do
  let id ← draw
  let secret ← draw
  match now.addSeconds? seconds with
  | none => .crash .instant
  | some expiry =>
    let t : Token :=
      { id := id, userId := u.id, secret := secret, kind := kind, expiresAt := expiry,
        revoked := false, credentialVersion := u.credentialVersion, createdAt := now }
    tokens s (.create t)
    return t

/-- Mint a verification token and mail it to the user. -/
def sendVerification (s : Settings) (u : User) (now : Instant) : Flow AuthError Unit := do
  let t ← storeToken s u .verification verificationSeconds now
  deliver s u.id { kind := .verification, address := u.email, name := u.name, secret := t.secret }
  .log (.verificationIssued u.id)

/-- The token with a secret, if it has the kind. -/
def findToken (s : Settings) (kind : TokenKind) (secret : String) : Flow AuthError Token := do
  let t? ← tokens s (.findBySecret secret)
  .ofOption .invalidToken (t?.filter (·.kind == kind))

/-- Refuse a token that is expired or revoked. -/
def checkAlive (t : Token) (now : Instant) : Flow AuthError Unit :=
  if t.isExpired now then .fail .tokenExpired
  else if t.revoked then .fail .tokenRevoked
  else .done ()

/-- Revoke a token; of several callers, one alone goes on. -/
def revoke (s : Settings) (t : Token) : Flow AuthError Unit := do
  if ← tokens s (.revokeIfActive t.secret) then return ()
  else .fail .tokenRevoked

/-- The password may have changed between loading `u` and storing `successor`. Read the
    owner again, and discard the successor if the credentials have moved on. -/
def ensureCurrent (s : Settings) (u : User) (successor : Token) : Flow AuthError Unit := do
  let current ← users s (.findById u.id)
  if current.any fun v => v.credentialVersion == successor.credentialVersion then return ()
  else
    tokens s (.blacklist successor.secret)
    .log (.successorDiscarded u.id)
    .fail .tokenRevoked

/-! ## Operations -/

/-- Open an account, and mail a link that confirms the address. The account exists even if
    that mail does not get out. -/
def register (s : Settings) (form : Registration.Form) : Flow AuthError Profile := do
  let valid ← .ofExcept form.validate
  if ← users s (.existsByEmail valid.email) then .fail .emailTaken
  else
    let digest ← hash form.password
    let t ← now
    let id ← draw
    let u : User :=
      { id := ⟨id⟩, email := valid.email, name := valid.name, passwordHash := digest,
        firstName := Text.trim form.firstName, lastName := Text.trim form.lastName,
        isActive := true, emailVerified := false, credentialVersion := 0,
        createdAt := t, updatedAt := t }
    let created ← (tryUsers s (.create u)).mapFailure fun
      | .conflict _ => .emailTaken
      | e => e.toAuthError
    .log (.userRegistered created.id)
    deliver s created.id { kind := .welcome, address := created.email, name := created.name }
    match ← (sendVerification s created t).attempt with
    | .ok () => return created.profile
    | .error e =>
      .log (.verificationFailed created.id e)
      return created.profile

/-- The account of an entered address, if there is one. -/
def findAccount (s : Settings) (email : String) : Flow AuthError (Option User) :=
  match EmailAddress.ofText email with
  | .ok email => users s (.findByEmail email)
  | .error _ => .done none

/-- Trade an address and a password for a pair of tokens. An unknown address costs one match
    as well, and is answered like a wrong password. -/
def login (s : Settings) (email password : String) : Flow AuthError Login := do
  match ← findAccount s email with
  | none =>
    let _ ← verify password none
    .log .unknownAccount
    .fail .invalidCredentials
  | some u =>
    if ← verify password (some u.passwordHash) then
      if u.isActive then
        let t ← now
        let access ← issue u t
        let refresh ← storeToken s u .refresh refreshSeconds t
        .log (.loggedIn u.id)
        return ⟨u.profile, access, refresh.secret, refresh.expiresAt⟩
      else
        .log (.accountDeactivated u.id)
        .fail .accountDeactivated
    else
      .log (.passwordMismatch u.id)
      .fail .invalidCredentials

/-- Revoke a secret. An unknown one is accepted. -/
def logout (s : Settings) (secret : String) : Flow AuthError Unit := do
  tokens s (.blacklist secret)
  .log .tokenBlacklisted

/-- Trade a refresh token for a new pair. With rotation the token is used up, and only the
    caller that revokes it gets a successor. -/
def refresh (s : Settings) (secret : String) : Flow AuthError TokenPair := do
  let t ← now
  let token ← findToken s .refresh secret
  checkAlive token t
  let u ← .ofOption .invalidToken (← users s (.findById token.userId))
  if !u.isActive then .fail .accountDeactivated
  else if token.credentialVersion ≠ u.credentialVersion then
    .log (.tokenOutdated u.id)
    .fail .tokenRevoked
  else
    let access ← issue u t
    if s.rotates then
      revoke s token
      let successor ← storeToken s u .refresh refreshSeconds t
      ensureCurrent s u successor
      .log (.tokenRotated u.id)
      return ⟨access, successor.secret, successor.expiresAt⟩
    else return ⟨access, token.secret, token.expiresAt⟩

/-- The identity in an access token. -/
def validate (token : String) : Flow AuthError Jwt.Identity := do
  let t ← now
  .ask (.parse token t) fun r => .ofExcept (r.mapError AccessTokenError.toAuthError)

/-- The credential version after a change of the password. -/
def nextVersion (version : Int) : Flow AuthError Int :=
  if version < lastVersion then .done (version + 1) else .crash .count

/-- Replace the password, and end all sessions of the user. -/
def changePassword (s : Settings) (id : UserId) (old new : String) : Flow AuthError Unit := do
  let u ← .ofOption (.userNotFound id.text) (← users s (.findById id))
  if ← verify old (some u.passwordHash) then
    match Password.weakness? new with
    | some w => .fail (.weakPassword w.message)
    | none =>
      let digest ← hash new
      let version ← nextVersion u.credentialVersion
      let t ← now
      let changed :=
        { u with passwordHash := digest, credentialVersion := version, updatedAt := t }
      let stored ← (tryUsers s (.update changed)).mapFailure fun
        | .notFound _ => .userNotFound id.text
        | e => e.toAuthError
      let revoked ← tokens s (.deleteAllForUser stored.id)
      .log (.passwordChanged stored.id revoked)
  else .fail .invalidCredentials

/-- Note that an address is confirmed, unless that is noted already. -/
def markVerified (s : Settings) (u : User) (now : Instant) : Flow AuthError User :=
  if u.emailVerified then .done u
  else
    (tryUsers s (.update { u with emailVerified := true, updatedAt := now })).mapFailure fun
      | .notFound _ => .invalidToken
      | e => e.toAuthError

/-- Use up a verification token, and note that its owner's address is confirmed. -/
def verifyEmail (s : Settings) (secret : String) : Flow AuthError Profile := do
  let t ← now
  let token ← findToken s .verification secret
  checkAlive token t
  revoke s token
  let u ← .ofOption .invalidToken (← users s (.findById token.userId))
  let u ← markVerified s u t
  .log (.emailVerified u.id)
  return u.profile

/-- The account waits for its address to be confirmed. -/
def isPending (u : User) : Bool := u.isActive && !u.emailVerified

/-- Mail a fresh link that confirms an address. An address that waits for none is answered
    alike. -/
def resendVerification (s : Settings) (email : String) : Flow AuthError Unit :=
  match EmailAddress.ofText email with
  | .error e => .fail (.validationFailed [⟨"email", e.message⟩])
  | .ok email => do
    match (← users s (.findByEmail email)).filter isPending with
    | some u => sendVerification s u (← now)
    | none => .log .verificationSkipped

end Service

end Gatehouse
