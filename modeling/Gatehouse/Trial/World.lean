/-
  Gatehouse — trials.

  A trial runs the service in a world of its own: stores in memory, a clock that is moved
  by hand, secrets that are numbered, and time that passes only while something waits. A
  script may make single calls fail, stall or come late, or change the stores around them.
  The world writes down all calls, mails and log lines.

  `World.reply` is the handler of questions, to be used with `Flow.run`.
-/
import Gatehouse.Account.Digest
import Gatehouse.Http.Limiter
import Gatehouse.Service.Flow

namespace Gatehouse.Trial

/-- A change made to the world from outside of the service. -/
inductive Change
  | putUser (user : User)
  | putToken (token : Token)
  | blacklist (secret : String)
  | deleteTokensOf (id : UserId)
  /-- Move both clocks by a number of nanoseconds. -/
  | advance (nanos : Int)
  | setClock (now : Instant)
deriving DecidableEq

/-- What a change comes to. -/
inductive Changed
  | nothing
  | count (n : Nat)
  | clock (now : Instant)
deriving DecidableEq

/-- What a script makes of one call. -/
inductive Fault
  | none
  /-- No answer, ever. -/
  | stall
  /-- The answer comes late. -/
  | delay (wait : Span)
  /-- A store fails. -/
  | fail (error : StoreError)
  /-- Anything else fails. -/
  | refuse (reason : String)
  /-- A look-up finds nothing. -/
  | absent
  /-- Changes just before the call. -/
  | before (changes : List Change)
  /-- Changes just after the call. -/
  | after (changes : List Change)
  /-- The text that is drawn. -/
  | value (text : String)

/-- The faults of the calls with one name, in order. -/
abbrev Script := List (String × List Fault)

/-- How passwords are hashed. -/
inductive Hashing
  /-- A digest is the password behind a mark. -/
  | marked
  /-- Digests with one salt. -/
  | salted (salt : List UInt8)

/-- The mark in front of a password that is its own digest. -/
def mark : String := "stub$"

/-- The digest of a password. -/
def Hashing.hash : Hashing → String → Except Password.HashError String
  | marked, password => .ok (mark ++ password)
  | salted salt, password => Password.tryHash password salt

/-- A password matches a digest. -/
def Hashing.verify : Hashing → String → String → Bool
  | marked, password, digest => digest == mark ++ password
  | salted _, password, digest => Password.verify password digest

/-- The match without a digest. -/
def Hashing.verifyDecoy : Hashing → String → Bool
  | marked, _ => false
  | salted _, password => Password.verifyDecoy password

/-- The world of a trial. -/
structure World where
  signer : Jwt.Signer
  hashing : Hashing
  clock : Instant
  users : UserStore := {}
  tokens : TokenStore := {}
  limiter : Limiter
  /-- The reading of the limiter's clock, in nanoseconds. -/
  reading : Int := 0
  /-- How many secrets were drawn. -/
  drawn : Nat := 0
  script : Script := []
  calls : List String := []
  mails : List Mail := []
  events : List Event := []
  /-- The time that was spent waiting. -/
  waited : Span := ⟨0⟩

/-! ## Changes -/

/-- Make a change. -/
def Change.apply (w : World) : Change → Ending StoreError Changed × World
  | putUser u =>
    match if w.users.records.any (·.id == u.id) then w.users.update u else w.users.create u with
    | .ok users => (.done .nothing, { w with users })
    | .error e => (.failed e, w)
  | putToken t =>
    match w.tokens.create t with
    | .ok tokens => (.done .nothing, { w with tokens })
    | .error e => (.failed e, w)
  | blacklist secret => (.done .nothing, { w with tokens := w.tokens.blacklist secret })
  | deleteTokensOf id =>
    (.done (.count (w.tokens.count (TokenStore.isOwnedBy id))),
      { w with tokens := w.tokens.dropAll (TokenStore.isOwnedBy id) })
  | advance nanos =>
    match w.clock.add? nanos with
    | some t => (.done (.clock t), { w with clock := t, reading := w.reading + nanos })
    | none => (.crashed .instant, w)
  | setClock t => (.done (.clock t), { w with clock := t })

/-- Make several changes. -/
def applyAll (w : World) (changes : List Change) : World :=
  changes.foldl (fun w c => (c.apply w).2) w

/-! ## Names -/

/-- The name of a call to the store of accounts. -/
def userCallName : UserCall → String
  | .create _ => "users.create"
  | .findById _ => "users.find_by_id"
  | .findByEmail _ => "users.find_by_email"
  | .existsByEmail _ => "users.exists_by_email"
  | .update _ => "users.update"

/-- The name of a call to the store of tokens. -/
def tokenCallName : TokenCall → String
  | .create _ => "tokens.create"
  | .findBySecret _ => "tokens.find_by_secret"
  | .blacklist _ => "tokens.blacklist"
  | .revokeIfActive _ => "tokens.revoke_if_active"
  | .deleteAllForUser _ => "tokens.delete_all_for_user"
  | .sweepExpired _ => "tokens.sweep_expired"

/-- The name under which a question is written down and scripted, if it is. -/
def callName? : Ask → Option String
  | .users _ call => some (userCallName call)
  | .tokens _ call => some (tokenCallName call)
  | .hash _ => some "hasher.hash"
  | .verify .. => some "hasher.verify"
  | .verifyDecoy _ => some "hasher.verify_dummy"
  | .draw _ => some "generator.generate"
  | .issue .. => some "codec.issue"
  | .parse .. => some "codec.parse"
  | .send _ m =>
    match m.kind with
    | .welcome => some "email.send_welcome"
    | .verification => some "email.send_verification"
  | .now | .permit _ | .log _ => none

/-! ## Replies -/

/-- Take the next fault of a name from a script. -/
def nextFault (name : String) : Script → Fault × Script
  | [] => (.none, [])
  | (n, fs) :: rest =>
    if n = name then
      match fs with
      | [] => (.none, (n, []) :: rest)
      | f :: fs => (f, (n, fs) :: rest)
    else
      let (f, rest) := nextFault name rest
      (f, (n, fs) :: rest)

/-- A look-up that finds nothing. -/
def nothingFound? : (call : UserCall) → Option call.Answer
  | .findById _ => some none
  | .findByEmail _ => some none
  | .existsByEmail _ => some false
  | .create _ | .update _ => none

/-- A look-up that finds nothing. -/
def noToken? : (call : TokenCall) → Option call.Answer
  | .findBySecret _ => some none
  | .revokeIfActive _ => some false
  | .create _ | .blacklist _ | .deleteAllForUser _ | .sweepExpired _ => none

/-- How long a call keeps its caller waiting. -/
def waiting (limit : Span) : Fault → Span
  | .stall => limit
  | .delay wait => if wait.nanos ≤ limit.nanos then wait else limit
  | _ => ⟨0⟩

/-- How long a question keeps its asker waiting. -/
def wait : Ask → Fault → Span
  | .users limit _, f => waiting limit f
  | .tokens limit _, f => waiting limit f
  | .send limit _, f => waiting limit f
  | _, _ => ⟨0⟩

/-- A call under a fault: `perform` is the call itself, and `nothing` the answer that finds
    nothing. -/
def underFault {α : Type} (limit : Span) (f : Fault) (nothing : Option α)
    (perform : World → Except StoreError α × World) (w : World) :
    Option (Except StoreError α) × World :=
  let performed (w : World) := let (r, w) := perform w; (some r, w)
  match f with
  | .stall => (none, w)
  | .delay wait => if wait.nanos ≤ limit.nanos then performed w else (none, w)
  | .fail e => (some (.error e), w)
  | .absent =>
    match nothing with
    | some a => (some (.ok a), w)
    | none => performed w
  | .before changes => performed (applyAll w changes)
  | .after changes => let (r, w) := performed w; (r, applyAll w changes)
  | _ => performed w

/-- Call the store of accounts. -/
def performUser (call : UserCall) (w : World) : Except StoreError call.Answer × World :=
  let (r, users) := w.users.perform call
  (r, { w with users })

/-- Call the store of tokens. -/
def performToken (call : TokenCall) (w : World) : Except StoreError call.Answer × World :=
  let (r, tokens) := w.tokens.perform call
  (r, { w with tokens })

/-- Hand a mail over. -/
def deliver (limit : Span) (m : Mail) (f : Fault) (w : World) :
    Option (Except MailError Unit) × World :=
  let delivered := (some (.ok ()), { w with mails := w.mails ++ [m] })
  match f with
  | .stall => (none, w)
  | .delay wait => if wait.nanos ≤ limit.nanos then delivered else (none, w)
  | .refuse reason => (some (.error (.deliveryFailed reason)), w)
  | _ => delivered

/-- The numbered secret that is drawn after `n` others. -/
def numbered (n bytes : Nat) : String :=
  "gen-" ++ String.ofList (Text.padded 4 (n + 1)) ++ "-" ++ Text.decimal bytes

/-- Draw a secret. -/
def drawOne (bytes : Nat) (f : Fault) (w : World) : Except AuthError String × World :=
  match f with
  | .refuse reason => (.error (.internal reason), w)
  | .value text => (.ok text, w)
  | _ => (.ok (numbered w.drawn bytes), { w with drawn := w.drawn + 1 })

/-- Issue an access token. -/
def issueOne (w : World) (id : UserId) (email : EmailAddress) (name : Username) (now : Instant) :
    Fault → Except Overflow (Except AccessTokenError Jwt.Issued)
  | .refuse reason => .ok (.error (.signingFailed reason))
  | _ => (w.signer.issue id.text email.text name.text now).map .ok

/-- Write a question down, and find out what the script makes of it. -/
def World.enter (w : World) (q : Ask) : Fault × World :=
  match callName? q with
  | some name =>
    let (f, script) := nextFault name w.script
    (f, { w with script, calls := w.calls ++ [name] })
  | none => (.none, w)

/-- The reply to a question under a fault, once the waiting is over. -/
def World.leave (w : World) (f : Fault) : (q : Ask) → q.Reply × World
  | .now => (w.clock, w)
  | .users limit call => underFault limit f (nothingFound? call) (performUser call) w
  | .tokens limit call => underFault limit f (noToken? call) (performToken call) w
  | .hash password =>
    match f with
    | .refuse reason => (.error (.internal reason), w)
    | _ => ((w.hashing.hash password).mapError fun e => .internal e.message, w)
  | .verify password digest => (w.hashing.verify password digest, w)
  | .verifyDecoy password => (w.hashing.verifyDecoy password, w)
  | .draw bytes => drawOne bytes f w
  | .issue id email name now => (issueOne w id email name now f, w)
  | .parse token now =>
    ((w.signer.identify token now).mapError Jwt.Error.toAccessTokenError, w)
  | .send limit m => deliver limit m f w
  | .permit client =>
    let (admitted, limiter) := w.limiter.check client w.reading
    (admitted, { w with limiter })
  | .log event => ((), { w with events := w.events ++ [event] })

/-- Reply to a question. -/
def World.reply (q : Ask) (w : World) : q.Reply × World :=
  let (f, w) := w.enter q
  { w with waited := ⟨w.waited.nanos + (wait q f).nanos⟩ }.leave f q

/-- Run an operation in the world. -/
def World.run {ε α : Type} (w : World) (operation : Flow ε α) : Ending ε α × World :=
  operation.run World.reply w

/-- The world with a script and an empty record. -/
def World.afresh (w : World) (script : Script) : World :=
  { w with script, calls := [], mails := [], events := [], waited := ⟨0⟩ }

end Gatehouse.Trial
