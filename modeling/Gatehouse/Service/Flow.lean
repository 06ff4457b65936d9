/-
  Gatehouse — operations as data.

  An operation of the service asks its surroundings one thing at a time: a store, the
  clock, the hasher, the sender of mail. A `Flow` is such an operation as a value: it is
  over, or it has a question and a continuation for every reply. Who replies is not fixed.
  A flow can be run to its end against a state (`Flow.run`), and the flows of several
  callers can take turns at the same stores, one question at a time.

  * `Flow` is a monad with failures of a type `ε`; `Flow.attempt` turns a failure into a
    value.
  * `Flow.run` folds a flow with a handler of questions.
-/
import Gatehouse.Jwt.Signer
import Gatehouse.Service.Event
import Gatehouse.Store.Tokens
import Gatehouse.Store.Users

namespace Gatehouse

/-- A mail to the owner of an account. -/
structure Mail where
  kind : MailKind
  address : EmailAddress
  name : Username
  /-- The secret that a verification mail carries. -/
  secret : String := ""
deriving DecidableEq, Repr

/-- What an operation asks of its surroundings. -/
inductive Ask
  /-- The time of day. -/
  | now
  /-- A call to the store of accounts, with the time to wait for an answer. -/
  | users (limit : Span) (call : UserCall)
  /-- A call to the store of tokens, with the time to wait for an answer. -/
  | tokens (limit : Span) (call : TokenCall)
  /-- A fresh digest of a password. -/
  | hash (password : String)
  /-- Whether a password matches a digest. -/
  | verify (password digest : String)
  /-- The work of one match without a digest. -/
  | verifyDecoy (password : String)
  /-- A text made of a number of random bytes. -/
  | draw (bytes : Nat)
  /-- A fresh access token. -/
  | issue (id : UserId) (email : EmailAddress) (name : Username) (now : Instant)
  /-- The identity in an access token. -/
  | parse (token : String) (now : Instant)
  /-- Hand a mail over, with the time to wait for that. -/
  | send (limit : Span) (mail : Mail)
  /-- Whether a client may make one more attempt. -/
  | permit (client : String)
  /-- Write a line to the log. -/
  | log (event : Event)

/-- The reply to a question; `none` is no answer in time. -/
abbrev Ask.Reply : Ask → Type
  | now => Instant
  | users _ call => Option (Except StoreError call.Answer)
  | tokens _ call => Option (Except StoreError call.Answer)
  | hash _ => Except AuthError String
  | verify _ _ => Bool
  | verifyDecoy _ => Bool
  | draw _ => Except AuthError String
  | issue .. => Except Overflow (Except AccessTokenError Jwt.Issued)
  | parse _ _ => Except AccessTokenError Jwt.Identity
  | send _ _ => Option (Except MailError Unit)
  | permit _ => Bool
  | log _ => Unit

/-- An operation that ends with an `α`, fails with an `ε`, or is given up. -/
inductive Flow (ε α : Type) where
  | done (a : α)
  | fail (e : ε)
  | crash (o : Overflow)
  | ask (q : Ask) (k : q.Reply → Flow ε α)

/-- How a flow ended. -/
inductive Ending (ε α : Type) where
  | done (a : α)
  | failed (e : ε)
  | crashed (o : Overflow)
deriving DecidableEq, Repr

namespace Flow

variable {ε ε' α β σ : Type}

/-- Go on with the result of a flow. -/
def bind (f : α → Flow ε β) : Flow ε α → Flow ε β
  | done a => f a
  | fail e => fail e
  | crash o => crash o
  | ask q k => ask q fun r => (k r).bind f

instance : Monad (Flow ε) where
  pure := done
  bind m f := m.bind f

/-- A failure becomes a value. -/
def attempt : Flow ε α → Flow ε' (Except ε α)
  | done a => done (.ok a)
  | fail e => done (.error e)
  | crash o => crash o
  | ask q k => ask q fun r => (k r).attempt

/-- Go on after a failure. -/
def handle (h : ε → Flow ε' α) : Flow ε α → Flow ε' α
  | done a => done a
  | fail e => h e
  | crash o => crash o
  | ask q k => ask q fun r => (k r).handle h

/-- Restate the failure. -/
def mapFailure (f : ε → ε') (m : Flow ε α) : Flow ε' α := m.handle fun e => fail (f e)

/-- A result that is already known. -/
def ofExcept : Except ε α → Flow ε α
  | .ok a => done a
  | .error e => fail e

/-- The value, or a failure where there is none. -/
def ofOption (e : ε) : Option α → Flow ε α
  | some a => done a
  | none => fail e

/-- Ask one question. -/
def request (q : Ask) : Flow ε q.Reply := ask q done

/-- Write a line to the log. -/
def log (event : Event) : Flow ε Unit := ask (.log event) fun _ => done ()

/-- Run a flow to its end, with a handler that replies to questions from a state. -/
def run (handler : (q : Ask) → σ → q.Reply × σ) : Flow ε α → σ → Ending ε α × σ
  | done a, s => (.done a, s)
  | fail e, s => (.failed e, s)
  | crash o, s => (.crashed o, s)
  | ask q k, s =>
    let (r, s) := handler q s
    run handler (k r) s

/-! ## Laws -/

@[simp]
theorem bind_done (a : α) (f : α → Flow ε β) : (done a >>= f) = f a := rfl

@[simp]
theorem bind_fail (e : ε) (f : α → Flow ε β) : (fail e >>= f) = fail e := rfl

@[simp]
theorem bind_crash (o : Overflow) (f : α → Flow ε β) : (crash o >>= f) = crash o := rfl

@[simp]
theorem bind_ask (q : Ask) (k : q.Reply → Flow ε α) (f : α → Flow ε β) :
    (ask q k >>= f) = ask q fun r => k r >>= f := rfl

theorem bind_done_right (m : Flow ε α) : (m >>= done) = m := by
  induction m with
  | done a => rfl
  | fail e => rfl
  | crash o => rfl
  | ask q k ih => rw [bind_ask]; congr; funext r; exact ih r

theorem bind_assoc {γ : Type} (m : Flow ε α) (f : α → Flow ε β) (g : β → Flow ε γ) :
    (m >>= f >>= g) = m >>= fun a => f a >>= g := by
  induction m with
  | done a => rfl
  | fail e => rfl
  | crash o => rfl
  | ask q k ih => simp only [bind_ask]; congr; funext r; exact ih r

instance : LawfulMonad (Flow ε) :=
  LawfulMonad.mk' (Flow ε) (fun m => bind_done_right m) (fun _ _ => rfl) bind_assoc

/-- Running a sequence runs the first part, and then the second from where it ended. -/
theorem run_bind (handler : (q : Ask) → σ → q.Reply × σ) (m : Flow ε α) (f : α → Flow ε β)
    (s : σ) :
    (m >>= f).run handler s =
      match m.run handler s with
      | (.done a, s) => (f a).run handler s
      | (.failed e, s) => (.failed e, s)
      | (.crashed o, s) => (.crashed o, s) := by
  induction m generalizing s with
  | done a => rfl
  | fail e => rfl
  | crash o => rfl
  | ask q k ih => exact ih (handler q s).1 (handler q s).2

end Flow

end Gatehouse
