/-
  Gatehouse — failed logins look alike.

  A login is turned down because the address is malformed, because nobody has it, or because the
  password does not match. The three ways through the service differ in what they look up and in
  what they log; they do not differ in how often the hasher is asked, in what is left in the stores,
  or in the answer.

  * `Flow.run_counting`: a run that counts the questions to the hasher is the run that does not, and
    counts those that are on its record;
  * `Service.run_login`: how a login that is turned down ends, whatever the decoy came to;
  * `Http.failed_logins_alike`: two such logins, in any two stores, are answered alike.
-/
import Gatehouse.Proofs.Deeds
import Gatehouse.Proofs.Handling
import Gatehouse.Proofs.Outages
import Gatehouse.Proofs.Pairing

namespace Gatehouse

/-! ## Counting the work of the hasher -/

/-- The question is for the hasher. -/
def Ask.hashes : Ask → Bool
  | .hash _ | .verify _ _ | .verifyDecoy _ => true
  | _ => false

namespace Flow

variable {ε α σ : Type}

/-- How often a flow asks the hasher. -/
def hashings (m : Flow ε α) (handler : (q : Ask) → σ → q.Reply × σ) (s : σ) : Nat :=
  (m.record handler s).countP (·.ask.hashes)

/-- Answer a question, and count it if it is for the hasher. -/
def counting (handler : (q : Ask) → σ → q.Reply × σ) (q : Ask) : σ × Nat → q.Reply × σ × Nat
  | (s, n) => ((handler q s).1, (handler q s).2, if q.hashes then n + 1 else n)

theorem run_counting (handler : (q : Ask) → σ → q.Reply × σ) (m : Flow ε α) (s : σ) (n : Nat) :
    m.run (counting handler) (s, n) =
      ((m.run handler s).1, (m.run handler s).2, n + m.hashings handler s) := by
  unfold hashings
  induction m generalizing s n with
  | done a => rfl
  | fail e => rfl
  | crash x => rfl
  | ask q k ih =>
    simp only [run, record, counting, ih, List.countP_cons]
    cases q.hashes with
    | true => simp only [if_true, Nat.add_assoc, Nat.add_comm 1]
    | false => simp

end Flow

/-! ## The service -/

/-- A login is to be turned down: the address is malformed, or nobody has it, or the password does
    not match the digest of the account, which may be deactivated. -/
inductive TurnedDown (o : Surroundings) (d : UserStore) (email password : String) : Prop
  | malformed {e} : EmailAddress.ofText email = .error e → TurnedDown o d email password
  | unknown {address} : EmailAddress.ofText email = .ok address → d.findByEmail address = none →
      TurnedDown o d email password
  | mismatch {u} : d.Reaches email u → (∀ n, o.reply n (.verify password u.passwordHash) = false) →
      TurnedDown o d email password

/-- The surroundings, in which the work of a match without a digest comes to a given answer. -/
def Surroundings.decoyed (o : Surroundings) (answer : Bool) : Surroundings where
  reply
    | _, .verifyDecoy _ => answer
    | n, q => o.reply n q
  fate := o.fate

/-- Where nobody has the address, a login is turned down whatever the decoy comes to. -/
theorem TurnedDown.decoyed {o : Surroundings} {d : UserStore} {email password : String}
    (h : TurnedDown o d email password) (hnobody : ∀ u, ¬ d.Reaches email u) (answer : Bool) :
    TurnedDown (o.decoyed answer) d email password := by
  cases h with
  | malformed he => exact .malformed he
  | unknown ha hnone => exact .unknown ha hnone
  | mismatch hreaches _ => exact absurd hreaches (hnobody _)

namespace Service

open Gatehouse.Flow

variable {o : Surroundings} {s : Scene} {email password : String}

/-- The account of an address is looked up in the store, and no hasher is asked for that. -/
theorem run_findAccount (cfg : Settings) (ho : o.Serves) {address : EmailAddress}
    (ha : EmailAddress.ofText email = .ok address) (n : Nat) :
    (findAccount cfg email).run (counting (Scene.next o)) (s, n) =
      (.done (s.users.findByEmail address), { s with moment := s.moment + 1 }, n) := by
  have hreply : counting (Scene.next o) (.users cfg.storageLimit (.findByEmail address)) (s, n) =
      (some (.ok (s.users.findByEmail address)), { s with moment := s.moment + 1 }, n) := by
    simp only [counting, Scene.next, Stores.serve, ho _]
    rfl
  unfold findAccount users tryUsers
  rw [ha]
  dsimp only
  rw [run_mapFailure, run, hreply]
  rfl

/-- A password that does not match a digest is one question to the hasher. -/
theorem run_verify {digest : String} (hverify : ∀ n, o.reply n (.verify password digest) = false)
    (n : Nat) : (verify password (some digest)).run (counting (Scene.next o)) (s, n) =
      (.done false, { s with moment := s.moment + 1 }, n + 1) := by
  rw [← hverify s.moment]
  rfl

/-- **A login that is turned down asks the hasher once, and ends as all of them do.** -/
theorem run_login (cfg : Settings) (ho : o.Serves) (h : TurnedDown o s.users email password)
    (n : Nat) : ∃ s' : Scene, (login cfg email password).run (counting (Scene.next o)) (s, n) =
        (.failed .invalidCredentials, s', n + 1) ∧ s'.toStores = s.toStores := by
  unfold login
  rw [run_bind]
  cases h with
  | malformed he =>
    unfold findAccount
    rw [he]
    exact ⟨_, rfl, rfl⟩
  | unknown ha hnone =>
    rw [run_findAccount cfg ho ha, hnone]
    exact ⟨_, rfl, rfl⟩
  | @mismatch u hreaches hverify =>
    rw [run_findAccount cfg ho hreaches.address, hreaches.found]
    dsimp only
    rw [run_bind, run_verify hverify]
    exact ⟨_, rfl, rfl⟩

end Service

/-! ## The interface -/

namespace Http

open Gatehouse.Flow

/-- A request to log in, within the attempt budget and while the stores work, that is to be turned
    down. -/
structure FailedLogin (o : Surroundings) (s : Scene) (r : Request) (email password : String) :
    Prop where
  method : r.method = "POST"
  path : r.path = "/api/auth/login"
  body : readBody loginRecord.read r = .ok (email, password)
  permitted : ∀ n, o.reply n (.permit (clientKey r.headers r.peer)) = true
  serves : o.Serves
  failure : TurnedDown o s.users email password

/-- The one answer to logins that are turned down. -/
def turnedDown : Response :=
  ((Refusal.ofAuth .invalidCredentials).response.onRoute .login "POST").forAnyOrigin

section

variable {o : Surroundings} {s : Scene} {r : Request} {email password : String}

/-- **A login that is turned down gets the one answer, after one question to the hasher.** -/
theorem FailedLogin.run (h : FailedLogin o s r email password) (cfg : Settings) :
    ∃ s' : Scene, (respond cfg r).run (counting (Scene.next o)) (s, 0) =
      (.done turnedDown, s', 1) ∧ s'.toStores = s.toStores := by
  have hoptions : r.method ≠ "OPTIONS" := by
    rw [h.method]
    decide
  have hroute : Route.ofPath? r.path = some .login := by
    rw [h.path]
    rfl
  have hguarded : guarded cfg r .login = withinBudget r (respondWith refuse
      (fun l => (Success.mk 200 l).response loginDoc) (Service.login cfg email password)) := by
    unfold guarded login withBody
    rw [h.body, h.method]
    rfl
  obtain ⟨s', hlogin, hs'⟩ := Service.run_login cfg (s := { s with moment := s.moment + 1 + 1 })
    h.serves h.failure 0
  have hrefused : (respondWith refuse (fun l => (Success.mk 200 l).response loginDoc)
      (Service.login cfg email password)).run (counting (Scene.next o))
        ({ s with moment := s.moment + 1 + 1 }, 0) =
      (.done (Refusal.ofAuth .invalidCredentials).response, s', 1) := by
    unfold respondWith
    rw [run_bind, run_attempt, hlogin]
    rfl
  have hpermit : counting (Scene.next o) (.permit (clientKey r.headers r.peer))
      ({ s with moment := s.moment + 1 }, 0) =
        (true, { s with moment := s.moment + 1 + 1 }, 0) := by
    rw [← h.permitted (s.moment + 1)]
    rfl
  have hstarted : started (counting (Scene.next o)) r (s, 0) =
      ({ s with moment := s.moment + 1 }, 0) := rfl
  refine ⟨{ s' with moment := s'.moment + 1 }, ?_, hs'⟩
  rw [run_respond hoptions hroute, hstarted, hguarded, h.method, run_withinBudget, hpermit]
  dsimp only
  rw [hrefused]
  rfl

/-- What becomes of a login that is turned down: the service says that the credentials are invalid,
    the client gets the one answer, and either way the hasher is asked once and the stores are as
    they were. -/
structure Fails (cfg : Settings) (o : Surroundings) (s : Scene) (r : Request)
    (email password : String) : Prop where
  error : ((Service.login cfg email password).run (Scene.next o) s).1 = .failed .invalidCredentials
  hashings : (Service.login cfg email password).hashings (Scene.next o) s = 1
  stores : ((Service.login cfg email password).run (Scene.next o) s).2.toStores = s.toStores
  answer : ((respond cfg r).run (Scene.next o) s).1 = .done turnedDown
  answerHashings : (respond cfg r).hashings (Scene.next o) s = 1
  answerStores : ((respond cfg r).run (Scene.next o) s).2.toStores = s.toStores

theorem FailedLogin.fails (h : FailedLogin o s r email password) (cfg : Settings) :
    Fails cfg o s r email password := by
  obtain ⟨s₁, hlogin, hs₁⟩ := Service.run_login cfg h.serves h.failure 0
  obtain ⟨s₂, hrespond, hs₂⟩ := h.run cfg
  rw [run_counting, Nat.zero_add] at hlogin hrespond
  simp only [Prod.mk.injEq] at hlogin hrespond
  obtain ⟨herror, hleft, honce⟩ := hlogin
  obtain ⟨hanswer, hleft', honce'⟩ := hrespond
  exact ⟨herror, honce, hleft ▸ hs₁, hanswer, honce', hleft' ▸ hs₂⟩

end

/-- **Failed logins look alike.** Of two logins that are turned down, in any two stores, each fails
    with invalid credentials after one question to the hasher, leaves the stores as they were, and
    gets the same response as the other. Where the address is malformed or unknown, that is so even
    if the match without a digest is told to have come out well. -/
theorem failed_logins_alike (cfg cfg' : Settings) {o o' : Surroundings} {s s' : Scene}
    {r r' : Request} {email password email' password' : String}
    (h : FailedLogin o s r email password) (h' : FailedLogin o' s' r' email' password') :
    Fails cfg o s r email password ∧ Fails cfg' o' s' r' email' password' ∧
      ((respond cfg r).run (Scene.next o) s).1 = ((respond cfg' r').run (Scene.next o') s').1 ∧
      ((∀ u, ¬ s.users.Reaches email u) →
        ∀ answer, Fails cfg (o.decoyed answer) s r email password) := by
  have hfails := h.fails cfg
  have hfails' := h'.fails cfg'
  refine ⟨hfails, hfails', hfails.answer.trans hfails'.answer.symm, ?_⟩
  intro hnobody answer
  have hdecoyed : FailedLogin (o.decoyed answer) s r email password :=
    ⟨h.method, h.path, h.body, h.permitted, h.serves, h.failure.decoyed hnobody answer⟩
  exact hdecoyed.fails cfg

/-- A request to log in with a body. -/
def knock (body : String) : Request :=
  ⟨"POST", "/api/auth/login", [⟨"Content-Type", "application/json"⟩], none, body.toUTF8.toList⟩

/-- No address at all on empty stores, and a wrong password for an account that is deactivated. -/
theorem failed_logins_alike_deactivated :
    let s : Scene := { Stores.empty with moment := 0 }
    let s' : Scene := { adasStores with users := ⟨[{ ada with isActive := false }]⟩, moment := 7 }
    let r := knock "\x7b\"email\":\"ada\",\"password\":\"Old-pass-1\"\x7d"
    let r' := knock "\x7b\"email\":\" Ada@Example.org\",\"password\":\"Wr0ng!Pass\"\x7d"
    FailedLogin .plain s r "ada" "Old-pass-1" ∧
      FailedLogin .plain s' r' " Ada@Example.org" "Wr0ng!Pass" ∧
      ((respond {} r).run (Scene.next .plain) s).1 =
        ((respond {} r').run (Scene.next .plain) s').1 ∧
      turnedDown.body = "\x7b\"status_code\":401,\"data\":" ++
        "\x7b\"message\":\"Invalid credentials\"\x7d\x7d" := by
  intro s s' r r'
  have hread : ∀ {r : Request} {x : String × String},
      (readBody loginRecord.read r).toOption = some x → readBody loginRecord.read r = .ok x := by
    intro r x hx
    cases hr : readBody loginRecord.read r with
    | ok y =>
      rw [hr] at hx
      exact congrArg _ (Option.some.inj hx)
    | error e =>
      rw [hr] at hx
      cases hx
  have h : FailedLogin .plain s r "ada" "Old-pass-1" := by
    refine ⟨rfl, by decide +kernel, hread (by decide +kernel), fun _ => rfl, fun _ => rfl, ?_⟩
    exact .malformed (e := .invalidFormat .noSeparator) (by decide +kernel)
  have h' : FailedLogin .plain s' r' " Ada@Example.org" "Wr0ng!Pass" := by
    refine ⟨rfl, by decide +kernel, hread (by decide +kernel), fun _ => rfl, fun _ => rfl, ?_⟩
    refine .mismatch (u := { ada with isActive := false }) ⟨by decide +kernel, by decide +kernel⟩ ?_
    intro n
    show (ada.passwordHash == digestOf "Wr0ng!Pass") = false
    decide +kernel
  exact ⟨h, h', (failed_logins_alike {} {} h h').2.2.1, by decide +kernel⟩

end Http

end Gatehouse
