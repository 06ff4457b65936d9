/-
  Gatehouse — what asking for another link tells of an address.

  Only an address that waits for its confirmation costs the generator and the store of tokens
  anything, so that their failures, and nothing else, can tell such an address from all others. The
  mail that goes out has no part in the answer.

  * `Service.ensures_storeToken_mints`: a token is minted if the generator draws twice and the store
    adds what is new to it;
  * `Http.resends`: the answer where no account waits for a link, where the link is minted, and
    where it is not;
  * `Http.resending_hides_iff`: all stores of accounts are answered alike exactly if a link would be
    minted.
-/
import Gatehouse.Proofs.Handling

namespace Gatehouse

/-! ## Minting -/

/-- From the moment `n` on a token is minted: two texts are drawn that no stored token has, and the
    store of tokens works. -/
def Surroundings.Mints (o : Surroundings) (n : Nat) (d : TokenStore) : Prop :=
  ∃ id secret, o.reply n (.draw OpaqueToken.standardBytes) = .ok id ∧
    o.reply (n + 1) (.draw OpaqueToken.standardBytes) = .ok secret ∧ o.fate (n + 2) = .served ∧
    ∀ t ∈ d.records, t.secret ≠ secret ∧ t.id ≠ id

namespace Service

open Gatehouse.Flow

variable {cfg : Settings} {o : Surroundings} {s : Scene}

theorem ensures_draw_cases {Ψ : Ending AuthError String → Scene → Prop}
    (hf : ∀ e, o.reply s.moment (.draw OpaqueToken.standardBytes) = .error e →
      Ψ (.failed e) { s with moment := s.moment + 1 })
    (hd : ∀ x, o.reply s.moment (.draw OpaqueToken.standardBytes) = .ok x →
      Ψ (.done x) { s with moment := s.moment + 1 }) : draw.Ensures o s Ψ := by
  unfold draw Ensures
  simp only [Flow.run, Scene.next, Stores.serve]
  cases hr : o.reply s.moment (.draw OpaqueToken.standardBytes) with
  | error e => exact hf e hr
  | ok x => exact hd x hr

/-- A token is added by a store that works and has none like it; else the call fails. -/
theorem ensures_create_cases {t : Token} {Ψ : Ending AuthError Unit → Scene → Prop}
    (hd : o.fate s.moment = .served →
      (∀ u ∈ s.tokens.records, u.secret ≠ t.secret ∧ u.id ≠ t.id) → ∀ s', Ψ (.done ()) s')
    (hf : ¬ (o.fate s.moment = .served ∧
      ∀ u ∈ s.tokens.records, u.secret ≠ t.secret ∧ u.id ≠ t.id) → ∀ e s', Ψ (.failed e) s') :
    (tokens cfg (.create t)).Ensures o s Ψ := by
  refine ensures_mapFailure ?_
  unfold tryTokens Ensures
  cases hfate : o.fate s.moment with
  | served =>
    cases hcreate : s.tokens.create t with
    | ok after =>
      have hp : s.tokens.perform (.create t) = (.ok (), after) := TokenStore.perform_create hcreate
      simp only [Flow.run, Scene.next, Stores.serve, hp, hfate, Fate.settle]
      exact hd hfate (TokenStore.new_of_create hcreate) _
    | error e =>
      have hp : s.tokens.perform (.create t) = (.error e, s.tokens) := by
        simp [TokenStore.perform, hcreate]
      simp only [Flow.run, Scene.next, Stores.serve, hp, hfate, Fate.settle]
      refine hf (fun h => ?_) _ _
      rw [TokenStore.create_new h.2] at hcreate
      cases hcreate
  | lost error carriedOut =>
    have hlost : ∀ e s', Ψ (.failed e) s' := hf fun h => by rw [hfate] at h; cases h.1
    simp only [Flow.run, Scene.next, Stores.serve, hfate, Fate.settle]
    cases error with
    | none => exact hlost _ _
    | some e => exact hlost _ _

/-- **A token is minted exactly if it can be.** -/
theorem ensures_storeToken_mints {u : User} {kind : TokenKind} {seconds : Nat}
    {time expiry : Instant} {Ψ : Ending AuthError Token → Scene → Prop}
    (hexpiry : time.addSeconds? seconds = some expiry)
    (hd : o.Mints s.moment s.tokens → ∀ t s', Ψ (.done t) s')
    (hf : ¬ o.Mints s.moment s.tokens → ∀ e s', Ψ (.failed e) s') :
    (storeToken cfg u kind seconds time).Ensures o s Ψ := by
  refine ensures_bind (ensures_draw_cases (fun e he => ?_) fun id hid => ?_)
  · refine hf (fun ⟨_, _, hid, _⟩ => ?_) _ _
    cases he.symm.trans hid
  refine ensures_bind (ensures_draw_cases (fun e he => ?_) fun secret hsecret => ?_)
  · refine hf (fun ⟨_, _, _, hsecret, _⟩ => ?_) _ _
    cases he.symm.trans hsecret
  simp only [hexpiry]
  refine ensures_bind (ensures_create_cases (fun hfate hnew s' => ?_) fun hused e s' => ?_)
  · exact hd ⟨id, secret, hid, hsecret, hfate, hnew⟩ _ _
  · refine hf (fun ⟨id', secret', hid', hsecret', hfate, hnew⟩ => hused ⟨hfate, ?_⟩) _ _
    cases hid.symm.trans hid'
    cases hsecret.symm.trans hsecret'
    exact hnew

/-- The account that waits for its address to be confirmed, if there is one. -/
def pending? (d : UserStore) (address : EmailAddress) : Option User :=
  (d.findByEmail address).filter isPending

/-- How asking for another link ends: it is done, unless an account waits for a link that cannot be
    minted. -/
inductive Resends (o : Surroundings) (s : Scene) (address : EmailAddress) :
    Ending AuthError Unit → Prop
  | done : (∀ u, pending? s.users address = some u → o.Mints (s.moment + 2) s.tokens) →
      Resends o s address (.done ())
  | failed {u e} : pending? s.users address = some u → ¬ o.Mints (s.moment + 2) s.tokens →
      Resends o s address (.failed e)

/-- **Asking for another link fails exactly where one has to be minted and cannot be.** -/
theorem ensures_resendVerification {email : String} {address : EmailAddress}
    (haddress : EmailAddress.ofText email = .ok address) (hserved : o.fate s.moment = .served)
    (hclock : ((o.reply (s.moment + 1) .now).addSeconds? verificationSeconds).isSome = true) :
    (resendVerification cfg email).Ensures o s fun e _ => Resends o s address e := by
  unfold resendVerification
  rw [haddress]
  have hlookup : ∀ {Φ : Ending AuthError (Option User) → Scene → Prop},
      Φ (.done (s.users.findByEmail address)) { s with moment := s.moment + 1 } →
        (users cfg (.findByEmail address)).Ensures o s Φ := by
    intro Φ h
    refine ensures_mapFailure ?_
    unfold tryUsers Ensures
    simp only [Flow.run, Scene.next, Stores.serve, UserStore.perform, hserved, Fate.settle]
    exact h
  refine ensures_bind (hlookup ?_)
  have hpending : (s.users.findByEmail address).filter isPending = pending? s.users address := rfl
  simp only [hpending]
  cases hu : pending? s.users address with
  | none =>
    refine ensures_log (.done fun u h => ?_)
    cases hu.symm.trans h
  | some u =>
    obtain ⟨expiry, hexpiry⟩ := Option.isSome_iff_exists.1 hclock
    refine ensures_bind (ensures_now (ensures_bind (ensures_storeToken_mints hexpiry ?_ ?_)))
    · intro hmints t s'
      exact ensures_bind (ensures_deliver fun n _ => ensures_log (.done fun _ _ => hmints))
    · intro hfails e s'
      exact .failed hu hfails

end Service

/-! ## The answers -/

namespace Http

open Gatehouse.Flow

/-- A request for another link to an address. -/
structure AsksAgain (r : Request) (address : EmailAddress) : Prop where
  method : r.method = "POST"
  path : r.path = Route.resendVerification.path
  body : ∃ email, readBody resendRecord.read r = .ok email ∧
    EmailAddress.ofText email = .ok address

/-- The response that says that a link was sent, if there was one to send. -/
def resent : Response :=
  ((noticed "If the address is awaiting verification, a new link has been sent").onRoute
    .resendVerification "POST").forAnyOrigin

/-- The response to a client that has used up the attempt budget. -/
def turnedAway : Response :=
  ((Refusal.tooMany "Too many attempts, try again later").response.onRoute .resendVerification
    "POST").forAnyOrigin

/-- No refusal of an operation has the status of a success. -/
theorem status_ofAuth_ne (e : AuthError) : (Refusal.ofAuth e).response.status ≠ 200 := by
  show (Refusal.ofAuth e).status ≠ 200
  cases e <;> simp [Refusal.ofAuth, Refusal.status]

section

variable {cfg : Settings} {o : Surroundings} {s : Scene} {r : Request} {address : EmailAddress}

theorem ensures_withinBudget {m : Flow Empty Response} {Ψ : Ending Empty Response → Scene → Prop}
    (hin : o.reply s.moment (.permit (clientKey r.headers r.peer)) = true →
      m.Ensures o { s with moment := s.moment + 1 } Ψ)
    (hout : o.reply s.moment (.permit (clientKey r.headers r.peer)) = false →
      ∀ s', Ψ (.done (Refusal.tooMany "Too many attempts, try again later").response) s') :
    (withinBudget r m).Ensures o s Ψ := by
  unfold Ensures at hin ⊢
  rw [run_withinBudget]
  have hpermit : Scene.next o (.permit (clientKey r.headers r.peer)) s =
      (o.reply s.moment (.permit (clientKey r.headers r.peer)),
        { s with moment := s.moment + 1 }) := rfl
  rw [hpermit]
  cases hreply : o.reply s.moment (.permit (clientKey r.headers r.peer)) with
  | true => exact hin hreply
  | false => exact hout hreply _

/-- The client is within the attempt budget when the request comes to it. -/
def Admitted (o : Surroundings) (s : Scene) (r : Request) : Prop :=
  o.reply (s.moment + 1) (.permit (clientKey r.headers r.peer)) = true

/-- How a request for another link is answered: beyond the attempt budget it is turned away; within
    it, the notice is the answer, unless an account waits for a link that cannot be minted. -/
inductive Resends (o : Surroundings) (s : Scene) (r : Request) (address : EmailAddress) :
    Ending Empty Response → Prop
  | turnedAway : ¬ Admitted o s r → Resends o s r address (.done turnedAway)
  | resent : Admitted o s r →
      (∀ u, Service.pending? s.users address = some u → o.Mints (s.moment + 4) s.tokens) →
      Resends o s r address (.done resent)
  | unsent {u p} : Admitted o s r → Service.pending? s.users address = some u →
      ¬ o.Mints (s.moment + 4) s.tokens → p.status ≠ 200 → Resends o s r address (.done p)

/-- **Each request for another link is answered in one of these ways.** -/
theorem resends (hr : AsksAgain r address) (hserved : o.fate (s.moment + 2) = .served)
    (hclock :
      ((o.reply (s.moment + 3) .now).addSeconds? Service.verificationSeconds).isSome = true) :
    Resends o s r address ((respond cfg r).run (Scene.next o) s).1 := by
  obtain ⟨email, hbody, haddress⟩ := hr.body
  have hguarded : guarded cfg r .resendVerification = withinBudget r (respondWith refuse
      (fun _ => noticed "If the address is awaiting verification, a new link has been sent")
      (Service.resendVerification cfg email)) := by
    unfold guarded resendVerification withBody
    rw [hbody, hr.method]
    rfl
  have hroute : Route.ofPath? r.path = some .resendVerification := by
    rw [hr.path, Route.ofPath?_path]
  -- the operation starts after two exchanges: a line of the log, and the attempt budget
  have hoperation := @Service.ensures_resendVerification cfg o
    { s with moment := s.moment + 1 + 1 } email address haddress hserved hclock
  generalize Service.resendVerification cfg email = operation at hguarded hoperation
  have hanswer : (respond cfg r).Ensures o s fun e _ => Resends o s r address e := by
    refine ensures_respond (by rw [hr.method]; decide) hroute ?_
    rw [hguarded, hr.method]
    refine ensures_withinBudget ?_ ?_
    · intro hin
      refine ensures_respondWith (hoperation.mono ?_)
      rintro e s' (hmints | ⟨hu, hfails⟩)
      · exact .resent hin hmints
      · refine ensures_refuse fun s'' _ => ?_
        exact .unsent hin hu hfails (status_ofAuth_ne _)
    · intro hout s'
      refine .turnedAway fun hin => ?_
      cases hout.symm.trans hin
  exact hanswer

/-- Beyond the attempt budget a request is turned away. -/
theorem answer_turnedAway (hr : AsksAgain r address) (hserved : o.fate (s.moment + 2) = .served)
    (hclock :
      ((o.reply (s.moment + 3) .now).addSeconds? Service.verificationSeconds).isSome = true)
    (hout : ¬ Admitted o s r) :
    ((respond cfg r).run (Scene.next o) s).1 = .done turnedAway := by
  have hanswer := @resends cfg o s r address hr hserved hclock
  generalize ((respond cfg r).run (Scene.next o) s).1 = e at hanswer ⊢
  cases hanswer with
  | turnedAway _ => rfl
  | resent hin _ => exact absurd hin hout
  | unsent hin _ _ _ => exact absurd hin hout

/-- Within it the notice is the answer, where no account waits for a link that cannot be minted. -/
theorem answer_resent (hr : AsksAgain r address) (hserved : o.fate (s.moment + 2) = .served)
    (hclock :
      ((o.reply (s.moment + 3) .now).addSeconds? Service.verificationSeconds).isSome = true)
    (hin : Admitted o s r)
    (hmints : ∀ u, Service.pending? s.users address = some u → o.Mints (s.moment + 4) s.tokens) :
    ((respond cfg r).run (Scene.next o) s).1 = .done resent := by
  have hanswer := @resends cfg o s r address hr hserved hclock
  generalize ((respond cfg r).run (Scene.next o) s).1 = e at hanswer ⊢
  cases hanswer with
  | turnedAway hout => exact absurd hin hout
  | resent _ _ => rfl
  | unsent _ hu hfails _ => exact absurd (hmints _ hu) hfails

/-- Where an account waits for a link that cannot be minted, the notice is not the answer. -/
theorem answer_ne_resent (hr : AsksAgain r address) (hserved : o.fate (s.moment + 2) = .served)
    (hclock :
      ((o.reply (s.moment + 3) .now).addSeconds? Service.verificationSeconds).isSome = true)
    {u : User} (hu : Service.pending? s.users address = some u)
    (hfails : ¬ o.Mints (s.moment + 4) s.tokens) :
    ((respond cfg r).run (Scene.next o) s).1 ≠ .done resent := by
  have hanswer := @resends cfg o s r address hr hserved hclock
  generalize ((respond cfg r).run (Scene.next o) s).1 = e at hanswer ⊢
  rintro rfl
  cases hanswer with
  | resent _ hmints => exact hfails (hmints u hu)
  | unsent _ _ _ hstatus => exact hstatus rfl

end

/-- An account that waits for its address to be confirmed. -/
def waiting (address : EmailAddress) : User := { ada with email := address }

theorem pending_waiting (address : EmailAddress) :
    Service.pending? ⟨[waiting address]⟩ address = some (waiting address) := by
  have hfind : UserStore.findByEmail ⟨[waiting address]⟩ address = some (waiting address) := by
    simp [UserStore.findByEmail, waiting]
  rw [Service.pending?, hfind]
  rfl

section

variable {cfg : Settings} {o : Surroundings} {n : Nat} {d : TokenStore} {r : Request}
  {address : EmailAddress}

/-- A link that cannot be minted tells an address that waits for one from an unknown one. -/
theorem answer_reveals (hr : AsksAgain r address) (hserved : o.fate (n + 2) = .served)
    (hclock : ((o.reply (n + 3) .now).addSeconds? Service.verificationSeconds).isSome = true)
    (hin : o.reply (n + 1) (.permit (clientKey r.headers r.peer)) = true)
    (hfails : ¬ o.Mints (n + 4) d) :
    ((respond cfg r).run (Scene.next o)
        { users := ⟨[waiting address]⟩, tokens := d, moment := n }).1 ≠
      ((respond cfg r).run (Scene.next o) { users := {}, tokens := d, moment := n }).1 := by
  have hunknown : ((respond cfg r).run (Scene.next o)
      { users := {}, tokens := d, moment := n }).1 = .done resent :=
    answer_resent hr hserved hclock hin fun u hu => by cases hu
  rw [hunknown]
  exact answer_ne_resent hr hserved hclock (pending_waiting address) hfails

end

/-- **Whether a new link can be minted is what hides an address.** For a request for another link,
    in given surroundings and with given tokens, all stores of accounts are answered alike if and
    only if the client is beyond the attempt budget, or the generator and the store of tokens would
    mint a link. The sender of mail has no part in it. -/
theorem resending_hides_iff (cfg : Settings) {o : Surroundings} {n : Nat} {d : TokenStore}
    {r : Request} {address : EmailAddress} (hr : AsksAgain r address)
    (hserved : o.fate (n + 2) = .served)
    (hclock : ((o.reply (n + 3) .now).addSeconds? Service.verificationSeconds).isSome = true) :
    (∀ users users' : UserStore,
      ((respond cfg r).run (Scene.next o) { users, tokens := d, moment := n }).1 =
        ((respond cfg r).run (Scene.next o) { users := users', tokens := d, moment := n }).1) ↔
    (o.reply (n + 1) (.permit (clientKey r.headers r.peer)) = true → o.Mints (n + 4) d) := by
  constructor
  · intro hsame hin
    by_contra hfails
    exact answer_reveals hr hserved hclock hin hfails (hsame _ _)
  · intro hmints users users'
    by_cases hin : o.reply (n + 1) (.permit (clientKey r.headers r.peer)) = true
    · have hresent : ∀ users : UserStore, ((respond cfg r).run (Scene.next o)
          { users, tokens := d, moment := n }).1 = .done resent := fun users =>
        answer_resent hr hserved hclock hin fun _ _ => hmints hin
      rw [hresent users, hresent users']
    · have hout : ∀ users : UserStore, ((respond cfg r).run (Scene.next o)
          { users, tokens := d, moment := n }).1 = .done turnedAway := fun users =>
        answer_turnedAway hr hserved hclock hin
      rw [hout users, hout users']

/-- A request for another link, with a body. -/
def again (body : String) : Request :=
  ⟨"POST", Route.resendVerification.path, [⟨"Content-Type", "application/json"⟩], none,
    body.toUTF8.toList⟩

/-- A request for another link to the address of an account. -/
def adasAgain : Request := again "\x7b\"email\":\" Ada@Example.org\"\x7d"

theorem adasAgain_asks : AsksAgain adasAgain ada.email :=
  ⟨rfl, by decide +kernel, " Ada@Example.org", ok_of_toOption (by decide +kernel),
    ok_of_toOption (by decide +kernel)⟩

/-- Surroundings in which the store of tokens fails as a link is to be stored. -/
def unminting : Surroundings :=
  { Surroundings.plain with
    fate := fun n => if n = 6 then .lost (some (.unavailable "down")) false else .served }

theorem unminting_mints_nothing : ¬ unminting.Mints 4 {} := by
  rintro ⟨_, _, _, _, hserved, _⟩
  cases hserved

/-- While all works, no store of accounts can be told from another; while no link can be stored,
    some can. -/
theorem resending_hides_iff_plain :
    (∀ users users' : UserStore,
      ((respond {} adasAgain).run (Scene.next .plain) { users, tokens := {}, moment := 0 }).1 =
        ((respond {} adasAgain).run (Scene.next .plain)
          { users := users', tokens := {}, moment := 0 }).1) ∧
    ¬ ∀ users users' : UserStore,
      ((respond {} adasAgain).run (Scene.next unminting) { users, tokens := {}, moment := 0 }).1 =
        ((respond {} adasAgain).run (Scene.next unminting)
          { users := users', tokens := {}, moment := 0 }).1 := by
  constructor
  · refine (resending_hides_iff {} adasAgain_asks rfl (by decide)).2 fun _ => ?_
    exact ⟨unary 4, unary 5, rfl, rfl, rfl, fun t ht => by cases ht⟩
  · intro hsame
    exact unminting_mints_nothing
      ((resending_hides_iff {} adasAgain_asks rfl (by decide)).1 hsame rfl)

/-- **An address is revealed.** While the store of tokens is down, the account that waits for its
    address to be confirmed is answered otherwise than nobody is. -/
theorem address_revealed :
    ((respond {} adasAgain).run (Scene.next unminting)
        { users := ⟨[ada]⟩, tokens := {}, moment := 0 }).1 ≠
      ((respond {} adasAgain).run (Scene.next unminting)
        { users := {}, tokens := {}, moment := 0 }).1 :=
  answer_reveals adasAgain_asks rfl (by decide) rfl unminting_mints_nothing

end Http

end Gatehouse
