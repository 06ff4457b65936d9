/-
  Gatehouse — what follows when an account is open.

  To open an account takes five exchanges at most: a look-up of the address, a digest, the time of
  day, an identifier, and the record that is added. Nothing that comes after them has a part in the
  answer, and until then no mail is handed over and the store of tokens is not called.

  * `Flow.Starts`: what a flow asks before it fails or comes to a point;
  * `Flow.Starts.alike`: such flows end alike in surroundings that are alike up to that point, as
    long as what follows ends in one way only;
  * `Service.ensures_welcome`: what follows when an account is open ends in one way only;
  * `Service.registered_whatever_follows`: a registration is answered alike whatever follows.
-/
import Gatehouse.Proofs.Outages
import Gatehouse.Proofs.Resending

namespace Gatehouse

/-! ## Flows that come to a point -/

/-- The question is neither for the store of tokens nor for the sender of mail. -/
def Ask.Early : Ask → Prop
  | .tokens .. => False
  | .send .. => False
  | _ => True

/-- A time of day is followed by a day that is representable. -/
def Ask.Roomy : (q : Ask) → q.Reply → Prop
  | .now, t => (t.addSeconds? Service.verificationSeconds).isSome = true
  | _, _ => True

/-- Before the moment `n` two surroundings are alike to early questions. -/
def Surroundings.AlikeUntil (o o' : Surroundings) (n : Nat) : Prop :=
  ∀ k < n, o'.fate k = o.fate k ∧ ∀ q : Ask, q.Early → o'.reply k q = o.reply k q

/-- An early question gets the same reply in surroundings that are alike, does the same to the
    accounts, and leaves the tokens as they are. -/
theorem Scene.next_early {o o' : Surroundings} {s s' : Scene} {n : Nat} {q : Ask} (hq : q.Early)
    (halike : o.AlikeUntil o' n) (hn : s.moment < n) (hmoment : s'.moment = s.moment)
    (husers : s'.users = s.users) :
    (Scene.next o' q s').1 = (Scene.next o q s).1 ∧
      (Scene.next o' q s').2.users = (Scene.next o q s).2.users ∧
      (Scene.next o q s).2.tokens = s.tokens := by
  obtain ⟨hfate, hreply⟩ := halike _ hn
  have hreplied : ∀ q : Ask, q.Early → o'.reply s'.moment q = o.reply s.moment q := by
    rwa [hmoment]
  cases q with
  | users limit c =>
    simp only [Scene.next, Stores.serve, hmoment, husers, hfate, true_and]
    split_ifs
    · exact ⟨rfl, rfl⟩
    · exact ⟨husers, rfl⟩
  | tokens limit c => exact hq.elim
  | send limit m => exact hq.elim
  | _ => exact ⟨hreplied _ hq, husers, rfl⟩

namespace Flow

variable {ε α : Type}

/-- The flow asks at most `n` early questions before it fails, or comes to a flow that satisfies
    `T`. -/
inductive Starts (T : Flow ε α → Prop) : Nat → Flow ε α → Prop
  | fail {n e} : Starts T n (.fail e)
  | reach {n m} : T m → Starts T n m
  | ask {n q k} : q.Early → (∀ r, q.Roomy r → Starts T n (k r)) → Starts T (n + 1) (.ask q k)

/-- In all surroundings the flow returns the same, and leaves the accounts as they are. -/
def Returns (m : Flow ε α) (a : α) : Prop :=
  ∀ (o : Surroundings) (s : Scene), m.Ensures o s fun e s' => e = .done a ∧ s'.users = s.users

variable {n : Nat} {m : Flow ε α} {o o' : Surroundings} {s s' : Scene}

/-- **Flows that come to a point from which on all is settled end alike**, if the surroundings are
    alike up to that point. If they fail, they have asked early questions only. -/
theorem Starts.alike (hm : m.Starts (fun m => ∃ a, m.Returns a) n)
    (hmoment : s'.moment = s.moment) (husers : s'.users = s.users)
    (halike : o.AlikeUntil o' (s.moment + n))
    (hroomy : ∀ x ∈ m.record (Scene.next o) s, x.ask.Roomy x.reply) :
    (m.run (Scene.next o') s').1 = (m.run (Scene.next o) s).1 ∧
      (m.run (Scene.next o') s').2.users = (m.run (Scene.next o) s).2.users ∧
      (∀ x, (m.run (Scene.next o) s).1 ≠ .crashed x) ∧
      ∀ e, (m.run (Scene.next o) s).1 = .failed e →
        (m.run (Scene.next o) s).2.tokens = s.tokens ∧
          ∀ x ∈ m.record (Scene.next o) s, x.ask.Early := by
  induction hm generalizing s s' with
  | fail =>
    refine ⟨rfl, husers, nofun, fun e _ => ⟨rfl, ?_⟩⟩
    intro x hx
    cases hx
  | reach hm =>
    obtain ⟨a, hreturns⟩ := hm
    obtain ⟨hdone, hkept⟩ := hreturns o s
    obtain ⟨hdone', hkept'⟩ := hreturns o' s'
    refine ⟨hdone'.trans hdone.symm, by rw [hkept, hkept', husers], ?_, ?_⟩
    · rw [hdone]
      nofun
    · rw [hdone]
      nofun
  | @ask n q k hq _ ih =>
    -- the first question is early, so that both runs get one reply and go on as one flow
    obtain ⟨hreply, husers', htokens⟩ :=
      Scene.next_early hq halike (Nat.lt_add_of_pos_right n.succ_pos) hmoment husers
    have hmoment' : (Scene.next o' q s').2.moment = (Scene.next o q s).2.moment :=
      congrArg (· + 1) hmoment
    have halike' : o.AlikeUntil o' ((Scene.next o q s).2.moment + n) := by
      show o.AlikeUntil o' (s.moment + 1 + n)
      rwa [Nat.add_right_comm]
    obtain ⟨hend, hafter, hanswers, hfailed⟩ :=
      ih _ (hroomy _ List.mem_cons_self) hmoment' husers' halike' fun x hx =>
        hroomy x (List.mem_cons_of_mem _ hx)
    simp only [run, record, hreply]
    refine ⟨hend, hafter, hanswers, fun e he => ?_⟩
    obtain ⟨hkept, hearly⟩ := hfailed e he
    refine ⟨hkept.trans htokens, fun x hx => ?_⟩
    rcases List.mem_cons.1 hx with rfl | hx
    · exact hq
    · exact hearly x hx

/-- Each time of day that is read is the one of some moment. -/
theorem reading_of_record {t : Instant} (h : (⟨.now, t⟩ : Exchange) ∈ m.record (Scene.next o) s) :
    ∃ n, t = o.reply n .now := by
  induction m generalizing s with
  | done a => cases h
  | fail e => cases h
  | crash x => cases h
  | ask q k ih =>
    rcases List.mem_cons.1 h with h | h
    · cases h
      exact ⟨s.moment, rfl⟩
    · exact ih _ h

end Flow

namespace Service

open Gatehouse.Flow

variable {cfg : Settings} {o : Surroundings} {s : Scene}

/-! ## When the account is open -/

/-- A token that is to be stored is or is not; the accounts stay as they are. -/
theorem ensures_tokens_any {c : TokenCall} {Ψ : Ending AuthError c.Answer → Scene → Prop}
    (hd : ∀ a (s' : Scene), s'.users = s.users → Ψ (.done a) s')
    (hf : ∀ e (s' : Scene), s'.users = s.users → Ψ (.failed e) s') :
    (tokens cfg c).Ensures o s Ψ := by
  refine ensures_mapFailure ?_
  have hkept : (Scene.next o (.tokens cfg.storageLimit c) s).2.users = s.users := by
    simp only [Scene.next, Stores.serve]
    split_ifs
    · rfl
    · rfl
  unfold tryTokens Ensures
  simp only [Flow.run]
  rcases (Scene.next o (.tokens cfg.storageLimit c) s).1 with _ | e | a
  · exact hf _ _ hkept
  · exact hf _ _ hkept
  · exact hd _ _ hkept

/-- Minting a link succeeds or fails, where there is time enough for it. -/
theorem ensures_sendVerification_any {u : User} {time expiry : Instant}
    {Ψ : Ending AuthError Unit → Scene → Prop}
    (hexpiry : time.addSeconds? verificationSeconds = some expiry)
    (hd : ∀ s' : Scene, s'.users = s.users → Ψ (.done ()) s')
    (hf : ∀ e (s' : Scene), s'.users = s.users → Ψ (.failed e) s') :
    (sendVerification cfg u time).Ensures o s Ψ := by
  refine ensures_bind (ensures_bind (ensures_draw_cases (fun e _ => hf e _ rfl) fun id _ => ?_))
  refine ensures_bind (ensures_draw_cases (fun e _ => hf e _ rfl) fun secret _ => ?_)
  simp only [hexpiry]
  refine ensures_bind (ensures_tokens_any (fun _ s' hs' => ?_) fun e s' hs' => hf e s' hs')
  exact ensures_bind (ensures_deliver fun n _ => ensures_log (hd _ hs'))

/-- What comes after the account is open: a welcome, and a link if one can be minted. -/
def welcome (cfg : Settings) (u : User) (time : Instant) : Flow AuthError Profile := do
  .log (.userRegistered u.id)
  deliver cfg u.id { kind := .welcome, address := u.email, name := u.name }
  match ← (sendVerification cfg u time).attempt with
  | .ok () => return u.profile
  | .error e =>
    .log (.verificationFailed u.id e)
    return u.profile

/-- **When the account is open the answer is settled.** -/
theorem ensures_welcome (cfg : Settings) {u : User} {time : Instant}
    (hroom : (time.addSeconds? verificationSeconds).isSome = true) :
    (welcome cfg u time).Returns u.profile := by
  intro o s
  obtain ⟨expiry, hexpiry⟩ := Option.isSome_iff_exists.1 hroom
  refine ensures_bind (ensures_log (ensures_bind (ensures_deliver fun n _ => ?_)))
  refine ensures_bind (ensures_attempt (ensures_sendVerification_any hexpiry ?_ ?_))
  · intro s' hs'
    exact ensures_done ⟨rfl, hs'⟩
  · intro e s' hs'
    exact ensures_bind (ensures_log (ensures_done ⟨rfl, hs'⟩))

/-! ## Registrations -/

/-- A registration asks five early questions at most before it fails or the account is open. -/
theorem register_starts (cfg : Settings) (form : Registration.Form) :
    (register cfg form).Starts (fun m => ∃ p, m.Returns p) 5 := by
  unfold register
  cases form.validate with
  | error e => exact .fail
  | ok valid =>
    -- the look-up, the digest, the time of day, the identifier and the record: each either fails or
    -- is followed by the next one
    refine .ask trivial fun taken? _ => ?_
    rcases taken? with _ | e | taken
    · exact .fail
    · exact .fail
    cases taken with
    | true => exact .fail
    | false =>
      refine .ask trivial fun digest? _ => ?_
      cases digest? with
      | error e => exact .fail
      | ok digest =>
        refine .ask trivial fun time hroom => ?_
        refine .ask trivial fun id? _ => ?_
        cases id? with
        | error e => exact .fail
        | ok id =>
          refine .ask trivial fun created? _ => ?_
          rcases created? with _ | e | created
          · exact .fail
          · exact .fail
          · exact .reach ⟨_, ensures_welcome cfg hroom⟩

/-- **A registration is answered alike whatever follows when the account is open.** In surroundings
    that are alike for five exchanges, with the same accounts and any tokens, a registration whose
    time of day leaves room for a link ends alike and leaves the same accounts, whatever becomes of
    the welcome, of the link, of the store of tokens and of the mails. It is never given up, and if
    it fails no mail was handed over and no token stored. -/
theorem registered_whatever_follows (cfg : Settings) (form : Registration.Form)
    {o o' : Surroundings} {s s' : Scene} (hmoment : s'.moment = s.moment)
    (husers : s'.users = s.users) (halike : o.AlikeUntil o' (s.moment + 5))
    (hroom : ∀ t, (⟨.now, t⟩ : Exchange) ∈ (register cfg form).record (Scene.next o) s →
      (t.addSeconds? verificationSeconds).isSome = true) :
    ((register cfg form).run (Scene.next o') s').1 = ((register cfg form).run (Scene.next o) s).1 ∧
      ((register cfg form).run (Scene.next o') s').2.users =
        ((register cfg form).run (Scene.next o) s).2.users ∧
      (∀ x, ((register cfg form).run (Scene.next o) s).1 ≠ .crashed x) ∧
      ∀ e, ((register cfg form).run (Scene.next o) s).1 = .failed e →
        ((register cfg form).run (Scene.next o) s).2.tokens = s.tokens ∧
          ∀ x ∈ (register cfg form).record (Scene.next o) s, x.ask.Early := by
  refine (register_starts cfg form).alike hmoment husers halike ?_
  rintro ⟨q, r⟩ hx
  cases q with
  | now => exact hroom r hx
  | _ => trivial

/-- After five exchanges nothing works any more. -/
def ebbing : Surroundings where
  reply n q :=
    if n < 5 then Surroundings.plain.reply n q
    else match q with
      | .draw _ => .error (.internal "no randomness")
      | .send .. => none
      | q => Surroundings.plain.reply n q
  fate n := if n < 5 then .served else .lost none false

theorem plain_alike_ebbing : Surroundings.plain.AlikeUntil ebbing 5 := by
  intro k hk
  refine ⟨if_pos hk, fun q _ => ?_⟩
  show (if k < 5 then _ else _) = _
  rw [if_pos hk]

/-- While nothing works after the account is open, it is open; and an address that is in use is
    refused before anything is mailed or minted. -/
theorem registered_whatever_follows_ebbing :
    let s : Scene := { Stores.empty with moment := 0 }
    let s' : Scene := { users := {}, tokens := adasStores.tokens, moment := 0 }
    let used : Scene := { adasStores with moment := 0 }
    (∀ t, (⟨.now, t⟩ : Exchange) ∈ (register {} adasForm).record (Scene.next .plain) s →
      (t.addSeconds? verificationSeconds).isSome = true) ∧
    ((register {} adasForm).run (Scene.next ebbing) s').2.users.records.map (·.id.text) =
      [unary 3] ∧
    ((register {} adasForm).run (Scene.next ebbing) used).1 = .failed .emailTaken ∧
    ∀ x ∈ (register {} adasForm).record (Scene.next .plain) used, x.ask.Early := by
  intro s s' used
  have hroom : ∀ s : Scene, ∀ t,
      (⟨.now, t⟩ : Exchange) ∈ (register {} adasForm).record (Scene.next .plain) s →
        (t.addSeconds? verificationSeconds).isSome = true := by
    intro s t ht
    obtain ⟨n, rfl⟩ := reading_of_record ht
    exact Option.isSome_iff_exists.2 (Surroundings.plain_calm.inRange n).2
  obtain ⟨-, husers, -, -⟩ :=
    @registered_whatever_follows {} adasForm .plain ebbing s s' rfl rfl plain_alike_ebbing (hroom s)
  obtain ⟨hend, -, -, hfailed⟩ :=
    @registered_whatever_follows {} adasForm .plain ebbing used used rfl rfl plain_alike_ebbing
      (hroom used)
  have htaken : ((register {} adasForm).run (Scene.next .plain) used).1 = .failed .emailTaken := by
    decide +kernel
  refine ⟨hroom s, ?_, hend.trans htaken, (hfailed _ htaken).2⟩
  rw [husers]
  decide +kernel

end Service

end Gatehouse
