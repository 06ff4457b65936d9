/-
  Gatehouse — confirming an address.

  Calls are made one after another, in calm surroundings, and the clock does not step back. A
  registration mails a token that confirms the address, and `resendVerification` mails another
  as long as the address waits for one. Each is good for a day, unless the calls since then
  have used it up, revoked it or replaced the password (`Task.Spends`, `Task.Rekeys`).

  * `State.Mailed`: where such a token comes from;
  * `State.Confirmations`: an address is noted as confirmed if some call has confirmed it;
  * `State.confirmation_follows`: what `verifyEmail` and `resendVerification` do follows from
    the calls before.
-/
import Gatehouse.Proofs.Accounts

namespace Gatehouse

section

variable {cfg : Settings} {o : Surroundings} {n : Nat} {d : Stores} {s' : Scene} {c : Call}
  {e : Ending c.Failure c.Value}

/-- A verification token is minted to be mailed, and is good for a day from then on. -/
theorem Deed.mailed (h : Deed cfg o n d s' c e) {t : Token} (ht : t ∈ s'.minted)
    (hk : t.kind = .verification) :
    c.mails = true ∧ t.createdAt ∈ s'.readings ∧
      t.createdAt.addSeconds? Service.verificationSeconds = some t.expiresAt := by
  obtain ⟨-, -, u, ⟨hmails, h₀⟩ | ⟨-, h₀⟩⟩ := h.mints ht
  · exact ⟨hmails, h₀.clock, h₀.expiry⟩
  · cases h₀.kind.symm.trans hk

/-- Who is confirmed has an account. -/
theorem Deed.confirms (h : Deed cfg o n d s' c e) {id : UserId}
    (hc : (⟨c, e.flow⟩ : Task).Confirms id) : ∃ u ∈ d.users.records, u.id = id := by
  cases h with
  | refused he => exact absurd hc (Task.not_confirms_of_refused he id)
  | confirmed _ _ hu hid => exact ⟨_, (UserStore.findById_eq hu).1, hid.symm.trans hc⟩
  | _ => cases hc

end

namespace State

/-- The `i`-th call has minted a verification token to be mailed, at a time of day that it has
    read. -/
structure Mailed (s : State) (i : Nat) (time : Instant) (t : Token) : Prop where
  minted : s.Minted i t
  kind : t.kind = .verification
  call : ∃ x, s.tasks[i]? = some x ∧ x.call.mails = true
  created : t.createdAt = time
  clock : time ∈ (historyOf i s.log).readings

/-- The calls say that a secret confirms an address at a time of day: it was mailed less than a day
    ago, and since then nobody has used it up, revoked it or replaced the password of its owner. -/
def Confirmable (cfg : Settings) (s : State) (secret : String) (now : Instant) : Prop :=
  ∃ i time t expiry, s.Mailed i time t ∧ t.secret = secret ∧
    time.addSeconds? Service.verificationSeconds = some expiry ∧ now < expiry ∧
    ∀ x ∈ s.tasks.drop (i + 1), ¬ x.Spends cfg .verification secret ∧ ¬ x.Rekeys t.userId

/-- Some call has confirmed the address of a user. -/
def Confirmed (s : State) (id : UserId) : Prop := ∃ x ∈ s.tasks, x.Confirms id

/-- Verification tokens were mailed, and are good for a day. -/
def Mails (s : State) : Prop :=
  ∀ i t, s.Minted i t → t.kind = .verification → s.Mailed i t.createdAt t ∧
    t.createdAt.addSeconds? Service.verificationSeconds = some t.expiresAt

/-- An address is noted as confirmed if and only if some call has confirmed it. -/
structure Confirmations (o : Surroundings) (s : State) : Prop where
  known : ∀ {id}, s.Confirmed id → o.DrawsIn 0 s.log.length id.text
  noted : ∀ u ∈ s.users.records, u.emailVerified = true ↔ s.Confirmed u.id

section

variable {cfg : Settings} {o : Surroundings} {s : State} {c : Call}
  {e : Ending c.Failure c.Value} {sc : Scene}

theorem Mails.next (h : s.Does cfg o c e sc) (hm : s.Mails) : (s.conduct cfg o c).Mails := by
  intro i t ht hk
  rcases h.minted_iff.1 ht with hold | ⟨rfl, hnew⟩
  · obtain ⟨⟨-, -, ⟨x, hx, hmails⟩, -, hclock⟩, hexpiry⟩ := hm i t hold hk
    exact ⟨⟨ht, hk, ⟨x, h.kept hx, hmails⟩, rfl, (h.readings _ _).2 (.inl hclock)⟩, hexpiry⟩
  · obtain ⟨hmails, hclock, hexpiry⟩ := h.deed.mailed hnew hk
    exact ⟨⟨ht, hk, ⟨_, h.latest, hmails⟩, rfl, (h.readings _ _).2 (.inr ⟨rfl, hclock⟩)⟩, hexpiry⟩

theorem mails (ho : o.Calm) (calls : List Call) : (sequence cfg o calls).Mails :=
  sequence_invariant ho (fun _ _ ht => absurd ht List.not_mem_nil) (fun _ h hm => Mails.next h hm)
    calls

theorem Conducted.confirmed_iff (h : s.Conducted cfg o c e sc) {id : UserId} :
    (s.conduct cfg o c).Confirmed id ↔ s.Confirmed id ∨ (⟨c, e.flow⟩ : Task).Confirms id := by
  simp only [Confirmed, h.tasks, List.mem_append, List.mem_singleton, or_and_right, exists_or,
    exists_eq_left]

theorem Confirmations.next (ho : o.Calm) (hs : s.toStores.Tidy o s.log.length)
    (h : s.Does cfg o c e sc) (hc : s.Confirmations o) :
    (s.conduct cfg o c).Confirmations o := by
  constructor
  · intro id hid
    rw [h.moment]
    rcases h.confirmed_iff.1 hid with hid | hid
    · exact (hc.known hid).mono le_rfl h.later
    · obtain ⟨u, hu, rfl⟩ := h.deed.confirms hid
      exact (hs.named u hu).mono le_rfl h.later
  · obtain ⟨rest, ⟨hback, -⟩, hcases⟩ := h.deed.users hs
    have hrest : ∀ u' ∈ rest.records, u'.emailVerified = true ↔
        (s.conduct cfg o c).Confirmed u'.id := by
      intro u' hu'
      obtain ⟨u, hu, hb⟩ := hback u' hu'
      rw [h.confirmed_iff, hb.confirmed, hc.noted u hu, hb.id]
    rw [h.stores]
    rcases hcases with ⟨husers, -⟩ | ⟨form, p, u, hx, -, hu, husers⟩ <;> rw [husers]
    · exact hrest
    · intro u' hu'
      rcases List.mem_append.1 hu' with hu' | hu'
      · exact hrest u' hu'
      obtain rfl := List.mem_singleton.1 hu'
      -- Nobody was confirmed under a name that has only now been drawn.
      rw [h.confirmed_iff, hx, hu.unconfirmed]
      refine iff_of_false Bool.false_ne_true (not_or.2 ⟨fun hid => ?_, not_false⟩)
      exact ho.ne_of_drawn hu.drawn (hc.known hid) rfl

theorem confirmations (ho : o.Calm) (calls : List Call) :
    (sequence cfg o calls).Confirmations o := by
  refine sequence_invariant ho ?_ (fun hs h hc => hc.next ho hs h) calls
  constructor <;> simp [Confirmed, start, Stores.empty]

/-- A verification token is accepted if and only if it can be presented. -/
theorem Does.verifies_iff {secret : String} {e}
    (h : s.Does cfg o (.verifyEmail secret) e sc) :
    s.Accepts cfg o (.verifyEmail secret) ↔
      ∃ t, s.toStores.Presents o s.log.length .verification secret t := by
  rw [h.accepts_iff]
  cases h.deed with
  | refused he hc => exact iff_of_false (fun ⟨v, hv⟩ => he v hv) hc
  | confirmed _ hp => exact iff_of_true ⟨_, rfl⟩ ⟨_, hp⟩

/-- Another token is mailed if and only if the address waits for it. -/
theorem Does.resends_iff {email : String} {e}
    (h : s.Does cfg o (.resendVerification email) e sc) {u : User}
    (hu : s.users.Reaches email u) : (∃ t, t ∈ sc.minted) ↔ u.emailVerified = false := by
  cases h.deed with
  | refused _ hc =>
    obtain ⟨e, he⟩ := hc
    cases he.symm.trans hu.address
  | resent hv hn _ _ _ hm =>
    obtain rfl := hu.unique hv
    exact iff_of_true ⟨_, hm ▸ List.mem_singleton_self _⟩ hn
  | skipped hv _ hm => simp [hm, hv u hu]

/-- What the calls say of a mailed token is what they say of any token. -/
theorem Mails.confirmable_iff (hm : s.Mails) {secret : String} {now : Instant} :
    s.Confirmable cfg secret now ↔
      ∃ i t, t.kind = .verification ∧ t.secret = secret ∧ s.Usable cfg now i t := by
  constructor
  · rintro ⟨i, time, t, expiry, ht, rfl, he, hnow, hsince⟩
    cases (ht.created ▸ (hm i t ht.minted ht.kind).2).symm.trans he
    exact ⟨i, t, ht.kind, rfl, ht.minted, hnow, fun x hx => ht.kind ▸ (hsince x hx).1,
      fun x hx => (hsince x hx).2⟩
  · rintro ⟨i, t, hk, rfl, h⟩
    obtain ⟨ht, he⟩ := hm i t h.minted hk
    exact ⟨i, t.createdAt, t, t.expiresAt, ht, rfl, he, h.unexpired,
      fun x hx => ⟨hk ▸ h.unspent x hx, h.current x hx⟩⟩

/-- Confirming an address follows the history of the calls. A verification token is accepted if
    and only if the calls say that it confirms; and an address is noted as confirmed, and no more
    tokens are mailed to it, if and only if some call has confirmed it. -/
theorem confirmation_follows (ho : o.Calm) (hc : o.Steady) (calls : List Call) :
    (∀ secret, (sequence cfg o calls).Accepts cfg o (.verifyEmail secret) ↔
      (sequence cfg o calls).Confirmable cfg secret ((sequence cfg o calls).clock o)) ∧
    ∀ u ∈ (sequence cfg o calls).users.records,
      (u.emailVerified = true ↔ (sequence cfg o calls).Confirmed u.id) ∧
      ∀ email, EmailAddress.ofText email = .ok u.email →
        ((∀ t, ¬ ((sequence cfg o calls).conduct cfg o (.resendVerification email)).Minted
          (sequence cfg o calls).tasks.length t) ↔ (sequence cfg o calls).Confirmed u.id) := by
  have hs : (sequence cfg o calls).toStores.Tidy o _ := sequence_tidy ho calls
  have hchronicle : (sequence cfg o calls).Chronicle cfg o := chronicle ho calls
  have hmails : (sequence cfg o calls).Mails := mails ho calls
  have hconfirmed : (sequence cfg o calls).Confirmations o := confirmations ho calls
  generalize sequence cfg o calls = s at *
  refine ⟨fun secret => ?_, fun u hu => ⟨hconfirmed.noted u hu, fun email he => ?_⟩⟩
  · obtain ⟨e, sc, h⟩ := does ho hs (.verifyEmail secret)
    rw [h.verifies_iff, hchronicle.presents_iff hc hs, hmails.confirmable_iff]
  · obtain ⟨e, sc, h⟩ := does ho hs (.resendVerification email)
    have hmints : ∀ t, (s.conduct cfg o (.resendVerification email)).Minted s.tasks.length t ↔
        t ∈ sc.minted := by
      intro t
      rw [h.minted_iff, and_iff_right rfl]
      exact or_iff_right fun ht => (hchronicle.known ht).1.ne rfl
    simp only [hmints]
    rw [← not_exists, h.resends_iff ⟨he, UserStore.findByEmail_mem hs.addressed hu⟩,
      ← hconfirmed.noted u hu, Bool.not_eq_false]

end

/-- An account is opened, and the first link that was mailed is revoked before a second one is
    mailed. -/
def mailing : State :=
  sequence {} .plain
    [.register adasForm, .logout (unary 8), .resendVerification "ada@example.org"]

theorem confirmation_follows_mailing :
    (Surroundings.plain.Calm ∧ Surroundings.plain.Steady) ∧
      mailing.Confirmable {} (unary 17) ⟨0, 0⟩ ∧ ¬ mailing.Confirmable {} (unary 8) ⟨0, 0⟩ ∧
      ∀ u ∈ mailing.users.records, ¬ mailing.Confirmed u.id := by
  have hsecond : mailing.Accepts {} .plain (.verifyEmail (unary 17)) := by decide +kernel
  have hfirst : ¬ mailing.Accepts {} .plain (.verifyEmail (unary 8)) := by decide +kernel
  have hwaits : ∀ u ∈ mailing.users.records, ¬ u.emailVerified = true := by decide +kernel
  have hfollows := @confirmation_follows {} .plain Surroundings.plain_calm Surroundings.plain_steady
    [.register adasForm, .logout (unary 8), .resendVerification "ada@example.org"]
  unfold mailing at *
  exact ⟨⟨Surroundings.plain_calm, Surroundings.plain_steady⟩, (hfollows.1 _).1 hsecond,
    fun h => hfirst ((hfollows.1 _).2 h),
    fun u hu h => hwaits u hu ((hfollows.2 u hu).1.2 h)⟩

end State

end Gatehouse
