/-
  Gatehouse — how long a token lives.

  Calls are made one after another, in calm surroundings. A token that a call has minted is
  usable until its expiry, unless one of the later calls has spent its secret
  (`Task.Spends`) or replaced the password of its owner (`Task.Rekeys`). The stores know no
  more and no less, whatever else was called and whenever tokens were swept.

  * `Deed.mints`, `Deed.survivors`, `Deed.survives`: all that a deed does to the tokens;
  * `State.Chronicle`: what is stored, and whether it is revoked, follows from the calls;
  * `State.Chronicle.presents_iff`: so does which secrets are accepted.
-/
import Gatehouse.Proofs.Deeds

namespace Gatehouse

/-! ## What brings a token about -/

/-- The call mails a token that confirms an address. -/
def Call.mails : Call → Bool
  | register _ => true
  | resendVerification _ => true
  | _ => false

/-- The refresh secret that a call has handed out, and the expiry that went with it. -/
def Task.grant? : Task → Option (String × Instant)
  | ⟨.login _ _, .done l⟩ => some (l.tokens.refreshSecret, l.tokens.refreshExpiresAt)
  | ⟨.refresh _, .done p⟩ => some (p.refreshSecret, p.refreshExpiresAt)
  | _ => none

section

variable {cfg : Settings} {o : Surroundings} {n : Nat} {d : Stores} {s' : Scene} {c : Call}
  {e : Ending c.Failure c.Value} {t : Token}

/-- A deed mints one token at most, and adds it: one that confirms an address is mailed, one that
    refreshes a session is handed out. -/
theorem Deed.mints (h : Deed cfg o n d s' c e) (ht : t ∈ s'.minted) :
    s'.minted = [t] ∧ t ∈ s'.tokens.records ∧ ∃ u,
      c.mails = true ∧ t.MintedFor o n s' u .verification Service.verificationSeconds ∨
      (⟨c, e.flow⟩ : Task).grant? = some (t.secret, t.expiresAt) ∧
        t.MintedFor o n s' u .refresh Service.refreshSeconds := by
  have hadded : ∀ {t' records}, s'.minted = [t'] → s'.tokens = ⟨records ++ [t']⟩ →
      t = t' ∧ s'.minted = [t'] ∧ t' ∈ s'.tokens.records := by
    intro t' records hm htokens
    rw [htokens]
    exact ⟨List.mem_singleton.1 (hm ▸ ht), hm, List.mem_append_right _ (List.mem_singleton_self t')⟩
  cases h with
  | refused _ _ _ hm | turnedAway _ _ hm | validated _ hm | skipped _ _ hm | kept _ _ _ _ _ hm
  | loggedOut _ _ hm | rekeyed _ _ _ _ hm | confirmed _ _ _ _ _ _ hm | swept _ _ hm =>
    rw [hm] at ht
    cases ht
  | registered _ h₀ _ htokens hm | resent _ _ h₀ _ htokens hm =>
    obtain ⟨rfl, hm, hmem⟩ := hadded hm htokens
    exact ⟨hm, hmem, _, .inl ⟨rfl, h₀⟩⟩
  | loggedIn _ _ h₀ _ hs he _ htokens hm | rotated _ _ _ h₀ hs he _ htokens hm =>
    obtain ⟨rfl, hm, hmem⟩ := hadded hm htokens
    refine ⟨hm, hmem, _, .inr ⟨?_, h₀⟩⟩
    rw [← hs, ← he]
    rfl

/-- The secret of what is minted in a deed is drawn in it. -/
theorem Deed.minted_new (h : Deed cfg o n d s' c e) (ht : t ∈ s'.minted) :
    o.DrawsIn n s'.moment t.secret ∧ t.revoked = false := by
  obtain ⟨-, -, u, ⟨-, h₀⟩ | ⟨-, h₀⟩⟩ := h.mints ht <;> exact ⟨h₀.secret, h₀.active⟩

end

/-! ## What ends a token -/

namespace Task

/-- The call has used up the secret of a token of a kind, or has revoked it. -/
def Spends (cfg : Settings) (kind : TokenKind) (secret : String) : Task → Prop
  | ⟨.logout other, _⟩ => other = secret
  | ⟨.refresh other, .done _⟩ => cfg.rotates = true ∧ kind = .refresh ∧ other = secret
  | ⟨.verifyEmail other, .done _⟩ => kind = .verification ∧ other = secret
  | _ => False

/-- The call has replaced the password of a user. -/
def Rekeys (id : UserId) : Task → Prop
  | ⟨.changePassword other _ _, .done _⟩ => other = id
  | _ => False

theorem not_rekeys_of_refused {c : Call} {e : Ending c.Failure c.Value} (h : ∀ v, e ≠ .done v)
    (id : UserId) : ¬ (⟨c, e.flow⟩ : Task).Rekeys id := by
  cases e with
  | done v => exact absurd rfl (h v)
  | failed | crashed => cases c <;> exact not_false

theorem not_spends_of_refused {cfg : Settings} {c : Call} {e : Ending c.Failure c.Value}
    (h : ∀ v, e ≠ .done v) (hc : ∀ secret, c ≠ .logout secret) (kind : TokenKind)
    (secret : String) : ¬ (⟨c, e.flow⟩ : Task).Spends cfg kind secret := by
  cases e with
  | done v => exact absurd rfl (h v)
  | failed | crashed =>
    cases c with
    | logout => exact absurd rfl (hc _)
    | _ => exact not_false

end Task

/-- The token `t` is still there after a call, as `t'`. -/
structure Token.Survives (cfg : Settings) (x : Task) (t t' : Token) : Prop where
  same : t' = { t with revoked := t'.revoked }
  kept : ¬ x.Rekeys t.userId
  revoked : t'.revoked = true ↔ t.revoked = true ∨ x.Spends cfg t.kind t.secret

theorem Token.survives_unspent {cfg : Settings} {x : Task} {t : Token}
    (hs : ¬ x.Spends cfg t.kind t.secret) (hr : ¬ x.Rekeys t.userId) : t.Survives cfg x t :=
  ⟨rfl, hr, by simp [hs]⟩

section

variable {cfg : Settings} {o : Surroundings} {n : Nat} {d : Stores} {s' : Scene} {c : Call}
  {e : Ending c.Failure c.Value} {t t' : Token}

/-- A call that has revoked a secret has spent it, and has spent no other. -/
theorem TokenStore.survivors_blacklist {s : TokenStore} {secret : String} {x : Task}
    (hx : ∀ t ∈ s.records, x.Spends cfg t.kind t.secret ↔ t.secret = secret)
    (hr : ∀ id, ¬ x.Rekeys id) (ht' : t' ∈ (s.blacklist secret).records) :
    ∃ t ∈ s.records, t.Survives cfg x t' := by
  obtain ⟨t, ht, rfl⟩ := TokenStore.mem_blacklist.1 ht'
  exact ⟨t, ht, rfl, hr _, by simp [hx t ht]⟩

/-- The presented token alone has its secret. -/
theorem Stores.Presents.spends_iff (hs : d.Tidy o n) {kind : TokenKind} {secret : String}
    (hp : d.Presents o n kind secret t) (ht' : t' ∈ d.tokens.records) :
    t'.kind = kind ∧ secret = t'.secret ↔ t'.secret = secret := by
  refine ⟨fun h => h.2.symm, fun h => ⟨?_, h.symm⟩⟩
  subst h
  rw [← hp.unique (TokenStore.findBySecret_mem hs.secrets ht')] at *
  exact hp.kind

/-- What is stored after a deed was minted in it, or was stored before. -/
theorem Deed.survivors (hs : d.Tidy o n) (h : Deed cfg o n d s' c e)
    (ht' : t' ∈ s'.tokens.records) :
    t' ∈ s'.minted ∨ ∃ t ∈ d.tokens.records, t.Survives cfg ⟨c, e.flow⟩ t' := by
  cases h with
  | refused he hc hd =>
    refine .inr ⟨t', hd ▸ ht', Token.survives_unspent ?_ (Task.not_rekeys_of_refused he _)⟩
    refine Task.not_spends_of_refused he (fun secret h => ?_) _ _
    subst h
    exact hc
  | turnedAway _ hd | validated hd | skipped _ hd =>
    exact .inr ⟨t', hd ▸ ht', Token.survives_unspent not_false not_false⟩
  | kept hr _ _ _ hd =>
    refine .inr ⟨t', hd ▸ ht', Token.survives_unspent (fun h => ?_) not_false⟩
    cases hr.symm.trans h.1
  | registered _ _ _ htokens hm | loggedIn _ _ _ _ _ _ _ htokens hm | resent _ _ _ _ htokens hm =>
    rw [htokens] at ht'
    rw [hm]
    exact (List.mem_append.1 ht').symm.imp_right fun ht =>
      ⟨t', ht, Token.survives_unspent not_false not_false⟩
  | loggedOut _ htokens =>
    rw [htokens] at ht'
    exact .inr (TokenStore.survivors_blacklist (fun t _ => eq_comm) (fun _ => not_false) ht')
  | rotated hr hp _ _ _ _ _ htokens hm =>
    rw [htokens] at ht'
    rw [hm]
    refine (List.mem_append.1 ht').symm.imp_right fun ht =>
      TokenStore.survivors_blacklist (fun t ht => ?_) (fun _ => not_false) ht
    exact (and_iff_right hr).trans (hp.spends_iff hs ht)
  | rekeyed _ _ _ htokens =>
    rw [htokens] at ht'
    obtain ⟨ht, hid⟩ := List.mem_filter.1 ht'
    refine .inr ⟨t', ht, Token.survives_unspent not_false fun h => ?_⟩
    have h : _ = t'.userId := h
    simp [TokenStore.isOwnedBy, h] at hid
  | confirmed _ hp _ _ _ htokens =>
    rw [htokens] at ht'
    exact .inr (TokenStore.survivors_blacklist (fun t ht => hp.spends_iff hs ht)
      (fun _ => not_false) ht')
  | swept _ htokens =>
    rw [htokens] at ht'
    exact .inr ⟨t', (List.mem_filter.1 ht').1, Token.survives_unspent not_false not_false⟩

/-- What was stored before a deed is still there, unless the owner's password was replaced or the
    expiry is past. -/
theorem Deed.survives (h : Deed cfg o n d s' c e) (ht : t ∈ d.tokens.records) :
    (∃ t' ∈ s'.tokens.records, t'.secret = t.secret) ∨ (⟨c, e.flow⟩ : Task).Rekeys t.userId ∨
      t.expiresAt < o.reply n .now := by
  have hblacklist : ∀ secret, ∃ t' ∈ (d.tokens.blacklist secret).records, t'.secret = t.secret :=
    fun secret => ⟨_, TokenStore.mem_blacklist.2 ⟨t, ht, rfl⟩, rfl⟩
  cases h with
  | refused _ _ hd | turnedAway _ hd | validated hd | skipped _ hd | kept _ _ _ _ hd =>
    exact .inl ⟨t, by rw [hd]; exact ht, rfl⟩
  | registered _ _ _ htokens | loggedIn _ _ _ _ _ _ _ htokens | resent _ _ _ _ htokens =>
    rw [htokens]
    exact .inl ⟨t, List.mem_append_left _ ht, rfl⟩
  | loggedOut _ htokens | confirmed _ _ _ _ _ htokens =>
    rw [htokens]
    exact .inl (hblacklist _)
  | @rotated secret _ _ _ _ _ _ _ _ _ _ _ htokens =>
    rw [htokens]
    obtain ⟨t', ht', hs⟩ := hblacklist secret
    exact .inl ⟨t', List.mem_append_left _ ht', hs⟩
  | @rekeyed id _ _ _ _ _ _ _ _ htokens =>
    rw [htokens]
    by_cases hid : t.userId = id
    · exact .inr (.inl hid.symm)
    · exact .inl ⟨t, List.mem_filter.2 ⟨ht, by simpa [TokenStore.isOwnedBy] using hid⟩, rfl⟩
  | swept _ htokens =>
    rw [htokens]
    by_cases he : t.expiresAt < o.reply n .now
    · exact .inr (.inr he)
    · have he : t.expiresAt.isBefore (o.reply n .now) = false := Instant.le_iff_not_lt.2 he
      exact .inl ⟨t, List.mem_filter.2 ⟨ht, by simp [TokenStore.isSwept, he]⟩, rfl⟩

end

/-! ## The history of a token -/

namespace State

/-- The `i`-th call has minted the token. -/
def Minted (s : State) (i : Nat) (t : Token) : Prop := t ∈ (historyOf i s.log).minted

/-- The calls say that a token is usable at a time of day: it was minted by the `i`-th call, its
    expiry is to come, and since then nobody has spent its secret or replaced the password of its
    owner. -/
structure Usable (cfg : Settings) (s : State) (now : Instant) (i : Nat) (t : Token) : Prop where
  minted : s.Minted i t
  unexpired : now < t.expiresAt
  unspent : ∀ x ∈ s.tasks.drop (i + 1), ¬ x.Spends cfg t.kind t.secret
  current : ∀ x ∈ s.tasks.drop (i + 1), ¬ x.Rekeys t.userId

/-- The calls say that a token is stored as it was minted, but for the mark, which is set if its
    secret was spent. -/
structure Remembers (cfg : Settings) (s : State) (t : Token) (i : Nat) (t₀ : Token) : Prop where
  minted : s.Minted i t₀
  same : t = { t₀ with revoked := t.revoked }
  current : ∀ x ∈ s.tasks.drop (i + 1), ¬ x.Rekeys t₀.userId
  revoked : t.revoked = true ↔ ∃ x ∈ s.tasks.drop (i + 1), x.Spends cfg t₀.kind t₀.secret

/-- What the calls say of the tokens is so. -/
structure Chronicle (cfg : Settings) (o : Surroundings) (s : State) : Prop where
  known : ∀ {i t}, s.Minted i t →
    i < s.tasks.length ∧ o.DrawsIn 0 s.log.length t.secret
  unique : ∀ {i j t u}, s.Minted i t → s.Minted j u → t.secret = u.secret → i = j ∧ t = u
  genuine : ∀ t ∈ s.tokens.records, ∃ i t₀, s.Remembers cfg t i t₀
  /-- A token that was minted is stored, unless the password was replaced or its expiry was past
      at some moment. -/
  stored : ∀ {i t₀}, s.Minted i t₀ → (∃ t ∈ s.tokens.records, t.secret = t₀.secret) ∨
    (∃ x ∈ s.tasks.drop (i + 1), x.Rekeys t₀.userId) ∨
      ∃ k ≤ s.log.length, t₀.expiresAt < o.reply k .now

section

variable {cfg : Settings} {o : Surroundings} {s : State} {c : Call}
  {e : Ending c.Failure c.Value} {sc : Scene}

theorem Conducted.minted_iff (h : s.Conducted cfg o c e sc) {i : Nat} {t : Token} :
    (s.conduct cfg o c).Minted i t ↔ s.Minted i t ∨ i = s.tasks.length ∧ t ∈ sc.minted :=
  h.minted i t

theorem Conducted.mem_since (h : s.Conducted cfg o c e sc) {i : Nat} (hi : i < s.tasks.length)
    {x : Task} :
    x ∈ (s.conduct cfg o c).tasks.drop (i + 1) ↔ x ∈ s.tasks.drop (i + 1) ∨ x = ⟨c, e.flow⟩ := by
  rw [h.since hi, List.mem_append, List.mem_singleton]

theorem Remembers.of_genuine (hc : s.Chronicle cfg o) {t t₀ : Token} {i : Nat}
    (ht : t ∈ s.tokens.records) (hm : s.Minted i t₀) (hs : t.secret = t₀.secret) :
    s.Remembers cfg t i t₀ := by
  obtain ⟨j, t₁, h⟩ := hc.genuine t ht
  have hs₁ : t.secret = t₁.secret := by rw [h.same]
  obtain ⟨rfl, rfl⟩ := hc.unique h.minted hm (hs₁.symm.trans hs)
  exact h

theorem Remembers.next (h : s.Does cfg o c e sc) (hc : s.Chronicle cfg o) {t t' t₀ : Token}
    {i : Nat} (hr : s.Remembers cfg t i t₀) (ht : t.Survives cfg ⟨c, e.flow⟩ t') :
    (s.conduct cfg o c).Remembers cfg t' i t₀ := by
  obtain ⟨hm, hsame, hcurrent, hrevoked⟩ := hr
  obtain ⟨hsame', hkept, hrevoked'⟩ := ht
  have hi := (hc.known hm).1
  have hsurvivor : t.userId = t₀.userId ∧ t.kind = t₀.kind ∧ t.secret = t₀.secret := by
    rw [hsame]
    exact ⟨rfl, rfl, rfl⟩
  obtain ⟨hu, hk, hs⟩ := hsurvivor
  refine ⟨h.minted_iff.2 (.inl hm), by rw [hsame', hsame], fun x hx => ?_, ?_⟩
  · rcases (h.mem_since hi).1 hx with hx | rfl
    · exact hcurrent x hx
    · rwa [hu] at hkept
  · rw [hrevoked', hrevoked, hk, hs]
    simp only [h.mem_since hi, or_and_right, exists_or, exists_eq_left]

theorem Chronicle.next (ho : o.Calm) (hs : s.toStores.Tidy o s.log.length)
    (h : s.Does cfg o c e sc) (hc : s.Chronicle cfg o) :
    (s.conduct cfg o c).Chronicle cfg o := by
  have hnew : ∀ {i t u}, s.Minted i t → u ∈ sc.minted → t.secret ≠ u.secret := fun ht hu =>
    ho.ne_of_drawn (h.deed.minted_new hu).1 (hc.known ht).2
  constructor
  case known =>
    intro i t ht
    rw [h.tasks, h.moment, List.length_append]
    rcases h.minted_iff.1 ht with hold | ⟨rfl, hm⟩
    · exact ⟨Nat.lt_add_right _ (hc.known hold).1, (hc.known hold).2.mono le_rfl h.later⟩
    · exact ⟨Nat.lt_succ_self _, (h.deed.minted_new hm).1.mono (Nat.zero_le _) le_rfl⟩
  case unique =>
    intro i j t u ht hu htu
    rcases h.minted_iff.1 ht with ht' | ⟨rfl, ht'⟩ <;>
      rcases h.minted_iff.1 hu with hu' | ⟨rfl, hu'⟩
    · exact hc.unique ht' hu' htu
    · exact absurd htu (hnew ht' hu')
    · exact absurd htu.symm (hnew hu' ht')
    · obtain ⟨hone, -⟩ := h.deed.mints hu'
      exact ⟨rfl, List.mem_singleton.1 (hone ▸ ht')⟩
  case genuine =>
    intro t' ht'
    rw [h.stores] at ht'
    rcases h.deed.survivors hs ht' with hm | ⟨t, ht, hsurvives⟩
    · refine ⟨s.tasks.length, t', h.minted_iff.2 (.inr ⟨rfl, hm⟩), rfl, ?_, ?_⟩ <;>
        rw [h.since_latest]
      · exact fun x hx => absurd hx List.not_mem_nil
      · simp [(h.deed.minted_new hm).2]
    · obtain ⟨i, t₀, hr⟩ := hc.genuine t ht
      exact ⟨i, t₀, hr.next h hc hsurvives⟩
  case stored =>
    intro i t₀ hm
    rw [h.stores, h.moment]
    rcases h.minted_iff.1 hm with hold | ⟨rfl, hnew⟩
    · have hi := (hc.known hold).1
      rcases hc.stored hold with ⟨t, ht, hts⟩ | ⟨x, hx, hr⟩ | ⟨k, hk, he⟩
      · have hr := Remembers.of_genuine hc ht hold hts
        rcases h.deed.survives ht with ⟨t', ht', hs'⟩ | hrekeys | he
        · exact .inl ⟨t', ht', hs'.trans hts⟩
        · rw [hr.same] at hrekeys
          exact .inr (.inl ⟨_, (h.mem_since hi).2 (.inr rfl), hrekeys⟩)
        · rw [hr.same] at he
          exact .inr (.inr ⟨_, h.later, he⟩)
      · exact .inr (.inl ⟨x, (h.mem_since hi).2 (.inl hx), hr⟩)
      · exact .inr (.inr ⟨k, hk.trans h.later, he⟩)
    · obtain ⟨-, hmem, -⟩ := h.deed.mints hnew
      exact .inl ⟨t₀, hmem, rfl⟩

theorem chronicle (ho : o.Calm) (calls : List Call) :
    (sequence cfg o calls).Chronicle cfg o := by
  refine sequence_invariant ho ?_ (fun hs h hc => hc.next ho hs h) calls
  constructor <;> simp [Minted, start, Stores.empty, History.minted]

/-- A secret is accepted if and only if the calls say that its token is usable. -/
theorem Chronicle.presents_iff (ho : o.Steady) (hs : s.toStores.Tidy o s.log.length)
    (hc : s.Chronicle cfg o) (kind : TokenKind) (secret : String) :
    (∃ t, s.toStores.Presents o s.log.length kind secret t) ↔
      ∃ i t, t.kind = kind ∧ t.secret = secret ∧ s.Usable cfg (s.clock o) i t := by
  constructor
  · rintro ⟨t, hp⟩
    obtain ⟨ht, rfl⟩ := TokenStore.findBySecret_eq hp.found
    obtain ⟨i, t₀, hr⟩ := hc.genuine t ht
    obtain ⟨hk, he, hsame⟩ : t₀.kind = t.kind ∧ t₀.expiresAt = t.expiresAt ∧
        t₀.secret = t.secret := by
      rw [hr.same]
      exact ⟨rfl, rfl, rfl⟩
    refine ⟨i, t₀, hk.trans hp.kind, hsame, hr.minted, ?_, fun x hx hspends => ?_, hr.current⟩
    · rw [he, ← Instant.not_le]
      exact of_decide_eq_false hp.unexpired
    · cases (hr.revoked.2 ⟨x, hx, hspends⟩).symm.trans hp.active
  · rintro ⟨i, t₀, rfl, rfl, h⟩
    obtain ⟨t, ht, hts⟩ : ∃ t ∈ s.tokens.records, t.secret = t₀.secret := by
      rcases hc.stored h.minted with ht | ⟨x, hx, hr⟩ | ⟨k, hk, he⟩
      · exact ht
      · exact absurd hr (h.current x hx)
      · have := Instant.lt_of_lt_of_le he (ho k _ hk)
        exact absurd h.unexpired (Instant.le_iff_not_lt.1 (Instant.le_of_lt this))
    have hr := Remembers.of_genuine hc ht h.minted hts
    refine ⟨t, ?_, ?_, ?_, ?_⟩
    · rw [← hts]
      exact TokenStore.findBySecret_mem hs.secrets ht
    · rw [hr.same]
    · rw [hr.same]
      exact decide_eq_false (Instant.not_le.2 h.unexpired)
    · refine Bool.eq_false_iff.2 fun hrevoked => ?_
      obtain ⟨x, hx, hspends⟩ := hr.revoked.1 hrevoked
      exact h.unspent x hx hspends

end

end State

end Gatehouse
