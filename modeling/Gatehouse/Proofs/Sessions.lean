/-
  Gatehouse — how long a session lasts.

  Calls are made one after another, in calm surroundings, and the clock does not step back. A
  login hands out a refresh secret, and so does every call that trades one for another. Who has
  been handed a secret can trade it until it expires, unless it was traded or revoked since it
  was first handed out, or its owner has changed the password (`State.Renewable`).

  * `State.Grants`: behind every secret that is handed out there is a token that some call has
    minted;
  * `State.Issued.owns`, `State.Issued.of_owns`: the owner of the token is who the secret was
    handed out to, by a login or along a chain of trades;
  * `State.session_follows`: `refresh` goes by the calls before.
-/
import Gatehouse.Proofs.Lifetime

namespace Gatehouse

/-! ## What is handed out -/

/-- The secret was handed out to a user, at a login or in exchange for another. -/
inductive Owns (past : List Task) (id : UserId) : String → Prop
  | login {email password l} : ⟨.login email password, .done l⟩ ∈ past → l.profile.id = id →
      Owns past id l.tokens.refreshSecret
  | refresh {secret p} : ⟨.refresh secret, .done p⟩ ∈ past → Owns past id secret →
      Owns past id p.refreshSecret

section

variable {cfg : Settings} {o : Surroundings} {n : Nat} {d : Stores} {s' : Scene} {c : Call}
  {e : Ending c.Failure c.Value}

/-- A refresh token is minted to be handed out. -/
theorem Deed.grants (h : Deed cfg o n d s' c e) {t : Token} (ht : t ∈ s'.minted)
    (hk : t.kind = .refresh) :
    (⟨c, e.flow⟩ : Task).grant? = some (t.secret, t.expiresAt) := by
  obtain ⟨-, -, u, ⟨-, h₀⟩ | ⟨hgrant, -⟩⟩ := h.mints ht
  · cases h₀.kind.symm.trans hk
  · exact hgrant

/-- What a login hands out was minted in it. -/
theorem Deed.loggedIn_minted {email password : String} {l : Login}
    (h : Deed cfg o n d s' (.login email password) (.done l)) :
    ∃ t ∈ s'.minted, t.kind = .refresh ∧ t.secret = l.tokens.refreshSecret ∧
      t.expiresAt = l.tokens.refreshExpiresAt ∧ t.userId = l.profile.id := by
  cases h with
  | refused he => exact absurd rfl (he l)
  | loggedIn _ _ ht hp hs he _ _ hm =>
    exact ⟨_, hm ▸ List.mem_singleton_self _, ht.kind, hs.symm, he.symm,
      ht.stamped.1.trans (congrArg Profile.id hp).symm⟩

/-- What is handed out in exchange for a secret was minted for the same owner, or is that
    secret. -/
theorem Deed.refreshed {secret : String} {p : TokenPair}
    (h : Deed cfg o n d s' (.refresh secret) (.done p)) :
    ∃ t₀, d.Presents o n .refresh secret t₀ ∧
      ((∃ t ∈ s'.minted, t.kind = .refresh ∧ t.secret = p.refreshSecret ∧
        t.expiresAt = p.refreshExpiresAt ∧ t.userId = t₀.userId) ∨
      p.refreshSecret = secret ∧ p.refreshExpiresAt = t₀.expiresAt) := by
  cases h with
  | refused he => exact absurd rfl (he p)
  | rotated _ hp hu ht hs he _ _ hm =>
    exact ⟨_, hp, .inl ⟨_, hm ▸ List.mem_singleton_self _, ht.kind, hs.symm, he.symm,
      ht.stamped.1.trans (UserStore.findById_eq hu).2⟩⟩
  | kept _ hp hs he =>
    exact ⟨_, hp, .inr ⟨hs.trans (TokenStore.findBySecret_eq hp.found).2, he⟩⟩

end

namespace State

/-- The `i`-th call has minted a refresh token. -/
def Issued (s : State) (i : Nat) (secret : String) (expiry : Instant) (id : UserId) : Prop :=
  ∃ t, s.Minted i t ∧ t.kind = .refresh ∧ t.secret = secret ∧ t.expiresAt = expiry ∧ t.userId = id

/-- Behind what is handed out there are tokens, and tokens are handed out. -/
structure Grants (s : State) : Prop where
  issued : ∀ {i secret expiry id}, s.Issued i secret expiry id →
    ∃ x, s.tasks[i]? = some x ∧ x.grant? = some (secret, expiry)
  login : ∀ {i email password l}, s.Returned i (.login email password) l →
    s.Issued i l.tokens.refreshSecret l.tokens.refreshExpiresAt l.profile.id
  refresh : ∀ {i secret p}, s.Returned i (.refresh secret) p →
    ∃ j expiry id, j < i ∧ s.Issued j secret expiry id ∧
      (s.Issued i p.refreshSecret p.refreshExpiresAt id ∨
        p.refreshSecret = secret ∧ p.refreshExpiresAt = expiry)

section

variable {cfg : Settings} {o : Surroundings} {s : State} {c : Call}
  {e : Ending c.Failure c.Value} {sc : Scene}

theorem Issued.next (h : s.Conducted cfg o c e sc) {i : Nat} {secret : String} {expiry : Instant}
    {id : UserId} (hi : s.Issued i secret expiry id) :
    (s.conduct cfg o c).Issued i secret expiry id := by
  obtain ⟨t, ht, hrest⟩ := hi
  exact ⟨t, h.minted_iff.2 (.inl ht), hrest⟩

/-- A token that is presented was issued. -/
theorem Chronicle.issued (hc : s.Chronicle cfg o) {n : Nat} {secret : String} {t : Token}
    (hp : s.toStores.Presents o n .refresh secret t) :
    ∃ j < s.tasks.length, s.Issued j secret t.expiresAt t.userId := by
  obtain ⟨ht, hs⟩ := TokenStore.findBySecret_eq hp.found
  obtain ⟨j, t₀, hr⟩ := hc.genuine t ht
  refine ⟨j, (hc.known hr.minted).1, t₀, hr.minted, ?_, ?_, ?_, ?_⟩
  · rw [← hp.kind, hr.same]
  · rw [← hs, hr.same]
  · rw [hr.same]
  · rw [hr.same]

theorem Grants.next (h : s.Does cfg o c e sc) (hc : s.Chronicle cfg o) (hg : s.Grants) :
    (s.conduct cfg o c).Grants := by
  have hnew : ∀ {t}, t ∈ sc.minted → (s.conduct cfg o c).Minted s.tasks.length t := fun ht =>
    h.minted_iff.2 (.inr ⟨rfl, ht⟩)
  constructor
  case issued =>
    rintro i secret expiry id ⟨t, ht, hk, rfl, rfl, rfl⟩
    rcases h.minted_iff.1 ht with hold | ⟨rfl, hm⟩
    · obtain ⟨x, hx, hgrant⟩ := hg.issued ⟨t, hold, hk, rfl, rfl, rfl⟩
      exact ⟨x, h.kept hx, hgrant⟩
    · exact ⟨_, h.latest, h.deed.grants hm hk⟩
  case login =>
    intro i email password l hl
    rcases h.returned_iff.1 hl with hold | ⟨rfl, hx⟩
    · exact (hg.login hold).next h.toConducted
    · obtain ⟨t, ht, hrest⟩ := (h.deed.of_returned hx).loggedIn_minted
      exact ⟨t, hnew ht, hrest⟩
  case refresh =>
    intro i secret p hp
    rcases h.returned_iff.1 hp with hold | ⟨rfl, hx⟩
    · obtain ⟨j, expiry, id, hj, hissued, hor⟩ := hg.refresh hold
      exact ⟨j, expiry, id, hj, hissued.next h.toConducted, hor.imp_left (·.next h.toConducted)⟩
    · obtain ⟨t₀, hpresents, hor⟩ := (h.deed.of_returned hx).refreshed
      obtain ⟨j, hj, hissued⟩ := hc.issued hpresents
      refine ⟨j, _, _, hj, hissued.next h.toConducted, hor.imp_left ?_⟩
      exact fun ⟨t, ht, hrest⟩ => ⟨t, hnew ht, hrest⟩

theorem grants (ho : o.Calm) (calls : List Call) : (sequence cfg o calls).Grants := by
  have h : (sequence cfg o calls).Chronicle cfg o ∧ (sequence cfg o calls).Grants := by
    refine sequence_invariant (P := fun s => s.Chronicle cfg o ∧ s.Grants) ho
      ⟨chronicle ho [], ?_⟩ (fun hs h hg => ⟨hg.1.next ho hs h, hg.2.next h hg.1⟩) calls
    constructor <;> simp [Issued, Minted, History.minted, start, Returned]
  exact h.2

variable {i j : Nat} {secret : String} {expiry expiry' : Instant} {id id' : UserId}

theorem Issued.unique (hc : s.Chronicle cfg o) (h : s.Issued i secret expiry id)
    (h' : s.Issued j secret expiry' id') : i = j ∧ expiry = expiry' ∧ id = id' := by
  obtain ⟨t, ht, -, hs, rfl, rfl⟩ := h
  obtain ⟨t', ht', -, hs', rfl, rfl⟩ := h'
  obtain ⟨rfl, rfl⟩ := hc.unique ht ht' (hs.trans hs'.symm)
  exact ⟨rfl, rfl, rfl⟩

/-- What is handed out was issued then or before. -/
theorem Grants.of_grant (hg : s.Grants) {x : Task} (hx : s.tasks[i]? = some x)
    (hgrant : x.grant? = some (secret, expiry)) :
    ∃ j ≤ i, ∃ id, s.Issued j secret expiry id := by
  unfold Task.grant? at hgrant
  split at hgrant
  · cases hgrant
    exact ⟨i, le_rfl, _, hg.login hx⟩
  · obtain ⟨j, e, id, hj, hissued, hor⟩ := hg.refresh hx
    cases hgrant
    rcases hor with h | ⟨hs, he⟩
    · exact ⟨i, le_rfl, id, h⟩
    · exact ⟨j, hj.le, id, hs ▸ he ▸ hissued⟩
  · cases hgrant

/-- Who a token was issued for owns its secret. -/
theorem Issued.owns (hc : s.Chronicle cfg o) (hg : s.Grants) (h : s.Issued i secret expiry id) :
    Owns s.tasks id secret := by
  induction i using Nat.strong_induction_on generalizing secret expiry id with
  | _ i ih =>
    obtain ⟨x, hx, hgrant⟩ := hg.issued h
    unfold Task.grant? at hgrant
    split at hgrant
    · cases hgrant
      obtain ⟨-, -, rfl⟩ := h.unique hc (hg.login hx)
      exact .login (List.mem_of_getElem? hx) rfl
    · obtain ⟨j, e, id', hj, hissued, hor⟩ := hg.refresh hx
      cases hgrant
      rcases hor with h' | ⟨hs, -⟩
      · obtain ⟨-, -, rfl⟩ := h.unique hc h'
        exact .refresh (List.mem_of_getElem? hx) (ih j hj hissued)
      · obtain ⟨rfl, -⟩ := h.unique hc (hs ▸ hissued)
        exact absurd hj (lt_irrefl i)
    · cases hgrant

/-- Who owns a secret had its token issued. -/
theorem Issued.of_owns (hc : s.Chronicle cfg o) (hg : s.Grants) (h : Owns s.tasks id secret) :
    ∃ i expiry, s.Issued i secret expiry id := by
  induction h with
  | login hx hid =>
    obtain ⟨i, hi⟩ := List.mem_iff_getElem?.1 hx
    exact ⟨i, _, hid ▸ hg.login hi⟩
  | refresh hx _ ih =>
    obtain ⟨k, e', hissued'⟩ := ih
    obtain ⟨i, hi⟩ := List.mem_iff_getElem?.1 hx
    obtain ⟨j, e, id', hj, hissued, hor⟩ := hg.refresh hi
    obtain ⟨-, -, rfl⟩ := hissued.unique hc hissued'
    rcases hor with h | ⟨hs, -⟩
    · exact ⟨i, _, h⟩
    · exact ⟨j, e, hs ▸ hissued⟩

end

/-! ## Trading a secret -/

/-- The calls say that a secret can be traded at a time of day: it has been handed out, its expiry
    is to come, and since it was first handed out nobody has traded it for good, revoked it or
    replaced the password of its owner. -/
def Renewable (cfg : Settings) (s : State) (secret : String) (now : Instant) : Prop :=
  ∃ i x expiry id, s.tasks[i]? = some x ∧ x.grant? = some (secret, expiry) ∧
    (∀ j y e, j < i → s.tasks[j]? = some y → y.grant? ≠ some (secret, e)) ∧ now < expiry ∧
    Owns s.tasks id secret ∧
    ∀ y ∈ s.tasks.drop (i + 1), ¬ y.Spends cfg .refresh secret ∧ ¬ y.Rekeys id

section

variable {cfg : Settings} {o : Surroundings} {s : State} {sc : Scene} {secret : String}

/-- What the calls say of a secret is what they say of its token. -/
theorem Grants.renewable_iff (hc : s.Chronicle cfg o) (hg : s.Grants) {now : Instant} :
    s.Renewable cfg secret now ↔
      ∃ i t, t.kind = .refresh ∧ t.secret = secret ∧ s.Usable cfg now i t := by
  constructor
  · rintro ⟨i, x, expiry, id, hx, hgrant, hfirst, hnow, howns, hsince⟩
    obtain ⟨j, hj, id', hissued⟩ := hg.of_grant hx hgrant
    obtain rfl : j = i := by
      by_contra hne
      obtain ⟨y, hy, hgrant'⟩ := hg.issued hissued
      exact hfirst j y _ (lt_of_le_of_ne hj hne) hy hgrant'
    obtain ⟨k, expiry', hissued'⟩ := Issued.of_owns hc hg howns
    obtain ⟨-, -, rfl⟩ := hissued.unique hc hissued'
    obtain ⟨t, ht, hk, rfl, rfl, rfl⟩ := hissued
    exact ⟨j, t, hk, rfl, ht, hnow, fun y hy => hk ▸ (hsince y hy).1, fun y hy => (hsince y hy).2⟩
  · rintro ⟨i, t, hk, rfl, h⟩
    have hissued : s.Issued i t.secret t.expiresAt t.userId := ⟨t, h.minted, hk, rfl, rfl, rfl⟩
    obtain ⟨x, hx, hgrant⟩ := hg.issued hissued
    refine ⟨i, x, _, _, hx, hgrant, fun j y e hj hy hgrant' => ?_, h.unexpired, hissued.owns hc hg,
      fun y hy => ⟨hk ▸ h.unspent y hy, h.current y hy⟩⟩
    obtain ⟨k, hkj, id, hissued'⟩ := hg.of_grant hy hgrant'
    obtain ⟨rfl, -⟩ := hissued.unique hc hissued'
    omega

/-- A refresh secret is accepted if and only if it can be presented. -/
theorem Does.renews_iff {e} (hi : o.Signs) (h : s.Does cfg o (.refresh secret) e sc) :
    s.Accepts cfg o (.refresh secret) ↔
      ∃ t, s.toStores.Presents o s.log.length .refresh secret t := by
  rw [h.accepts_iff]
  cases h.deed with
  | refused he hc => exact iff_of_false (fun ⟨v, hv⟩ => he v hv) (hc hi)
  | rotated _ hp | kept _ hp => exact iff_of_true ⟨_, rfl⟩ ⟨_, hp⟩

/-- A session follows the history of the calls: with and without rotation, a refresh secret is
    accepted if and only if the calls say that it can be traded. -/
theorem session_follows (ho : o.Calm) (hc : o.Steady) (hi : o.Signs) (calls : List Call)
    (secret : String) :
    (sequence cfg o calls).Accepts cfg o (.refresh secret) ↔
      (sequence cfg o calls).Renewable cfg secret ((sequence cfg o calls).clock o) := by
  have hs : (sequence cfg o calls).toStores.Tidy o _ := sequence_tidy ho calls
  have hchronicle : (sequence cfg o calls).Chronicle cfg o := chronicle ho calls
  have hgrants : (sequence cfg o calls).Grants := grants ho calls
  obtain ⟨e, sc, h⟩ := does ho hs (.refresh secret)
  rw [h.renews_iff hi, hchronicle.presents_iff hc hs, hgrants.renewable_iff hchronicle]

end

/-- The owner of an account logs in, and trades the refresh secret for another. -/
def trading : State :=
  sequence {} .plain
    [.register adasForm, .login "ada@example.org" "Old-pass-1", .refresh (unary 17)]

theorem session_follows_trading :
    (Surroundings.plain.Calm ∧ Surroundings.plain.Steady ∧ Surroundings.plain.Signs) ∧
      trading.Renewable {} (unary 26) ⟨0, 0⟩ ∧ ¬ trading.Renewable {} (unary 17) ⟨0, 0⟩ := by
  have hnext : trading.Accepts {} .plain (.refresh (unary 26)) := by decide +kernel
  have htraded : ¬ trading.Accepts {} .plain (.refresh (unary 17)) := by decide +kernel
  have hfollows := @session_follows {} .plain Surroundings.plain_calm Surroundings.plain_steady
    Surroundings.plain_signs
    [.register adasForm, .login "ada@example.org" "Old-pass-1", .refresh (unary 17)]
  exact ⟨⟨Surroundings.plain_calm, Surroundings.plain_steady, Surroundings.plain_signs⟩,
    (hfollows _).1 hnext, fun h => htraded ((hfollows _).2 h)⟩

end State

end Gatehouse
