/-
  Gatehouse — redeeming a secret.

  `refresh` and `verifyEmail` look a secret up, check it, and then revoke it in one atomic
  step; whoever is told that it was active goes on. With rotation and a generator that
  repeats nothing, that happens once for a secret, whatever else goes on and whichever
  store calls are lost.

  * `Runs.redeemed_once`: of all calls that redeem a secret one alone returns, it is of the
    kind that the secret was minted for, and it comes before every logout;
  * `logout_too_early`: a logout that comes before the secret is minted revokes nothing.
-/
import Gatehouse.Proofs.Rehearsal
import Gatehouse.Proofs.Secrets

namespace Gatehouse

/-- The secret that a call redeems, and the kind that it must have. -/
def Call.redeems? : Call → Option (TokenKind × String)
  | refresh secret => some (.refresh, secret)
  | verifyEmail secret => some (.verification, secret)
  | _ => none

/-- What is behind a redemption. -/
theorem Call.Yields.redeemed {cfg : Settings} {c : Call} {h : History} {v : c.Value}
    {kind : TokenKind} {secret : String} (hy : c.Yields cfg h v) (hr : cfg.rotates = true)
    (hc : c.redeems? = some (kind, secret)) :
    h.flipped = [(secret, true)] ∧ ∃ t, h.presented = [t] ∧ t.secret = secret ∧ t.kind = kind := by
  cases c with
  | refresh S =>
    cases hc
    obtain ⟨⟨t, ht, hs, hk, -⟩, hf⟩ := hy
    rw [if_pos hr] at hf
    exact ⟨hf.1, t, ht, hs, hk⟩
  | verifyEmail S =>
    cases hc
    obtain ⟨⟨t, ht, hs, hk⟩, hf, -⟩ := hy
    exact ⟨hf, t, ht, hs, hk⟩
  | _ => cases hc

/-- In a state, a secret is redeemed at most once, as the kind it was minted for, and not
    after a logout. -/
structure RedeemedOnce (d : Stores) (s : State) (secret : String) : Prop where
  once : ∀ {i j c c' k k' v v'}, c.redeems? = some (k, secret) → s.Returned i c v →
    c'.redeems? = some (k', secret) → s.Returned j c' v' → i = j
  kind : ∀ {i c k v}, c.redeems? = some (k, secret) → s.Returned i c v →
    (∃ t, Born d s.log t ∧ t.secret = secret) ∧
      ∀ t, Born d s.log t → t.secret = secret → t.kind = k
  /-- The `blacklist` of a logout was carried out at the moment `m`, when the secret had been
      minted; whoever tries to revoke the secret at a later moment `n` does not return. -/
  loggedOut : ∀ {m n : Nat} {a b : Entry} {limit limit' : Span} {t : Token}, s.log[m]? = some a →
    a.call = .logout secret → a.exchange.ask = .tokens limit (.blacklist secret) → a.took = true →
    Born d (s.log.take m) t → t.secret = secret → m < n → s.log[n]? = some b →
    b.exchange.ask = .tokens limit' (.revokeIfActive secret) →
    ∀ {c k v}, c.redeems? = some (k, secret) → ¬ s.Returned b.caller c v

section

variable {cfg : Settings} {d : Stores} {s : State} {secret : String}

namespace Runs

/-- Who redeems a secret has revoked it. -/
theorem flipped_of_redeemed (h : Runs cfg d s) (hr : cfg.rotates = true) {i : Nat} {c : Call}
    {k : TokenKind} {v : c.Value} (hc : c.redeems? = some (k, secret)) (hv : s.Returned i c v) :
    ∃ (n : Nat) (e : Entry), s.log[n]? = some e ∧ e.caller = i ∧
      e.exchange.flipped? = some (secret, true) := by
  have hf := ((h.yields hv).redeemed hr hc).1
  exact view_one hf

theorem redeemed_kind (h : Runs cfg d s) (hr : cfg.rotates = true) (hf : Fresh d s.log) {i : Nat}
    {c : Call} {k : TokenKind} {v : c.Value} (hc : c.redeems? = some (k, secret))
    (hv : s.Returned i c v) :
    (∃ t, Born d s.log t ∧ t.secret = secret) ∧
      ∀ t, Born d s.log t → t.secret = secret → t.kind = k := by
  obtain ⟨-, t, hpres, ht, hk⟩ := (h.yields hv).redeemed hr hc
  obtain ⟨n, e, he, -, hp⟩ := view_one hpres
  obtain ⟨t₀, hb, ht₀⟩ := h.presented_genuine he hp
  have hs₀ : t₀.secret = secret := by rw [← ht, ht₀]
  refine ⟨⟨t₀, hb, hs₀⟩, fun u hu hus => ?_⟩
  rw [h.born_unique hf hu hb (hus.trans hs₀.symm), ← hk, ht₀]

/-- **Every secret is redeemed at most once**, by the call for its kind, and never after a
    logout. -/
theorem redeemed_once (h : Runs cfg d s) (hr : cfg.rotates = true) (hf : Fresh d s.log)
    (secret : String) : RedeemedOnce d s secret where
  once hc hv hc' hv' := by
    obtain ⟨m, a, ha, rfl, hxa⟩ := h.flipped_of_redeemed hr hc hv
    obtain ⟨n, b, hb, rfl, hxb⟩ := h.flipped_of_redeemed hr hc' hv'
    cases h.flip_unique hf ha hb hxa hxb
    cases ha.symm.trans hb
    rfl
  kind hc hv := h.redeemed_kind hr hf hc hv
  loggedOut ha _ hq htook hb ht hmn he hqb c k v hc hv := by
    have hfl := ((h.yields hv).redeemed hr hc).1
    obtain ⟨active, hx⟩ := Exchange.flipped_of_ask hqb
    have hmem : (secret, active) ∈ (historyOf _ s.log).flipped := mem_view.2 ⟨_, _, he, rfl, hx⟩
    rw [hfl, List.mem_singleton] at hmem
    exact h.not_flipped_after hf ha hb ht (.of_blacklist hq htook) hmn he (hmem ▸ hx)

end Runs

end

/-! ## A logout ahead of time -/

/-- Someone logs out with a secret that nobody has yet; a login draws it, and it is traded for
    a new pair. -/
def ahead : State :=
  (State.start adasStores).play {} unary
    [.call (.logout (unary 7)), .turns 0 2,
      .call (.login ada.email.text "Old-pass-1"), .turns 1 8,
      .call (.refresh (unary 7)), .turns 2 10]

/-- All three calls return. -/
theorem ahead_outcome :
    ahead.outcome? 0 = some (.logout (unary 7), true) ∧
      ahead.outcome? 1 = some (.login ada.email.text "Old-pass-1", true) ∧
      ahead.outcome? 2 = some (.refresh (unary 7), true) := by decide +kernel

theorem redeemed_once_ahead :
    Runs {} adasStores ahead ∧ Fresh adasStores ahead.log ∧
      (∃ v, ahead.Returned 2 (.refresh (unary 7)) v) ∧
      RedeemedOnce adasStores ahead (unary 7) :=
  have hr : Runs {} adasStores ahead := State.play_steps _ _
  have hf : Fresh adasStores ahead.log := by decide +kernel
  ⟨hr, hf, State.returned_of_outcome ahead_outcome.2.2, Runs.redeemed_once hr rfl hf (unary 7)⟩

/-- Without the condition that the secret has been minted, a logout does not keep anyone from
    redeeming it. -/
theorem logout_too_early :
    ¬ ∀ (cfg : Settings) (d : Stores) (s : State) (secret : String) (m n : Nat) (a b : Entry)
      (limit limit' : Span) (c : Call) (k : TokenKind) (v : c.Value),
      cfg.rotates = true → Runs cfg d s → Fresh d s.log → s.log[m]? = some a →
      a.call = .logout secret → a.exchange.ask = .tokens limit (.blacklist secret) →
      a.took = true → m < n → s.log[n]? = some b →
      b.exchange.ask = .tokens limit' (.revokeIfActive secret) →
      c.redeems? = some (k, secret) → ¬ s.Returned b.caller c v := by
  intro h
  obtain ⟨v, hv⟩ := State.returned_of_outcome ahead_outcome.2.2
  exact h {} adasStores ahead (unary 7) 0 14 _ _ (.ofSeconds 5) (.ofSeconds 5)
    (.refresh (unary 7)) .refresh v rfl (State.play_steps _ _) (by decide +kernel) rfl rfl rfl rfl
    (by decide) rfl rfl rfl hv

end Gatehouse
