/-
  Gatehouse — the tokens of a session.

  A rotation uses one refresh token up and mints its successor. The tokens that come of one
  login by rotations are a family; a family is a chain, and its last token alone can be
  active. This holds in the middle of a rotation as well, and whatever store calls are lost.

  * `Runs.successor_unique`: a secret has one successor;
  * `Runs.unforked`: so a family does not fork.
-/
import Gatehouse.Proofs.Rehearsal
import Gatehouse.Proofs.Secrets

namespace Gatehouse

/-- A rotation of the secret `S` was to add a token with the secret `S'`. -/
def Succeeds (log : List Entry) (S S' : String) : Prop :=
  ∃ (n : Nat) (e : Entry) (t : Token), log[n]? = some e ∧ e.call = .refresh S ∧
    e.exchange.minted? = some t ∧ t.secret = S'

/-- The secrets that come of one by successive rotations. -/
def Family (log : List Entry) : String → String → Prop := Relation.ReflTransGen (Succeeds log)

/-- A login was to add a token with the secret. -/
def Opens (log : List Entry) (S : String) : Prop :=
  ∃ (n : Nat) (e : Entry) (t : Token) (email password : String), log[n]? = some e ∧
    e.call = .login email password ∧ e.exchange.minted? = some t ∧ t.secret = S

/-- The family of a secret is a chain, of which one stored token at most is active. -/
structure Unforked (s : State) (root : String) : Prop where
  successor : ∀ {S S' S''}, Family s.log root S → Succeeds s.log S S' → Succeeds s.log S S'' →
    S' = S''
  spent : ∀ {S S'}, Family s.log root S → Succeeds s.log S S' →
    ∀ t ∈ s.tokens.records, t.secret = S → t.revoked = true
  active : ∀ t ∈ s.tokens.records, ∀ u ∈ s.tokens.records, Family s.log root t.secret →
    Family s.log root u.secret → t.revoked = false → u.revoked = false → t = u

namespace Runs

variable {cfg : Settings} {d : Stores} {s : State} {S S' S'' : String}

/-- Behind a successor is a caller that has revoked the predecessor. -/
theorem flipped_of_minted (h : Runs cfg d s) {n : Nat} {e : Entry} {t : Token}
    (he : s.log[n]? = some e) (hc : e.call = .refresh S) (ht : e.exchange.minted? = some t) :
    ∃ (k : Nat) (x : Entry), s.log[k]? = some x ∧ x.caller = e.caller ∧
      x.exchange.flipped? = some (S, true) := by
  have hm := h.mints he ht
  rw [hc] at hm
  have hf : (S, true) ∈ (historyOf e.caller (s.log.take n)).flipped := by
    rw [hm.rotation.2]
    exact List.mem_singleton_self _
  obtain ⟨k, x, -, hx⟩ := mem_view_take.1 hf
  exact ⟨k, x, hx⟩

/-- A secret has one successor. -/
theorem successor_unique (h : Runs cfg d s) (hf : Fresh d s.log) (h₁ : Succeeds s.log S S')
    (h₂ : Succeeds s.log S S'') : S' = S'' := by
  obtain ⟨m, a, t, ha, hca, ht, rfl⟩ := h₁
  obtain ⟨n, b, u, hb, hcb, hu, rfl⟩ := h₂
  obtain ⟨k, x, hx, hxa, hfx⟩ := h.flipped_of_minted ha hca ht
  obtain ⟨l, y, hy, hyb, hfy⟩ := h.flipped_of_minted hb hcb hu
  cases h.flip_unique hf hx hy hfx hfy
  cases hx.symm.trans hy
  cases h.minted_once ha hb ht hu (hxa.symm.trans hyb)
  cases ha.symm.trans hb
  cases ht.symm.trans hu
  rfl

/-- A secret with a successor is dead. -/
theorem succeeded_dead (h : Runs cfg d s) (hf : Fresh d s.log) (hs : Succeeds s.log S S') :
    s.tokens.Dead S := by
  obtain ⟨n, e, t, he, hc, ht, -⟩ := hs
  obtain ⟨k, x, hx, -, hfx⟩ := h.flipped_of_minted he hc ht
  obtain ⟨u, hb, hu⟩ := h.born_of_flipped hx hfx
  exact h.dead_after hf hx hb hu (.of_flipped hfx)

/-- The active token of a family is its last. -/
theorem last_of_active (h : Runs cfg d s) (hf : Fresh d s.log) {t : Token}
    (ht : t ∈ s.tokens.records) (hr : t.revoked = false) (hs : Family s.log t.secret S) :
    t.secret = S := by
  rcases hs.cases_head with hs | ⟨S', hs, -⟩
  · exact hs
  · rw [h.succeeded_dead hf hs t ht rfl] at hr
    cases hr

/-- **A session does not fork**: this holds of the family of every secret, in particular of
    one that a login mints. -/
theorem unforked (h : Runs cfg d s) (hf : Fresh d s.log) (root : String) : Unforked s root where
  successor _ h₁ h₂ := h.successor_unique hf h₁ h₂
  spent _ hs := h.succeeded_dead hf hs
  active t ht u hu hrt hru hat hau := by
    have hright : Relator.RightUnique (Succeeds s.log) :=
      fun _ _ _ h₁ h₂ => h.successor_unique hf h₁ h₂
    have hsecret : t.secret = u.secret := by
      rcases Relation.ReflTransGen.total_of_right_unique hright hrt hru with htu | hut
      · exact h.last_of_active hf ht hat htu
      · exact (h.last_of_active hf hu hau hut).symm
    have hn := h.secrets_nodup (List.nodup_append.1 hf).1
    exact List.inj_on_of_nodup_map hn ht hu hsecret

end Runs

/-! ## A session of three tokens -/

/-- A login, and two rotations one after the other; the second one is still under way. -/
def rotating : State :=
  (State.start adasStores).play {} unary
    [.call (.login ada.email.text "Old-pass-1"), .turns 0 8,
      .call (.refresh (unary 5)), .turns 1 10, .call (.refresh (unary 14)), .turns 2 8]

set_option maxRecDepth 2000 in
theorem unforked_rotating :
    Runs {} adasStores rotating ∧ Fresh adasStores rotating.log ∧
      Opens rotating.log (unary 5) ∧ Succeeds rotating.log (unary 5) (unary 14) ∧
      Succeeds rotating.log (unary 14) (unary 24) ∧ Unforked rotating (unary 5) :=
  have hr : Runs {} adasStores rotating := State.play_steps _ _
  have hf : Fresh adasStores rotating.log := by decide +kernel
  ⟨hr, hf, ⟨6, _, _, _, _, rfl, rfl, rfl, rfl⟩, ⟨15, _, _, rfl, rfl, rfl, rfl⟩,
    ⟨25, _, _, rfl, rfl, rfl, rfl⟩, Runs.unforked hr hf (unary 5)⟩

end Gatehouse
