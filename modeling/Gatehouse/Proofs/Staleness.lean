/-
  Gatehouse — tokens from under an older password.

  A password change that cannot remove the tokens of its user leaves them behind, under an
  older credential version. In whatever state a run has come to, `refresh` refuses such a
  token, whichever of its own store calls are lost. `verifyEmail` does not compare versions:
  there an outdated token is as good as any other.

  * `Runs.addressed`: no two records come to have one address;
  * `Service.refresh_outdated`: what `refresh` does with an outdated token;
  * `Runs.outdated_confirms_iff`: how the two calls treat outdated tokens;
  * `outdated_link_confirms`: a link from before a password change that confirms an address.
-/
import Gatehouse.Proofs.Deeds
import Gatehouse.Proofs.Secrets

namespace Gatehouse

/-! ## Addresses -/

section

variable {cfg : Settings} {d : Stores} {s : State}

/-- Whatever is asked of a store, no two records come to have one address. -/
theorem UserStore.Addressed.perform {u : UserStore} (h : u.Addressed) (hk : u.Keyed)
    (c : UserCall) : (u.perform c).2.Addressed := by
  cases c with
  | create v =>
    simp only [UserStore.perform, UserStore.create]
    split_ifs with _ he
    · exact h
    · exact h
    · exact h.append (by simpa using he)
  | update v =>
    simp only [UserStore.perform, UserStore.update]
    split_ifs with ht
    · exact h
    · refine h.replace hk fun w hw hid he => ht ?_
      exact List.any_eq_true.2 ⟨w, hw, by simp [hid, he]⟩
    · exact h
  | findById | findByEmail | existsByEmail => exact h

/-- No two records come to have one address. -/
theorem Runs.addressed (h : Runs cfg d s) (hk : d.users.Keyed) (hd : d.users.Addressed) :
    s.users.Addressed := by
  refine h.invariant (P := fun s _ => s.users.Addressed) hd ?_
  rintro s ⟨i, c, ⟨q, r⟩, took⟩ after hs ⟨-, ha⟩ ih
  cases q with
  | users l q =>
    obtain ⟨-, rfl⟩ := ha
    split_ifs
    · exact ih.perform (hs.keyed hk) q
    · exact ih
  | tokens l q =>
    obtain ⟨-, rfl⟩ := ha
    split_ifs <;> exact ih
  | _ =>
    obtain ⟨-, rfl⟩ := ha
    exact ih

end

/-! ## Outdated tokens -/

namespace Service

open Gatehouse.Flow

variable {o : Surroundings} {cfg : Settings} {s : Scene}

/-- A look-up is answered from the store, or is lost. -/
theorem ensures_findById {id : UserId} {Ψ : Ending AuthError (Option User) → Scene → Prop}
    (hf : ∀ e, Ψ (.failed e) { s with moment := s.moment + 1 })
    (ha : Ψ (.done (s.users.findById id)) { s with moment := s.moment + 1 }) :
    (users cfg (.findById id)).Ensures o s Ψ := by
  refine ensures_mapFailure ?_
  unfold tryUsers Ensures
  simp only [Flow.run, Scene.next, Stores.serve, UserStore.perform]
  cases o.fate s.moment with
  | served => exact ha
  | lost e carriedOut => cases e <;> cases carriedOut <;> exact hf _

theorem ensures_findBySecret {secret : String}
    {Ψ : Ending AuthError (Option Token) → Scene → Prop}
    (hf : ∀ e, Ψ (.failed e) { s with moment := s.moment + 1 })
    (ha : Ψ (.done (s.tokens.findBySecret secret)) { s with moment := s.moment + 1 }) :
    (tokens cfg (.findBySecret secret)).Ensures o s Ψ := by
  refine ensures_mapFailure ?_
  unfold tryTokens Ensures
  simp only [Flow.run, Scene.next, Stores.serve, TokenStore.perform]
  cases o.fate s.moment with
  | served => exact ha
  | lost e carriedOut => cases e <;> cases carriedOut <;> exact hf _

attribute [local irreducible] Flow.Ensures

/-- A refresh token from under another credential version is refused, and nothing is written,
    whichever store calls are lost. -/
theorem refresh_outdated {t : Token} {u : User}
    (ht : s.tokens.findBySecret t.secret = some t) (hu : s.users.findById t.userId = some u)
    (hv : t.credentialVersion ≠ u.credentialVersion) :
    (refresh cfg t.secret).Ensures o s fun e s' =>
      (∃ error, e = .failed error) ∧ s'.toStores = s.toStores := by
  refine ensures_bind (ensures_now ?_)
  refine ensures_bind (ensures_bind (ensures_findBySecret (fun e => ⟨⟨_, rfl⟩, rfl⟩) ?_))
  refine ensures_ofOption ?_ fun t' ht' => ?_
  · exact fun _ => ⟨⟨_, rfl⟩, rfl⟩
  obtain rfl : t = t' := by
    obtain ⟨ht', -⟩ := Option.filter_eq_some_iff.1 ht'
    exact Option.some.inj (ht.symm.trans ht')
  refine ensures_bind (ensures_checkAlive ?_ fun _ _ => ?_)
  · exact fun _ _ => ⟨⟨_, rfl⟩, rfl⟩
  refine ensures_bind (ensures_findById ?_ ?_)
  · exact fun _ => ⟨⟨_, rfl⟩, rfl⟩
  refine ensures_bind (ensures_ofOption ?_ fun u' hu' => ?_)
  · exact fun _ => ⟨⟨_, rfl⟩, rfl⟩
  obtain rfl : u = u' := Option.some.inj (hu.symm.trans hu')
  dsimp only
  rw [if_pos hv]
  split_ifs
  · refine ensures_fail ?_
    exact ⟨⟨_, rfl⟩, rfl⟩
  · refine ensures_bind (ensures_log (ensures_fail ?_))
    exact ⟨⟨_, rfl⟩, rfl⟩

end Service

/-! ## States of a run -/

section

variable {cfg : Settings} {d : Stores} {s : State}

/-- In whatever state a run has come to, a token whose owner has another credential version is
    refused by `refresh`, even if store calls are lost; `verifyEmail` accepts it as if it were
    not outdated, and notes the address of its owner as confirmed. What is refused changes
    nothing. -/
theorem Runs.outdated_confirms_iff (h : Runs cfg d s) (hk : d.users.Keyed)
    (ha : d.users.Addressed) (hs : (d.tokens.records.map (·.secret)).Nodup) {t : Token} {u : User}
    (ht : t ∈ s.tokens.records) (hu : s.users.findById t.userId = some u)
    (hv : t.credentialVersion ≠ u.credentialVersion) (o : Surroundings) :
    (∃ e, s.Refuses cfg o (.refresh t.secret) e ∧
      (s.conduct cfg o (.refresh t.secret)).toStores = s.toStores) ∧
    (o.Serves →
      (s.Accepts cfg o (.verifyEmail t.secret) ↔
        t.kind = .verification ∧ s.clock o < t.expiresAt ∧ t.revoked = false) ∧
      (s.Accepts cfg o (.verifyEmail t.secret) →
        ∃ v, (s.conduct cfg o (.verifyEmail t.secret)).users.findById t.userId = some v ∧
          v.emailVerified = true) ∧
      (¬ s.Accepts cfg o (.verifyEmail t.secret) →
        (s.conduct cfg o (.verifyEmail t.secret)).toStores = s.toStores)) := by
  have hfound : s.tokens.findBySecret t.secret = some t :=
    TokenStore.findBySecret_mem (h.secrets_nodup hs) ht
  constructor
  · obtain ⟨_, sc, hc, ⟨e, rfl⟩, hd⟩ := s.conduct_ensures (.refresh t.secret)
      (Service.refresh_outdated hfound hu hv)
    exact ⟨e, hc.latest, hc.stores.trans hd⟩
  · intro ho
    have hpresents : ∀ t', s.toStores.Presents o s.log.length .verification t.secret t' → t' = t :=
      fun t' ht' => (ht'.unique hfound).symm
    obtain ⟨e, sc, hc, hd⟩ := s.conduct_ensures (.verifyEmail t.secret)
      (Service.verifyEmail_deed ho (h.addressed hk ha) fun t' ht' => ⟨u, hpresents t' ht' ▸ hu⟩)
    rw [hc.accepts_iff, hc.stores]
    cases hd with
    | refused he hx hd =>
      refine ⟨iff_of_false (fun ⟨v, hv⟩ => he v hv) fun ⟨hk, hnow, hr⟩ => ?_,
        fun ⟨v, hv⟩ => absurd hv (he v), fun _ => hd⟩
      exact hx ⟨t, hfound, hk, decide_eq_false (Instant.not_le.2 hnow), hr⟩
    | @confirmed _ t' u' p now hp hu' hid husers =>
      obtain rfl := hpresents t' hp
      obtain rfl : u = u' := Option.some.inj (hu.symm.trans hu')
      refine ⟨iff_of_true ⟨p, rfl⟩ ⟨hp.kind, ?_, hp.active⟩, fun _ => ?_,
        fun hn => absurd ⟨p, rfl⟩ hn⟩
      · exact Instant.not_le.1 (of_decide_eq_false hp.unexpired)
      · rw [husers]
        split_ifs with hv
        · exact ⟨u, hu, hv⟩
        · obtain ⟨-, hid⟩ := UserStore.findById_eq hu
          have hself : s.users.findById (u.confirmed now).id = some u := hid ▸ hu
          exact ⟨_, (UserStore.findById_replace hself _).trans (if_pos hid.symm), rfl⟩

end

/-- The store of tokens is out of reach at one moment. -/
def Surroundings.failingAt (n : Nat) : Surroundings :=
  { plain with
    fate := fun k => if k = n then .lost (some (.unavailable "tokens")) false else .served }

/-- An account is opened, and its password is replaced, but the tokens cannot be removed. -/
def forgetting : State :=
  .sequence {} (.failingAt 17)
    [.register adasForm, .changePassword ⟨unary 3⟩ "Old-pass-1" "New-pass-2"]

theorem outdated_confirms_iff_forgetting :
    ∃ t ∈ forgetting.tokens.records, ∃ u ∈ forgetting.users.records,
      forgetting.users.findById t.userId = some u ∧ t.credentialVersion ≠ u.credentialVersion ∧
      (∃ e, forgetting.Refuses {} .plain (.refresh t.secret) e) ∧
      forgetting.Accepts {} .plain (.verifyEmail t.secret) := by
  have hforgotten : ∃ t ∈ forgetting.tokens.records, ∃ u ∈ forgetting.users.records,
      forgetting.users.findById t.userId = some u ∧ t.credentialVersion ≠ u.credentialVersion ∧
      t.kind = .verification ∧ ⟨0, 0⟩ < t.expiresAt ∧ t.revoked = false := by decide +kernel
  obtain ⟨t, ht, u, hmem, hu, hv, hgood⟩ := hforgotten
  have h := (State.sequence_runs _).outdated_confirms_iff List.nodup_nil List.nodup_nil
    List.nodup_nil ht hu hv .plain
  obtain ⟨⟨e, he, -⟩, hconfirms⟩ := h
  exact ⟨t, ht, u, hmem, hu, hv, ⟨e, he⟩, (hconfirms fun _ => rfl).1.2 hgood⟩

/-- After a password change that could not remove the tokens, an outdated link confirms the
    address of its owner. -/
theorem outdated_link_confirms :
    Runs {} .empty forgetting ∧
    ∃ t ∈ forgetting.tokens.records, ∃ u ∈ forgetting.users.records, t.userId = u.id ∧
      t.credentialVersion ≠ u.credentialVersion ∧
      forgetting.Accepts {} .plain (.verifyEmail t.secret) ∧
      u ∉ (forgetting.conduct {} .plain (.verifyEmail t.secret)).users.records := by
  refine ⟨State.sequence_runs _, ?_⟩
  decide +kernel

end Gatehouse
