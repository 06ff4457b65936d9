/-
  Gatehouse — what an exchange does to the stores.

  Each entry of the log is one atomic step of a store, or none. The lemmas here say all that
  such a step can do, so that no invariant has to look into the stores again:

  * `State.Admits.users`: a record takes the place of another, or is added, or none is;
  * `State.Admits.tokens`: a token is added, a secret is revoked, tokens are dropped, or
    nothing happens;
  * `State.Admits.found`, `State.Admits.presented`, `State.Admits.flipped`: what an answer
    says about the store.
-/
import Gatehouse.Proofs.System
import Mathlib.Data.List.Nodup

namespace Gatehouse

/-! ## What was carried out -/

namespace Entry

/-- The record that has taken the place of another. -/
def rewrote? (e : Entry) : Option User := if e.took then e.exchange.rewritten? else none

/-- The record that has been added. -/
def enrolled? (e : Entry) : Option User := if e.took then e.exchange.enrolled? else none

/-- The token that has been added. -/
def stored? (e : Entry) : Option Token := if e.took then e.exchange.minted? else none

theorem minted_of_stored {e : Entry} {t : Token} (h : e.stored? = some t) :
    e.exchange.minted? = some t := by
  unfold stored? at h
  split_ifs at h
  exact h

theorem rewritten_of_rewrote {e : Entry} {u : User} (h : e.rewrote? = some u) :
    e.exchange.rewritten? = some u := by
  unfold rewrote? at h
  split_ifs at h
  exact h

end Entry

/-! ## Accounts -/

namespace UserStore

variable {s : UserStore} {u v : User}

/-- No two records have one identifier. -/
def Keyed (s : UserStore) : Prop := (s.records.map (·.id)).Nodup

instance (s : UserStore) : Decidable s.Keyed := inferInstanceAs (Decidable (List.Nodup _))

theorem Keyed.findById (h : s.Keyed) (hu : u ∈ s.records) : s.findById u.id = some u := by
  cases hv : s.findById u.id with
  | none => simpa using List.find?_eq_none.1 hv u hu
  | some v =>
    obtain ⟨hv, hid⟩ := findById_eq hv
    rw [List.inj_on_of_nodup_map h hv hu hid]

theorem findById_replace (h : s.findById v.id = some u) (id : UserId) :
    (s.replace v).findById id = if id = v.id then some v else s.findById id := by
  simp only [UserStore.findById, replace, List.find?_map]
  split_ifs with hid
  · subst hid
    have : ((fun w : User => w.id == v.id) ∘ fun w => if w.id = v.id then v else w) =
        fun w => w.id == v.id := by
      funext w
      by_cases hw : w.id = v.id <;> simp [hw]
    obtain ⟨-, hu⟩ := findById_eq h
    rw [this]
    rw [UserStore.findById] at h
    simp [h, hu]
  · have : ((fun w : User => w.id == id) ∘ fun w => if w.id = v.id then v else w) =
        fun w => w.id == id := by
      funext w
      by_cases hw : w.id = v.id
      · simp [hw]
      · simp [hw]
    rw [this]
    cases hw : s.records.find? fun w => w.id == id with
    | none => rfl
    | some w =>
      have : w.id = id := (findById_eq hw).2
      simp [this, hid]

theorem findById_append (h : s.findById v.id = none) (id : UserId) :
    UserStore.findById ⟨s.records ++ [v]⟩ id = if id = v.id then some v else s.findById id := by
  simp only [UserStore.findById, List.find?_append]
  split_ifs with hid
  · subst hid
    rw [UserStore.findById] at h
    simp [h]
  · have : (v.id == id) = false := by simpa using fun h => hid h.symm
    simp [this]

theorem Keyed.replace (h : s.Keyed) (v : User) : (s.replace v).Keyed := by
  have : (s.replace v).records.map (·.id) = s.records.map (·.id) := by
    simp only [UserStore.replace, List.map_map]
    refine List.map_congr_left fun w _ => ?_
    by_cases hw : w.id = v.id <;> simp [hw]
  rw [Keyed, this]; exact h

theorem Keyed.append (h : s.Keyed) (hv : s.findById v.id = none) :
    UserStore.Keyed ⟨s.records ++ [v]⟩ := by
  rw [Keyed, List.map_append, List.nodup_append]
  refine ⟨h, by simp, fun a ha b hb => ?_⟩
  obtain ⟨w, hw, rfl⟩ := List.mem_map.1 ha
  simp only [List.map_cons, List.map_nil, List.mem_singleton] at hb
  subst hb
  simpa using List.find?_eq_none.1 hv w hw

theorem create_ok {after : UserStore} (h : s.create u = .ok after) :
    s.findById u.id = none ∧ after = ⟨s.records ++ [u]⟩ := by
  unfold create at h
  split_ifs at h with h₁ h₂
  cases h
  refine ⟨?_, rfl⟩
  rw [UserStore.findById, List.find?_eq_none]
  simpa using h₁

theorem update_ok {after : UserStore} (h : s.update u = .ok after) :
    (∃ v, s.findById u.id = some v) ∧ after = s.replace u := by
  unfold update at h
  split_ifs at h with h₁ h₂
  cases h
  refine ⟨?_, rfl⟩
  rw [← Option.isSome_iff_exists, UserStore.findById, List.find?_isSome]
  simpa using h₂

/-- A call that commits has an outcome to commit. -/
theorem committed_ok {α : Type} {a b : α} {outcome : Except StoreError UserStore}
    (h : (s.committed a outcome).1 = .ok b) :
    ∃ after, outcome = .ok after ∧ (s.committed a outcome).2 = after := by
  cases outcome with
  | error e => cases h
  | ok after => exact ⟨after, rfl, rfl⟩

end UserStore

/-! ## Tokens -/

namespace TokenStore

variable {s : TokenStore} {t : Token}

theorem create_ok {after : TokenStore} (h : s.create t = .ok after) :
    (∀ u ∈ s.records, u.secret ≠ t.secret) ∧ after = ⟨s.records ++ [t]⟩ := by
  unfold create at h
  split_ifs at h with h₁
  cases h
  refine ⟨fun u hu he => h₁ ?_, rfl⟩
  exact List.any_eq_true.2 ⟨u, hu, by simp [he]⟩

theorem secrets_blacklist (secret : String) :
    (s.blacklist secret).records.map (·.secret) = s.records.map (·.secret) := by
  simp only [TokenStore.blacklist, List.map_map]
  refine List.map_congr_left fun t _ => ?_
  by_cases h : t.secret = secret <;> simp [h]

end TokenStore

/-! ## Steps -/

/-- The result of a step that was carried out. -/
theorem Served.result {α : Type} {result : Except StoreError α} {reply}
    (h : Served result reply true) : ∃ a, result = .ok a := by
  have := h.isOk
  cases result with
  | error e => cases this
  | ok a => exact ⟨a, rfl⟩

namespace State.Admits

variable {s : State} {e : Entry} {after : Stores}

/-- All that a step can do to the accounts. -/
theorem users (h : s.Admits e after) :
    (∃ u v, e.rewrote? = some v ∧ e.enrolled? = none ∧ s.users.findById v.id = some u ∧
      after.users = s.users.replace v) ∨
    (∃ v, e.enrolled? = some v ∧ e.rewrote? = none ∧ s.users.findById v.id = none ∧
      after.users = ⟨s.users.records ++ [v]⟩) ∨
    (e.rewrote? = none ∧ e.enrolled? = none ∧ after.users = s.users) := by
  obtain ⟨-, h⟩ := h
  obtain ⟨i, c, ⟨q, r⟩, took⟩ := e
  cases q with
  | users l q =>
    obtain ⟨h, rfl⟩ := h
    cases took with
    | false => exact .inr (.inr ⟨rfl, rfl, rfl⟩)
    | true =>
      obtain ⟨a, ha⟩ := h.result
      cases q with
      | create v =>
        obtain ⟨w, hw, hs⟩ := UserStore.committed_ok ha
        obtain ⟨hn, rfl⟩ := UserStore.create_ok hw
        exact .inr (.inl ⟨v, rfl, rfl, hn, hs⟩)
      | update v =>
        obtain ⟨w, hw, hs⟩ := UserStore.committed_ok ha
        obtain ⟨⟨u, hu⟩, rfl⟩ := UserStore.update_ok hw
        exact .inl ⟨u, v, rfl, rfl, hu, hs⟩
      | findById | findByEmail | existsByEmail =>
        exact .inr (.inr ⟨rfl, rfl, rfl⟩)
  | tokens l q =>
    obtain ⟨-, rfl⟩ := h
    refine .inr (.inr ⟨by simp [Entry.rewrote?, Exchange.rewritten?],
      by simp [Entry.enrolled?, Exchange.enrolled?], ?_⟩)
    cases took <;> rfl
  | _ =>
    obtain ⟨rfl, rfl⟩ := h
    exact .inr (.inr ⟨rfl, rfl, rfl⟩)

/-- A record that was put in the place of another is stored. -/
theorem rewrote (h : s.Admits e after) {v : User} (hv : e.rewrote? = some v) :
    after.users.findById v.id = some v := by
  rcases h.users with ⟨u, w, hw, -, hu, hs⟩ | ⟨_, -, hw, -⟩ | ⟨hw, -⟩
  · cases hw.symm.trans hv
    rw [hs, UserStore.findById_replace hu, if_pos rfl]
  · rw [hw] at hv; cases hv
  · rw [hw] at hv; cases hv

/-- All that a step can do to the tokens. -/
theorem tokens (h : s.Admits e after) :
    (∃ t, e.stored? = some t ∧ (∀ u ∈ s.tokens.records, u.secret ≠ t.secret) ∧
      after.tokens = ⟨s.tokens.records ++ [t]⟩) ∨
    (e.stored? = none ∧ (after.tokens = s.tokens ∨
      (∃ secret, after.tokens = s.tokens.blacklist secret) ∨
      ∃ dead, after.tokens = s.tokens.dropAll dead)) := by
  obtain ⟨-, h⟩ := h
  obtain ⟨i, c, ⟨q, r⟩, took⟩ := e
  cases q with
  | tokens l q =>
    obtain ⟨h, rfl⟩ := h
    cases took with
    | false => exact .inr ⟨rfl, .inl rfl⟩
    | true =>
      obtain ⟨a, ha⟩ := h.result
      cases q with
      | create t =>
        simp only [TokenStore.perform] at ha ⊢
        cases hw : s.tokens.create t with
        | error => rw [hw] at ha; cases ha
        | ok w =>
          obtain ⟨hn, rfl⟩ := TokenStore.create_ok hw
          exact .inl ⟨t, rfl, hn, rfl⟩
      | findBySecret secret => exact .inr ⟨rfl, .inl rfl⟩
      | blacklist secret => exact .inr ⟨rfl, .inr (.inl ⟨secret, rfl⟩)⟩
      | revokeIfActive secret =>
        refine .inr ⟨rfl, ?_⟩
        simp only [TokenStore.perform, if_true]
        split_ifs
        · exact .inr (.inl ⟨secret, rfl⟩)
        · exact .inl rfl
      | deleteAllForUser | sweepExpired => exact .inr ⟨rfl, .inr (.inr ⟨_, rfl⟩)⟩
  | users l q =>
    obtain ⟨-, rfl⟩ := h
    refine .inr ⟨by simp [Entry.stored?, Exchange.minted?], .inl ?_⟩
    cases took <;> rfl
  | _ =>
    obtain ⟨rfl, rfl⟩ := h
    exact .inr ⟨rfl, .inl rfl⟩

/-- What was found is stored. -/
theorem found (h : s.Admits e after) {u : User} (hu : e.exchange.found? = some u) :
    u ∈ s.users.records := by
  obtain ⟨-, h⟩ := h
  obtain ⟨i, c, ⟨q, r⟩, took⟩ := e
  unfold Exchange.found? at hu
  split at hu
  · rename_i he
    cases he; subst hu
    exact (UserStore.findById_eq (Except.ok.inj h.1.ok.1)).1
  · rename_i he
    cases he; subst hu
    exact (UserStore.findByEmail_eq (Except.ok.inj h.1.ok.1)).1
  · cases hu

/-- An update whose caller got a record back was carried out. -/
theorem settled (h : s.Admits e after) {v : User} (hv : e.exchange.settled? = some v) :
    e.rewrote? = some v := by
  obtain ⟨-, h⟩ := h
  obtain ⟨i, c, ⟨q, r⟩, took⟩ := e
  unfold Exchange.settled? at hv
  split at hv
  · rename_i he
    cases he; cases hv
    obtain ⟨-, rfl⟩ := h.1.ok
    rfl
  · cases hv

/-- What was presented is stored. -/
theorem presented (h : s.Admits e after) {t : Token} (ht : e.exchange.presented? = some t) :
    t ∈ s.tokens.records := by
  obtain ⟨-, h⟩ := h
  obtain ⟨i, c, ⟨q, r⟩, took⟩ := e
  unfold Exchange.presented? at ht
  split at ht
  · rename_i he
    cases he; subst ht
    exact (TokenStore.findBySecret_eq (Except.ok.inj h.1.ok.1)).1
  · cases ht

/-- A caller who is told that a token was active has revoked it. -/
theorem flipped (h : s.Admits e after) {secret : String}
    (hf : e.exchange.flipped? = some (secret, true)) :
    s.tokens.isActive secret = true ∧ after.tokens = s.tokens.blacklist secret := by
  obtain ⟨-, h⟩ := h
  obtain ⟨i, c, ⟨q, r⟩, took⟩ := e
  unfold Exchange.flipped? at hf
  split at hf
  · rename_i he
    cases he; cases hf
    obtain ⟨h, rfl⟩ := h
    obtain ⟨hr, rfl⟩ := h.ok
    simp only [TokenStore.perform, if_true] at hr ⊢
    split_ifs at hr ⊢ with ha
    · exact ⟨ha, rfl⟩
    · cases hr
  · cases hf
  · cases hf

/-- A `blacklist` that is carried out revokes. -/
theorem blacklisted (h : s.Admits e after) {limit : Span} {secret : String}
    (hq : e.exchange.ask = .tokens limit (.blacklist secret)) (ht : e.took = true) :
    after.tokens = s.tokens.blacklist secret := by
  obtain ⟨-, h⟩ := h
  obtain ⟨i, c, ⟨q, r⟩, took⟩ := e
  subst hq ht
  rw [h.2]; rfl

end State.Admits

namespace Runs

variable {cfg : Settings} {d : Stores} {s : State}

/-- The accounts stay keyed by their identifiers. -/
theorem keyed (h : Runs cfg d s) (hd : d.users.Keyed) : s.users.Keyed := by
  refine h.invariant (P := fun s _ => s.users.Keyed) hd ?_
  intro s e after _ ha hk
  rcases ha.users with ⟨u, v, -, -, -, hs⟩ | ⟨v, -, -, hn, hs⟩ | ⟨-, -, hs⟩
  · rw [hs]; exact hk.replace v
  · rw [hs]; exact hk.append hn
  · rw [hs]; exact hk

end Runs

end Gatehouse
