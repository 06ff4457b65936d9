/-
  Gatehouse — secrets.

  As long as the generator repeats nothing (`Fresh`), a secret belongs to one token for
  ever: a call mints once, with a secret it has drawn, so no two calls mint one secret. What
  is revoked then stays revoked, although tokens come and go.

  * `Runs.born_unique`: tokens with one secret are one token;
  * `Runs.genuine`: what is stored is some such token, revoked or not;
  * `Steps.dead`: a secret whose tokens are revoked is dead from then on, so that nobody is
    told that it is active (`Runs.not_flipped_after`);
  * `Runs.flip_unique`: of all calls, one alone is told that it revoked an active secret.
-/
import Gatehouse.Proofs.Effects
import Gatehouse.Proofs.Conduct

namespace Gatehouse

/-! ## Views of the log -/

/-- The token was there at first, or a call was to add it. -/
def Born (d : Stores) (log : List Entry) (t : Token) : Prop :=
  t ∈ d.tokens.records ∨ ∃ (n : Nat) (e : Entry), log[n]? = some e ∧ e.exchange.minted? = some t

/-- The token is one that was born, revoked or not. -/
def Genuine (d : Stores) (log : List Entry) (t : Token) : Prop :=
  ∃ t₀, Born d log t₀ ∧ t = { t₀ with revoked := t.revoked }

/-- What was drawn. -/
def drawsOf (log : List Entry) : List String := log.filterMap (·.exchange.drawn?)

/-- The generator repeats nothing, and none of the secrets that were there at first. -/
def Fresh (d : Stores) (log : List Entry) : Prop :=
  (d.tokens.records.map (·.secret) ++ drawsOf log).Nodup

instance (d : Stores) (log : List Entry) : Decidable (Fresh d log) :=
  inferInstanceAs (Decidable (List.Nodup _))

/-- All tokens with the secret are revoked. -/
def TokenStore.Dead (s : TokenStore) (secret : String) : Prop :=
  ∀ t ∈ s.records, t.secret = secret → t.revoked = true

section

variable {d : Stores} {log log' : List Entry} {t : Token} {s : TokenStore} {secret : String}

theorem Born.append (h : Born d log t) : Born d (log ++ log') t := by
  exact h.imp_right fun ⟨n, e, he, ht⟩ => ⟨n, e, getElem?_append_of_some he, ht⟩

theorem Genuine.append (h : Genuine d log t) : Genuine d (log ++ log') t := by
  obtain ⟨t₀, hb, ht⟩ := h
  exact ⟨t₀, hb.append, ht⟩

theorem Fresh.of_append (h : Fresh d (log ++ log')) : Fresh d log := by
  refine h.sublist (List.Sublist.append_left ?_ _)
  rw [drawsOf, drawsOf, List.filterMap_append]
  exact List.sublist_append_left _ _

theorem Fresh.of_take {n : Nat} (h : Fresh d log) : Fresh d (log.take n) := by
  rw [← List.take_append_drop n log] at h
  exact h.of_append

/-- A text is drawn at one moment only. -/
theorem Fresh.moment_eq (h : Fresh d log) {m n : Nat} {a b : Entry} {x : String}
    (ha : log[m]? = some a) (hb : log[n]? = some b) (hxa : a.exchange.drawn? = some x)
    (hxb : b.exchange.drawn? = some x) : m = n := by
  have hn := (List.nodup_append.1 h).2.1
  rw [drawsOf, List.Nodup, List.pairwise_filterMap, List.pairwise_iff_getElem] at hn
  obtain ⟨hm, rfl⟩ := List.getElem?_eq_some_iff.1 ha
  obtain ⟨hn', rfl⟩ := List.getElem?_eq_some_iff.1 hb
  rcases lt_trichotomy m n with hlt | rfl | hlt
  · exact absurd rfl (hn m n hm hn' hlt x hxa x hxb)
  · rfl
  · exact absurd rfl (hn n m hn' hm hlt x hxb x hxa)

/-- What was there at first is not drawn again. -/
theorem Fresh.not_drawn (h : Fresh d log) {n : Nat} {e : Entry} (ht : t ∈ d.tokens.records)
    (he : log[n]? = some e) : e.exchange.drawn? ≠ some t.secret := fun hx =>
  (List.nodup_append.1 h).2.2 _ (List.mem_map_of_mem ht) _
    (List.mem_filterMap.2 ⟨e, List.mem_of_getElem? he, hx⟩) rfl

theorem TokenStore.dead_blacklist (secret : String) : (s.blacklist secret).Dead secret := by
  intro t ht hs
  obtain ⟨u, -, rfl⟩ := List.mem_map.1 ht
  split_ifs at hs ⊢ with hu
  · rfl
  · exact absurd hs hu

theorem TokenStore.Dead.blacklist (h : s.Dead secret) (other : String) :
    (s.blacklist other).Dead secret := by
  intro t ht hs
  obtain ⟨u, hu, rfl⟩ := List.mem_map.1 ht
  split_ifs at hs ⊢
  · rfl
  · exact h u hu hs

theorem TokenStore.Dead.dropAll (h : s.Dead secret) (dead : Token → Bool) :
    (s.dropAll dead).Dead secret := fun t ht => h t (List.mem_filter.1 ht).1

theorem TokenStore.Dead.append (h : s.Dead secret) (ht : t.secret ≠ secret) :
    TokenStore.Dead ⟨s.records ++ [t]⟩ secret := by
  intro u hu hs
  rcases List.mem_append.1 hu with hu | hu
  · exact h u hu hs
  · rw [List.mem_singleton.1 hu] at hs
    exact absurd hs ht

/-- An active token is there. -/
theorem TokenStore.exists_of_isActive (h : s.isActive secret = true) :
    ∃ t ∈ s.records, t.secret = secret ∧ t.revoked = false := by
  obtain ⟨t, ht, hr⟩ := (Option.any_eq_true _ _).1 h
  obtain ⟨hm, hs⟩ := TokenStore.findBySecret_eq ht
  exact ⟨t, hm, hs, by simpa using hr⟩

end

/-! ## Minting -/

namespace Runs

variable {cfg : Settings} {d : Stores} {s : State}

theorem mints (h : Runs cfg d s) {n : Nat} {e : Entry} {t : Token} (he : s.log[n]? = some e)
    (ht : e.exchange.minted? = some t) :
    e.call.Mints cfg (historyOf e.caller (s.log.take n)) t := by
  obtain ⟨l, hq⟩ := Exchange.ask_of_minted ht
  have := h.may he
  rwa [hq] at this

/-- What is minted, the same call has drawn before. -/
theorem drawn_of_minted (h : Runs cfg d s) {n : Nat} {e : Entry} {t : Token}
    (he : s.log[n]? = some e) (ht : e.exchange.minted? = some t) :
    ∃ (k : Nat) (x : Entry), k < n ∧ s.log[k]? = some x ∧ x.caller = e.caller ∧
      x.exchange.drawn? = some t.secret :=
  mem_view_take.1 (h.mints he ht).drawn

/-- A caller that has minted does not mint again. -/
theorem not_minted_again (h : Runs cfg d s) {m n : Nat} {a b : Entry} {t : Token} (hmn : m < n)
    (ha : s.log[m]? = some a) (hb : s.log[n]? = some b) (hab : a.caller = b.caller)
    (ht : a.exchange.minted? = some t) : b.exchange.minted? = none := by
  cases hu : b.exchange.minted? with
  | none => rfl
  | some u =>
    have hm : t ∈ (historyOf b.caller (s.log.take n)).minted :=
      mem_view_take.2 ⟨m, a, hmn, ha, hab, ht⟩
    rw [(h.mints hb hu).first] at hm
    cases hm

/-- A call mints once. -/
theorem minted_once (h : Runs cfg d s) {m n : Nat} {a b : Entry} {t u : Token}
    (ha : s.log[m]? = some a) (hb : s.log[n]? = some b) (ht : a.exchange.minted? = some t)
    (hu : b.exchange.minted? = some u) (hab : a.caller = b.caller) : m = n := by
  rcases lt_trichotomy m n with hlt | rfl | hlt
  · rw [h.not_minted_again hlt ha hb hab ht] at hu; cases hu
  · rfl
  · rw [h.not_minted_again hlt hb ha hab.symm hu] at ht; cases ht

/-- A secret is minted once. -/
theorem minted_unique (h : Runs cfg d s) (hf : Fresh d s.log) {m n : Nat} {a b : Entry}
    {t u : Token} (ha : s.log[m]? = some a) (hb : s.log[n]? = some b)
    (ht : a.exchange.minted? = some t) (hu : b.exchange.minted? = some u)
    (htu : t.secret = u.secret) : m = n := by
  obtain ⟨k, x, -, hx, hxa, hxt⟩ := h.drawn_of_minted ha ht
  obtain ⟨l, y, -, hy, hyb, hyu⟩ := h.drawn_of_minted hb hu
  cases hf.moment_eq hx hy hxt (htu ▸ hyu)
  cases hx.symm.trans hy
  exact h.minted_once ha hb ht hu (hxa.symm.trans hyb)

/-- What was there at first is not minted again. -/
theorem minted_ne (h : Runs cfg d s) (hf : Fresh d s.log) {n : Nat} {e : Entry} {t u : Token}
    (ht : t ∈ d.tokens.records) (he : s.log[n]? = some e) (hu : e.exchange.minted? = some u) :
    u.secret ≠ t.secret := by
  intro hut
  obtain ⟨k, x, -, hx, -, hxu⟩ := h.drawn_of_minted he hu
  exact hf.not_drawn ht hx (hut ▸ hxu)

/-- Tokens with one secret are one token. -/
theorem born_unique (h : Runs cfg d s) (hf : Fresh d s.log) {t u : Token} (ht : Born d s.log t)
    (hu : Born d s.log u) (htu : t.secret = u.secret) : t = u := by
  rcases ht with ht | ⟨m, a, ha, hta⟩ <;> rcases hu with hu | ⟨n, b, hb, hub⟩
  · exact List.inj_on_of_nodup_map (List.nodup_append.1 hf).1 ht hu htu
  · exact absurd htu.symm (h.minted_ne hf ht hb hub)
  · exact absurd htu (h.minted_ne hf hu ha hta)
  · cases h.minted_unique hf ha hb hta hub htu
    cases ha.symm.trans hb
    exact Option.some.inj (hta.symm.trans hub)

/-- What is minted at a moment was not born before. -/
theorem minted_new (h : Runs cfg d s) (hf : Fresh d s.log) {n : Nat} {e : Entry} {t u : Token}
    (he : s.log[n]? = some e) (hu : e.exchange.minted? = some u)
    (ht : Born d (s.log.take n) t) : u.secret ≠ t.secret := by
  rcases ht with ht | ⟨m, a, ha, hta⟩
  · exact h.minted_ne hf ht he hu
  · intro hut
    rw [List.getElem?_take, Option.ite_none_right_eq_some] at ha
    have := h.minted_unique hf he ha.2 hu hta hut
    omega

/-- What is stored is genuine. -/
theorem genuine (h : Runs cfg d s) {t : Token} (ht : t ∈ s.tokens.records) :
    Genuine d s.log t := by
  refine h.invariant (P := fun s log => ∀ t ∈ s.tokens.records, Genuine d log t) ?_ ?_ t ht
  · exact fun t ht => ⟨t, .inl ht, rfl⟩
  · intro s e after _ ha ih t ht
    rcases ha.tokens with ⟨u, hu, -, hs⟩ | ⟨-, hs | ⟨secret, hs⟩ | ⟨dead, hs⟩⟩ <;> rw [hs] at ht
    · rcases List.mem_append.1 ht with ht | ht
      · exact (ih t ht).append
      · cases List.mem_singleton.1 ht
        exact ⟨t, .inr ⟨s.log.length, e, by simp, e.minted_of_stored hu⟩, rfl⟩
    · exact (ih t ht).append
    · obtain ⟨u, hu, rfl⟩ := List.mem_map.1 ht
      obtain ⟨t₀, hb, hu⟩ := ih u hu
      refine ⟨t₀, hb.append, ?_⟩
      split_ifs
      · rw [hu]
      · exact hu
    · exact (ih t (List.mem_filter.1 ht).1).append

/-- Genuine tokens with one secret have one owner and one stamp. -/
theorem genuine_unique (h : Runs cfg d s) (hf : Fresh d s.log) {t u : Token}
    (ht : Genuine d s.log t) (hu : Genuine d s.log u) (htu : t.secret = u.secret) :
    t.userId = u.userId ∧ t.credentialVersion = u.credentialVersion := by
  obtain ⟨t₀, hbt, ht⟩ := ht
  obtain ⟨u₀, hbu, hu⟩ := hu
  rw [ht, hu] at htu ⊢
  cases h.born_unique hf hbt hbu htu
  exact ⟨rfl, rfl⟩

/-- What is presented is genuine. -/
theorem presented_genuine (h : Runs cfg d s) {n : Nat} {e : Entry} {t : Token}
    (he : s.log[n]? = some e) (ht : e.exchange.presented? = some t) : Genuine d s.log t := by
  obtain ⟨s₁, s₂, h₁, hl₁, ha, -⟩ := h.moment he
  rw [← List.take_append_drop n s.log, ← hl₁]
  exact (h₁.genuine (ha.presented ht)).append

/-- No two stored tokens have one secret. -/
theorem secrets_nodup (h : Runs cfg d s) (hd : (d.tokens.records.map (·.secret)).Nodup) :
    (s.tokens.records.map (·.secret)).Nodup := by
  refine h.invariant (P := fun s _ => (s.tokens.records.map (·.secret)).Nodup) hd ?_
  intro s e after _ ha ih
  rcases ha.tokens with ⟨u, hu, hne, hs⟩ | ⟨-, hs | ⟨secret, hs⟩ | ⟨dead, hs⟩⟩ <;> rw [hs]
  · rw [List.map_append, List.nodup_append]
    refine ⟨ih, by simp, fun x hx y hy => ?_⟩
    obtain ⟨t, ht, rfl⟩ := List.mem_map.1 hx
    simp only [List.map_cons, List.map_nil, List.mem_singleton] at hy
    subst hy
    exact hne t ht
  · exact ih
  · rw [TokenStore.secrets_blacklist]; exact ih
  · exact ih.sublist (List.filter_sublist.map _)

end Runs

/-! ## Revoking -/

section

variable {cfg : Settings} {d : Stores} {s s' : State} {secret : String} {t : Token}

/-- A dead secret is dead for ever. -/
theorem Steps.dead (hs : Steps cfg s s') (h : Runs cfg d s) (hf : Fresh d s'.log)
    (hb : Born d s.log t) (ht : t.secret = secret) (hd : s.tokens.Dead secret) :
    s'.tokens.Dead secret := by
  induction hs with
  | refl => exact hd
  | @tail s₁ s₂ hs hlast ih =>
    have h₂ : Runs cfg d s₂ := (h.trans hs).tail hlast
    cases hlast with
    | arrive c => exact ih hf
    | @turn i c q k r took after hi hr =>
      have hd := ih hf.of_append
      obtain ⟨e, he⟩ : ∃ e : Entry, e = ⟨i, c, ⟨q, r⟩, took⟩ := ⟨_, rfl⟩
      have ha : s₁.Admits e after := he ▸ ⟨⟨k, hi⟩, hr⟩
      change after.tokens.Dead secret
      rcases ha.tokens with ⟨u, hu, -, hs'⟩ | ⟨-, hs' | ⟨other, hs'⟩ | ⟨dead, hs'⟩⟩ <;> rw [hs']
      · obtain ⟨l, hl⟩ := Steps.log_prefix hs
        rw [← he] at h₂ hf
        have hb' : Born d ((s₁.log ++ [e]).take s₁.log.length) t := by
          rw [List.take_left' rfl, ← hl]
          exact hb.append
        refine hd.append fun hus => ?_
        exact h₂.minted_new hf List.getElem?_concat_length (Entry.minted_of_stored hu) hb'
          (hus.trans ht.symm)
      · exact hd
      · exact hd.blacklist other
      · exact hd.dropAll dead

/-- The step leaves no token with the secret active, whatever the stores hold. -/
def Entry.Kills (secret : String) (e : Entry) : Prop :=
  ∀ (s : State) (after : Stores), s.Admits e after → after.tokens.Dead secret

theorem Entry.Kills.of_flipped {e : Entry} (h : e.exchange.flipped? = some (secret, true)) :
    e.Kills secret := by
  intro s after ha
  rw [(ha.flipped h).2]
  exact TokenStore.dead_blacklist secret

theorem Entry.Kills.of_blacklist {e : Entry} {limit : Span}
    (h : e.exchange.ask = .tokens limit (.blacklist secret)) (ht : e.took = true) :
    e.Kills secret := by
  intro s after ha
  rw [ha.blacklisted h ht]
  exact TokenStore.dead_blacklist secret

/-- A secret that was born is dead after a step that kills it. -/
theorem Runs.dead_after (h : Runs cfg d s) (hf : Fresh d s.log) {n : Nat} {e : Entry}
    (he : s.log[n]? = some e) (hb : Born d (s.log.take n) t) (ht : t.secret = secret)
    (hk : e.Kills secret) : s.tokens.Dead secret := by
  obtain ⟨s₁, s₂, h₁, -, ha, hl₂, hs, hs'⟩ := h.moment he
  refine hs'.dead (h₁.tail hs) hf (t := t) ?_ ht (hk s₁ _ ha)
  rw [hl₂, List.take_add_one, he]
  exact hb.append

/-- A secret that is dead is not active. -/
theorem TokenStore.Dead.not_active {s : TokenStore} (h : s.Dead secret) :
    s.isActive secret = false := by
  cases ha : s.isActive secret with
  | false => rfl
  | true =>
    obtain ⟨t, ht, hs, hr⟩ := TokenStore.exists_of_isActive ha
    rw [h t ht hs] at hr; cases hr

/-- After a step that kills a secret nobody is told that it was active. -/
theorem Runs.not_flipped_after (h : Runs cfg d s) (hf : Fresh d s.log) {m n : Nat} {a b : Entry}
    (ha : s.log[m]? = some a) (hb : Born d (s.log.take m) t) (ht : t.secret = secret)
    (hk : a.Kills secret) (hmn : m < n) (he : s.log[n]? = some b) :
    b.exchange.flipped? ≠ some (secret, true) := by
  intro hx
  obtain ⟨s₁, s₂, h₁, hl₁, hadm, -⟩ := h.moment he
  have ha' : s₁.log[m]? = some a := by rw [hl₁, List.getElem?_take_of_lt hmn, ha]
  have hb' : Born d (s₁.log.take m) t := by rwa [hl₁, List.take_take, min_eq_left hmn.le]
  have hd := h₁.dead_after (hl₁ ▸ hf.of_take) ha' hb' ht hk
  have := (hadm.flipped hx).1
  rw [hd.not_active] at this
  cases this

/-- Whoever is told that a secret was active has revoked a secret that was born. -/
theorem Runs.born_of_flipped (h : Runs cfg d s) {n : Nat} {e : Entry} (he : s.log[n]? = some e)
    (hf : e.exchange.flipped? = some (secret, true)) :
    ∃ t, Born d (s.log.take n) t ∧ t.secret = secret := by
  obtain ⟨s₁, s₂, h₁, hl₁, ha, -⟩ := h.moment he
  obtain ⟨t, ht, hs, -⟩ := TokenStore.exists_of_isActive (ha.flipped hf).1
  obtain ⟨t₀, hb, ht₀⟩ := h₁.genuine ht
  refine ⟨t₀, hl₁ ▸ hb, ?_⟩
  rw [← hs, ht₀]

/-- Of all calls, one alone is told that it revoked an active secret, at one moment. -/
theorem Runs.flip_unique (h : Runs cfg d s) (hf : Fresh d s.log) {m n : Nat} {a b : Entry}
    (ha : s.log[m]? = some a) (hb : s.log[n]? = some b)
    (hxa : a.exchange.flipped? = some (secret, true))
    (hxb : b.exchange.flipped? = some (secret, true)) : m = n := by
  obtain ⟨t, hta, hts⟩ := h.born_of_flipped ha hxa
  obtain ⟨u, hub, hus⟩ := h.born_of_flipped hb hxb
  rcases lt_trichotomy m n with hlt | rfl | hlt
  · exact absurd hxb (h.not_flipped_after hf ha hta hts (.of_flipped hxa) hlt hb)
  · rfl
  · exact absurd hxa (h.not_flipped_after hf hb hub hus (.of_flipped hxb) hlt ha)

end

end Gatehouse
