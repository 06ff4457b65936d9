/-
  Gatehouse — calm surroundings.

  In calm surroundings nothing fails but what the service itself refuses: every store call is
  served, there is always a day and a week to come, and the generator draws a new text each
  time.

  The rules here say how the parts of operations end then. Stores that are `Tidy` hold only
  what the service puts there, so that a fresh secret is not in use, and an account keeps its
  address.

  * `TokenStore.create_new`, `UserStore.create_new`, `UserStore.update_stored`: what is made of
    fresh texts is added, and what is stored can be rewritten;
  * `Service.ensures_storeToken`: minting a token adds it.
-/
import Gatehouse.Proofs.Effects
import Gatehouse.Proofs.Sequence

namespace Gatehouse

/-! ## Surroundings without faults -/

namespace Surroundings

variable {o : Surroundings} {m n : Nat} {x : String}

/-- There is time enough for a token that is minted now. -/
def InRange (now : Instant) : Prop :=
  (∃ t, now.addSeconds? Service.refreshSeconds = some t) ∧
    ∃ t, now.addSeconds? Service.verificationSeconds = some t

/-- Every store call is answered. -/
def Serves (o : Surroundings) : Prop := ∀ n, o.fate n = .served

/-- Nothing fails of itself. -/
structure Calm (o : Surroundings) : Prop where
  served : o.Serves
  inRange : ∀ n, InRange (o.reply n .now)
  draws : ∀ n bytes, ∃ x, o.reply n (.draw bytes) = .ok x
  fresh : ∀ {m n bytes bytes' x}, o.reply m (.draw bytes) = .ok x →
    o.reply n (.draw bytes') = .ok x → m = n

/-- The clock does not step back. -/
def Steady (o : Surroundings) : Prop := ∀ m n, m ≤ n → o.reply m .now ≤ o.reply n .now

/-- Access tokens are issued without fail. -/
def Signs (o : Surroundings) : Prop :=
  ∀ n id email name now, ∃ a, o.reply n (.issue id email name now) = .ok (.ok a)

/-- The text is one that is drawn at some moment from `m` on and before `n`. -/
def DrawsIn (o : Surroundings) (m n : Nat) (x : String) : Prop :=
  ∃ k bytes, m ≤ k ∧ k < n ∧ o.reply k (.draw bytes) = .ok x

theorem DrawsIn.mono {m' n' : Nat} (h : o.DrawsIn m n x) (hm : m' ≤ m) (hn : n ≤ n') :
    o.DrawsIn m' n' x := by
  obtain ⟨k, bytes, hmk, hkn, hx⟩ := h
  exact ⟨k, bytes, by omega, by omega, hx⟩

/-- What is drawn has not been drawn before. -/
theorem Calm.ne_of_drawn (ho : o.Calm) {y : String} (hx : o.DrawsIn m n x) (hy : o.DrawsIn 0 m y) :
    y ≠ x := by
  rintro rfl
  obtain ⟨k, bytes, hmk, -, hk⟩ := hx
  obtain ⟨l, bytes', -, hlm, hl⟩ := hy
  have := ho.fresh hk hl
  omega

/-- The clock stands still, a digest is the marked password, and what is drawn is longer each
    time. -/
def plain : Surroundings where
  reply n q := (Stores.empty.answer unary n q).1
  fate _ := .served

theorem plain_calm : plain.Calm where
  served _ := rfl
  inRange _ := (⟨⟨⟨604800, 0⟩, by decide⟩, ⟨⟨86400, 0⟩, by decide⟩⟩ : InRange ⟨0, 0⟩)
  draws _ _ := ⟨_, rfl⟩
  fresh {m n _ _ _} hm hn := by
    have h : (.ok (unary m) : Except AuthError String) = .ok (unary n) := hm.trans hn.symm
    exact unary_injective (Except.ok.inj h)

theorem plain_steady : plain.Steady := fun _ _ _ => rfl

theorem plain_signs : plain.Signs := fun _ _ _ _ _ => ⟨_, rfl⟩

end Surroundings

/-! ## Tidy stores -/

/-- No two records have one address. -/
def UserStore.Addressed (s : UserStore) : Prop := (s.records.map (·.email)).Nodup

/-- The stores hold what calls leave that were made one after another before the moment `n`. -/
structure Stores.Tidy (o : Surroundings) (n : Nat) (d : Stores) : Prop where
  keyed : d.users.Keyed
  addressed : d.users.Addressed
  active : ∀ u ∈ d.users.records, u.isActive = true
  named : ∀ u ∈ d.users.records, o.DrawsIn 0 n u.id.text
  secrets : (d.tokens.records.map (·.secret)).Nodup
  drawn : ∀ t ∈ d.tokens.records, o.DrawsIn 0 n t.id ∧ o.DrawsIn 0 n t.secret
  /-- No token is older than its owner's credentials. -/
  current : ∀ t ∈ d.tokens.records, ∃ u, d.users.findById t.userId = some u ∧ t.StampedBy u

section

variable {o : Surroundings} {n : Nat} {d : Stores}

theorem Stores.tidy_empty (o : Surroundings) (n : Nat) : Stores.empty.Tidy o n := by
  constructor <;> simp [Stores.empty, UserStore.Keyed, UserStore.Addressed]

theorem TokenStore.findBySecret_mem {s : TokenStore} {t : Token}
    (hs : (s.records.map (·.secret)).Nodup) (ht : t ∈ s.records) :
    s.findBySecret t.secret = some t := by
  cases hf : s.findBySecret t.secret with
  | none => simpa using List.find?_eq_none.1 hf t ht
  | some u =>
    obtain ⟨hu, hut⟩ := TokenStore.findBySecret_eq hf
    rw [List.inj_on_of_nodup_map hs hu ht hut]

theorem UserStore.findByEmail_mem {s : UserStore} {u : User} (hs : s.Addressed)
    (hu : u ∈ s.records) : s.findByEmail u.email = some u := by
  cases hf : s.findByEmail u.email with
  | none => simpa using List.find?_eq_none.1 hf u hu
  | some v =>
    obtain ⟨hv, hvu⟩ := UserStore.findByEmail_eq hf
    rw [List.inj_on_of_nodup_map hs hv hu hvu]

/-- Revoking changes nothing but the mark. -/
theorem TokenStore.mem_blacklist {s : TokenStore} {secret : String} {t : Token} :
    t ∈ (s.blacklist secret).records ↔
      ∃ u ∈ s.records, t = { u with revoked := u.revoked || u.secret == secret } := by
  rw [TokenStore.blacklist, List.mem_map]
  refine exists_congr fun u => and_congr_right fun _ => ?_
  by_cases h : u.secret = secret
  · simp [h, eq_comm]
  · rw [if_neg h, beq_eq_false_iff_ne.2 h, Bool.or_false, eq_comm]

/-- A token whose identifier and secret are new is added. -/
theorem TokenStore.create_new {s : TokenStore} {t : Token}
    (h : ∀ u ∈ s.records, u.secret ≠ t.secret ∧ u.id ≠ t.id) :
    s.create t = .ok ⟨s.records ++ [t]⟩ := by
  unfold TokenStore.create
  rw [if_neg]
  intro hu
  obtain ⟨u, hu, hut⟩ := List.any_eq_true.1 hu
  rcases (Bool.or_eq_true_iff.1 hut).imp eq_of_beq eq_of_beq with hut | hut
  · exact (h u hu).1 hut
  · exact (h u hu).2 hut

/-- A store that adds a token has none with its secret or its identifier. -/
theorem TokenStore.new_of_create {s after : TokenStore} {t : Token} (h : s.create t = .ok after) :
    ∀ u ∈ s.records, u.secret ≠ t.secret ∧ u.id ≠ t.id := by
  intro u hu
  unfold create at h
  split_ifs at h with hused
  constructor
  · rintro hsecret
    exact hused (List.any_eq_true.2 ⟨u, hu, by simp [hsecret]⟩)
  · rintro hid
    exact hused (List.any_eq_true.2 ⟨u, hu, by simp [hid]⟩)

theorem TokenStore.perform_create {s after : TokenStore} {t : Token} (h : s.create t = .ok after) :
    s.perform (.create t) = (.ok (), after) := by
  simp [TokenStore.perform, h]

/-- A record whose identifier and address are new is added. -/
theorem UserStore.create_new {s : UserStore} {u : User} (hid : ∀ v ∈ s.records, v.id ≠ u.id)
    (he : s.existsByEmail u.email = false) : s.create u = .ok ⟨s.records ++ [u]⟩ := by
  unfold UserStore.create
  rw [if_neg, if_neg]
  · simpa using he
  · simpa using hid

theorem UserStore.perform_create {s after : UserStore} {u : User} (h : s.create u = .ok after) :
    s.perform (.create u) = (.ok u, after) := by
  simp [UserStore.perform, UserStore.committed, h]

/-- A stored record can be rewritten, as long as it keeps its address. -/
theorem UserStore.update_stored {s : UserStore} {u v : User}
    (hs : s.Addressed) (hu : s.findById u.id = some u) (hid : v.id = u.id)
    (he : v.email = u.email) : s.update v = .ok (s.replace v) := by
  have hmem := (UserStore.findById_eq hu).1
  unfold UserStore.update
  rw [if_neg, if_pos]
  · exact List.any_eq_true.2 ⟨u, hmem, by simp [hid]⟩
  · intro hw
    obtain ⟨w, hw, hwv⟩ := List.any_eq_true.1 hw
    simp only [Bool.and_eq_true, bne_iff_ne, beq_iff_eq] at hwv
    exact hwv.1 (by rw [List.inj_on_of_nodup_map hs hw hmem (hwv.2.trans he), hid])

theorem UserStore.Addressed.append {s : UserStore} {u : User} (h : s.Addressed)
    (he : s.existsByEmail u.email = false) : UserStore.Addressed ⟨s.records ++ [u]⟩ := by
  rw [UserStore.Addressed, List.map_append, List.nodup_append]
  refine ⟨h, List.nodup_singleton _, ?_⟩
  simp only [UserStore.existsByEmail, List.any_eq_false, beq_iff_eq] at he
  simpa using he

/-- A record can be replaced by one with an address that no other record has. -/
theorem UserStore.Addressed.replace {s : UserStore} {v : User} (h : s.Addressed) (hk : s.Keyed)
    (hfree : ∀ w ∈ s.records, w.id ≠ v.id → w.email ≠ v.email) : (s.replace v).Addressed := by
  rw [UserStore.Addressed, UserStore.replace, List.map_map]
  refine List.Nodup.map_on (fun x hx y hy hxy => ?_) (List.Nodup.of_map _ hk)
  simp only [Function.comp_apply] at hxy
  split_ifs at hxy with h₁ h₂ h₂
  · exact List.inj_on_of_nodup_map hk hx hy (h₁.trans h₂.symm)
  · exact absurd hxy.symm (hfree y hy h₂)
  · exact absurd hxy (hfree x hx h₁)
  · exact List.inj_on_of_nodup_map h hx hy hxy

theorem UserStore.perform_update {s after : UserStore} {u : User} (h : s.update u = .ok after) :
    s.perform (.update u) = (.ok u, after) := by
  simp [UserStore.perform, UserStore.committed, h]

/-! ### What is written -/

namespace Stores.Tidy

variable {m : Nat} {t : Token} {u v : User}

theorem later (hs : d.Tidy o n) (h : n ≤ m) : d.Tidy o m :=
  { hs with
    named := fun u hu => (hs.named u hu).mono le_rfl h
    drawn := fun t ht => (hs.drawn t ht).imp (·.mono le_rfl h) (·.mono le_rfl h) }

theorem blacklist (hs : d.Tidy o n) (secret : String) :
    Stores.Tidy o n { d with tokens := d.tokens.blacklist secret } := by
  refine { hs with secrets := ?_, drawn := fun t ht => ?_, current := fun t ht => ?_ }
  · rw [TokenStore.secrets_blacklist]
    exact hs.secrets
  · obtain ⟨u, hu, rfl⟩ := TokenStore.mem_blacklist.1 ht
    exact hs.drawn u hu
  · obtain ⟨u, hu, rfl⟩ := TokenStore.mem_blacklist.1 ht
    exact hs.current u hu

theorem dropAll (hs : d.Tidy o n) (dead : Token → Bool) :
    Stores.Tidy o n { d with tokens := d.tokens.dropAll dead } :=
  { hs with
    secrets := hs.secrets.sublist (List.filter_sublist.map _)
    drawn := fun t ht => hs.drawn t (List.mem_filter.1 ht).1
    current := fun t ht => hs.current t (List.mem_filter.1 ht).1 }

/-- A token with a new secret is added. -/
theorem append (hs : d.Tidy o n) (hid : o.DrawsIn 0 n t.id) (hsecret : o.DrawsIn 0 n t.secret)
    (hnew : ∀ t' ∈ d.tokens.records, t'.secret ≠ t.secret)
    (hu : d.users.findById u.id = some u) (hst : t.StampedBy u) :
    Stores.Tidy o n { d with tokens := ⟨d.tokens.records ++ [t]⟩ } := by
  refine { hs with secrets := ?_, drawn := ?_, current := ?_ }
  · refine List.map_append ▸ List.nodup_append.2 ⟨hs.secrets, List.nodup_singleton _, ?_⟩
    simpa using hnew
  · simp only [List.mem_append, List.mem_singleton, or_imp, forall_and, forall_eq]
    exact ⟨⟨fun t ht => (hs.drawn t ht).1, hid⟩, fun t ht => (hs.drawn t ht).2, hsecret⟩
  · simp only [List.mem_append, List.mem_singleton, or_imp, forall_and, forall_eq]
    exact ⟨hs.current, u, hst.1 ▸ hu, hst⟩

/-- An account is opened under a name that was not drawn before. -/
theorem enroll (ho : o.Calm) (hs : d.Tidy o n) (hm : n ≤ m) (hid : o.DrawsIn n m u.id.text)
    (he : d.users.existsByEmail u.email = false) (hactive : u.isActive = true) :
    Stores.Tidy o m { d with users := ⟨d.users.records ++ [u]⟩ } := by
  have hs' := hs.later hm
  have hnew : d.users.findById u.id = none := by
    refine List.find?_eq_none.2 fun v hv => ?_
    have := ho.ne_of_drawn hid (hs.named v hv)
    simpa using fun h : v.id = u.id => this (congrArg _ h)
  refine { hs' with keyed := hs.keyed.append hnew, addressed := hs.addressed.append he,
                    active := ?_, named := ?_, current := fun t ht => ?_ }
  · simpa [or_imp, forall_and, hactive] using hs.active
  · simp only [List.mem_append, List.mem_singleton, or_imp, forall_and, forall_eq]
    exact ⟨hs'.named, hid.mono (Nat.zero_le _) le_rfl⟩
  · obtain ⟨v, hv, hst⟩ := hs.current t ht
    refine ⟨v, ?_, hst⟩
    rw [UserStore.findById_append hnew, if_neg, hv]
    rintro h
    rw [h, hnew] at hv
    cases hv

/-- A record is replaced that keeps its identifier and its address. -/
theorem replace (hs : d.Tidy o n) (hu : d.users.findById v.id = some u) (he : v.email = u.email)
    (hactive : v.isActive = true)
    (hst : ∀ t ∈ d.tokens.records, t.userId = v.id → t.credentialVersion = v.credentialVersion) :
    Stores.Tidy o n { d with users := d.users.replace v } := by
  obtain ⟨hmem, hid⟩ := UserStore.findById_eq hu
  have hforall : ∀ {P : User → Prop}, (∀ w ∈ d.users.records, P w) → P v →
      ∀ w ∈ (d.users.replace v).records, P w := by
    intro P h hv w hw
    obtain ⟨x, hx, rfl⟩ := List.mem_map.1 hw
    split_ifs
    exacts [hv, h x hx]
  refine { hs with keyed := hs.keyed.replace v, addressed := ?_, active := ?_, named := ?_,
                   current := fun t ht => ?_ }
  · refine hs.addressed.replace hs.keyed fun w hw hne hwe => hne ?_
    rw [List.inj_on_of_nodup_map hs.addressed hw hmem (hwe.trans he), hid]
  · exact hforall hs.active hactive
  · exact hforall hs.named (hid ▸ hs.named u hmem)
  · obtain ⟨w, hw, hst'⟩ := hs.current t ht
    rw [UserStore.findById_replace hu]
    split_ifs with h
    · exact ⟨v, rfl, h, hst t ht h⟩
    · exact ⟨w, hw, hst'⟩

end Stores.Tidy

end

/-! ## Parts of operations -/

namespace Service

open Gatehouse.Flow

variable {o : Surroundings} {ε : Type} {s : Scene} {cfg : Settings}

theorem ensures_log {e : Event} {Ψ : Ending ε Unit → Scene → Prop}
    (h : Ψ (.done ()) { s with moment := s.moment + 1 }) :
    (Flow.log e : Flow ε Unit).Ensures o s Ψ := h

theorem ensures_now {Ψ : Ending AuthError Instant → Scene → Prop}
    (h : Ψ (.done (o.reply s.moment .now))
      { s with moment := s.moment + 1, readings := o.reply s.moment .now :: s.readings }) :
    now.Ensures o s Ψ := h

theorem ensures_draw (ho : o.Calm) {Ψ : Ending AuthError String → Scene → Prop}
    (h : ∀ x, o.DrawsIn s.moment (s.moment + 1) x → Ψ (.done x) { s with moment := s.moment + 1 }) :
    draw.Ensures o s Ψ := by
  obtain ⟨x, hx⟩ := ho.draws s.moment OpaqueToken.standardBytes
  have := h x ⟨s.moment, _, le_rfl, Nat.lt_succ_self _, hx⟩
  unfold draw Ensures
  simp only [Flow.run, Scene.next, Stores.serve, hx]
  exact this

theorem ensures_hash {password : String} {Ψ : Ending AuthError String → Scene → Prop}
    (hf : ∀ e, Ψ (.failed e) { s with moment := s.moment + 1 })
    (hd : ∀ digest, o.reply s.moment (.hash password) = .ok digest →
      Ψ (.done digest) { s with moment := s.moment + 1 }) : (hash password).Ensures o s Ψ := by
  unfold hash Ensures
  simp only [Flow.run, Scene.next, Stores.serve]
  cases hr : o.reply s.moment (.hash password) with
  | error e => exact hf e
  | ok digest => exact hd digest hr

theorem ensures_verify {password digest : String} {Ψ : Ending AuthError Bool → Scene → Prop}
    (h : Ψ (.done (o.reply s.moment (.verify password digest))) { s with moment := s.moment + 1 }) :
    (verify password (some digest)).Ensures o s Ψ := h

theorem ensures_verifyDecoy {password : String} {Ψ : Ending AuthError Bool → Scene → Prop}
    (h : ∀ b, Ψ (.done b) { s with moment := s.moment + 1 }) :
    (verify password none).Ensures o s Ψ := h _

theorem ensures_issue {u : User} {t : Instant} {Ψ : Ending AuthError Jwt.Issued → Scene → Prop}
    (hf : ∀ e, (∀ a, e ≠ .done a) → ¬ o.Signs → Ψ e { s with moment := s.moment + 1 })
    (ha : ∀ a, Ψ (.done a) { s with moment := s.moment + 1 }) : (issue u t).Ensures o s Ψ := by
  have hsigns : (∀ a, o.reply s.moment (.issue u.id u.email u.name t) ≠ .ok (.ok a)) → ¬ o.Signs :=
    fun hne h => (h s.moment u.id u.email u.name t).elim hne
  unfold issue Ensures
  simp only [Flow.run, Scene.next, Stores.serve]
  rcases hr : o.reply s.moment (.issue u.id u.email u.name t) with x | e | a
  · exact hf _ (fun a h => by cases h) (hsigns (by simp [hr]))
  · exact hf _ (fun a h => by cases h) (hsigns (by simp [hr]))
  · exact ha a

theorem ensures_parse {token : String} {t : Instant}
    {Ψ : Ending AuthError Jwt.Identity → Scene → Prop}
    (hf : ∀ e, Ψ (.failed e) { s with moment := s.moment + 1 })
    (hd : ∀ v, Ψ (.done v) { s with moment := s.moment + 1 }) :
    (Flow.ask (.parse token t) fun r =>
      .ofExcept (r.mapError AccessTokenError.toAuthError)).Ensures o s Ψ := by
  unfold Ensures
  simp only [Flow.run, Scene.next, Stores.serve]
  cases o.reply s.moment (.parse token t) with
  | error e => exact hf _
  | ok v => exact hd v

theorem ensures_nextVersion {version : Int} {Ψ : Ending AuthError Int → Scene → Prop}
    (hc : Ψ (.crashed .count) s) (hd : Ψ (.done (version + 1)) s) :
    (nextVersion version).Ensures o s Ψ := by
  unfold nextVersion
  split_ifs
  · exact hd
  · exact hc

/-- A mail is handed over or not; that takes an exchange or two. -/
theorem ensures_deliver {id : UserId} {m : Mail} {Ψ : Ending AuthError Unit → Scene → Prop}
    (h : ∀ n, s.moment < n → Ψ (.done ()) { s with moment := n }) :
    (deliver cfg id m).Ensures o s Ψ := by
  unfold deliver Ensures
  simp only [Flow.run, Scene.next, Stores.serve]
  cases mailError? cfg.mailLimit (o.reply s.moment (.send cfg.mailLimit m)) with
  | none => exact h _ (Nat.lt_succ_self _)
  | some e => exact h _ (show s.moment < s.moment + 1 + 1 by omega)

section

variable (ho : o.Serves)
include ho

theorem ensures_tryUsers {c : UserCall} {a : c.Answer} {after : UserStore}
    {Ψ : Ending StoreError c.Answer → Scene → Prop} (hp : s.users.perform c = (.ok a, after))
    (h : Ψ (.done a) { s with users := after, moment := s.moment + 1 }) :
    (tryUsers cfg c).Ensures o s Ψ := by
  unfold tryUsers Ensures
  simp only [Flow.run, Scene.next, Stores.serve, hp, ho _, Fate.settle]
  exact h

theorem ensures_users {c : UserCall} {a : c.Answer} {after : UserStore}
    {Ψ : Ending AuthError c.Answer → Scene → Prop} (hp : s.users.perform c = (.ok a, after))
    (h : Ψ (.done a) { s with users := after, moment := s.moment + 1 }) :
    (users cfg c).Ensures o s Ψ := ensures_mapFailure (ensures_tryUsers ho hp h)

theorem ensures_tokens {c : TokenCall} {a : c.Answer} {after : TokenStore}
    {Ψ : Ending AuthError c.Answer → Scene → Prop} (hp : s.tokens.perform c = (.ok a, after))
    (h : Ψ (.done a) { s with
      tokens := after
      moment := s.moment + 1
      minted :=
        (Exchange.minted? ⟨.tokens cfg.storageLimit c, some (.ok a)⟩).toList ++ s.minted }) :
    (tokens cfg c).Ensures o s Ψ := by
  refine ensures_mapFailure ?_
  unfold tryTokens Ensures
  simp only [Flow.run, Scene.next, Stores.serve, hp, ho _, Fate.settle]
  exact h

theorem ensures_revoke {t : Token} {Ψ : Ending AuthError Unit → Scene → Prop}
    (ht : s.tokens.findBySecret t.secret = some t) (hr : t.revoked = false)
    (h : Ψ (.done ()) { s with tokens := s.tokens.blacklist t.secret, moment := s.moment + 1 }) :
    (revoke cfg t).Ensures o s Ψ := by
  have hactive : s.tokens.isActive t.secret = true := by simp [TokenStore.isActive, ht, hr]
  have hp : s.tokens.perform (.revokeIfActive t.secret) =
      (.ok true, s.tokens.blacklist t.secret) := by
    simp [TokenStore.perform, hactive]
  exact ensures_bind (ensures_tokens ho hp h)

theorem ensures_findAccount {email : String} {Ψ : Ending AuthError (Option User) → Scene → Prop}
    (he : ∀ e, EmailAddress.ofText email = .error e → Ψ (.done none) s)
    (ha : ∀ address, EmailAddress.ofText email = .ok address →
      Ψ (.done (s.users.findByEmail address)) { s with moment := s.moment + 1 }) :
    (findAccount cfg email).Ensures o s Ψ := by
  unfold findAccount
  cases hf : EmailAddress.ofText email with
  | error e => exact he e hf
  | ok address => exact ensures_users (c := .findByEmail address) ho rfl (ha address hf)

theorem ensures_ensureCurrent {u : User} {t : Token} {Ψ : Ending AuthError Unit → Scene → Prop}
    (hu : s.users.findById u.id = some u) (ht : t.credentialVersion = u.credentialVersion)
    (h : Ψ (.done ()) { s with moment := s.moment + 1 }) :
    (ensureCurrent cfg u t).Ensures o s Ψ := by
  refine ensures_bind (ensures_users (c := .findById u.id) ho rfl ?_)
  simp only [hu, Option.any_some, ht, beq_self_eq_true, if_true]
  exact h

theorem ensures_markVerified {u : User} {now : Instant} {Ψ : Ending AuthError User → Scene → Prop}
    (hs : s.users.Addressed) (hu : s.users.findById u.id = some u)
    (hv : u.emailVerified = true → Ψ (.done u) s)
    (hn : u.emailVerified = false → Ψ (.done (u.confirmed now))
      { s with users := s.users.replace (u.confirmed now), moment := s.moment + 1 }) :
    (markVerified cfg u now).Ensures o s Ψ := by
  unfold markVerified
  split_ifs with h
  · exact hv h
  · exact ensures_mapFailure (ensures_tryUsers ho
      (UserStore.perform_update (UserStore.update_stored hs hu rfl rfl)) (hn (by simpa using h)))

theorem ensures_findToken {kind : TokenKind} {secret : String}
    {Ψ : Ending AuthError Token → Scene → Prop}
    (hn : (∀ t, s.tokens.findBySecret secret = some t → t.kind ≠ kind) →
      Ψ (.failed .invalidToken) { s with moment := s.moment + 1 })
    (ha : ∀ t, s.tokens.findBySecret secret = some t → t.kind = kind →
      Ψ (.done t) { s with moment := s.moment + 1 }) :
    (findToken cfg kind secret).Ensures o s Ψ := by
  refine ensures_bind (ensures_tokens (c := .findBySecret secret) ho rfl ?_)
  refine ensures_ofOption (fun hf => hn fun t ht hk => ?_) fun t hf => ?_
  · simp [ht, hk] at hf
  · obtain ⟨ht, hk⟩ := Option.filter_eq_some_iff.1 hf
    exact ha t ht (by simpa using hk)

end

section

variable (ho : o.Calm)
include ho

theorem ensures_storeToken {u : User} {kind : TokenKind} {seconds : Nat} {now expiry : Instant}
    {Ψ : Ending AuthError Token → Scene → Prop} (he : now.addSeconds? seconds = some expiry)
    (hs : ∀ t ∈ s.tokens.records, o.DrawsIn 0 s.moment t.id ∧ o.DrawsIn 0 s.moment t.secret)
    (h : ∀ id secret, o.DrawsIn s.moment (s.moment + 3) id →
      o.DrawsIn s.moment (s.moment + 3) secret →
      Ψ (.done (.mint u kind now expiry id secret)) { s with
        tokens := ⟨s.tokens.records ++ [.mint u kind now expiry id secret]⟩
        moment := s.moment + 3
        minted := .mint u kind now expiry id secret :: s.minted }) :
    (storeToken cfg u kind seconds now).Ensures o s Ψ := by
  refine ensures_bind (ensures_draw ho fun id hid => ?_)
  refine ensures_bind (ensures_draw ho fun secret hsecret => ?_)
  simp only [he]
  have hid : o.DrawsIn s.moment (s.moment + 3) id := hid.mono le_rfl (by omega)
  have hsecret : o.DrawsIn s.moment (s.moment + 3) secret :=
    hsecret.mono (Nat.le_succ _) (Nat.le_succ _)
  have hnew : s.tokens.create (.mint u kind now expiry id secret) =
      .ok ⟨s.tokens.records ++ [.mint u kind now expiry id secret]⟩ :=
    TokenStore.create_new fun t ht =>
      ⟨ho.ne_of_drawn hsecret (hs t ht).2, ho.ne_of_drawn hid (hs t ht).1⟩
  exact ensures_bind (ensures_tokens ho.served (TokenStore.perform_create hnew)
    (h id secret hid hsecret))

theorem ensures_sendVerification {u : User} {now expiry : Instant}
    {Ψ : Ending AuthError Unit → Scene → Prop}
    (he : now.addSeconds? verificationSeconds = some expiry)
    (hs : ∀ t ∈ s.tokens.records, o.DrawsIn 0 s.moment t.id ∧ o.DrawsIn 0 s.moment t.secret)
    (h : ∀ id secret n, s.moment < n → o.DrawsIn s.moment n id → o.DrawsIn s.moment n secret →
      Ψ (.done ()) { s with
        tokens := ⟨s.tokens.records ++ [.mint u .verification now expiry id secret]⟩
        moment := n
        minted := .mint u .verification now expiry id secret :: s.minted }) :
    (sendVerification cfg u now).Ensures o s Ψ := by
  refine ensures_bind (ensures_storeToken ho he hs fun id secret hid hsecret => ?_)
  refine ensures_bind (ensures_deliver fun n hn => ?_)
  have hn : s.moment + 3 < n := hn
  exact ensures_log (h id secret (n + 1) (by omega) (hid.mono le_rfl (by omega))
    (hsecret.mono le_rfl (by omega)))

end

theorem ensures_sweepOnce (ho : o.Serves) {limit : Span} {Ψ : Ending SweepError Nat → Scene → Prop}
    (h : Ψ (.done (s.tokens.count (TokenStore.isSwept (o.reply s.moment .now)))) { s with
      tokens := s.tokens.dropAll (TokenStore.isSwept (o.reply s.moment .now))
      moment := s.moment + 1 + 1
      readings := o.reply s.moment .now :: s.readings }) : (sweepOnce limit).Ensures o s Ψ := by
  unfold sweepOnce Ensures
  simp only [Flow.run, Scene.next, Stores.serve, TokenStore.perform, ho _, Fate.settle]
  exact h

theorem ensures_checkAlive {t : Token} {now : Instant} {Ψ : Ending AuthError Unit → Scene → Prop}
    (hf : ∀ e, ¬ (t.isExpired now = false ∧ t.revoked = false) → Ψ (.failed e) s)
    (ha : t.isExpired now = false → t.revoked = false → Ψ (.done ()) s) :
    (checkAlive t now).Ensures o s Ψ := by
  unfold checkAlive
  split_ifs with he hr
  · exact hf _ fun h => by rw [h.1] at he; cases he
  · exact hf _ fun h => by rw [h.2] at hr; cases hr
  · exact ha (by simpa using he) (by simpa using hr)

end Service

end Gatehouse
