/-
  Gatehouse — what a call comes to.

  `Deed` lists all that a call can do that is made alone, in calm surroundings, on tidy
  stores: what it answers, what it leaves in the stores and which tokens it adds. A call
  that is refused leaves the stores as they were.

  * `Call.deed`: each operation does one of these deeds;
  * `Deed.tidy`: a deed leaves tidy stores tidy;
  * `State.sequence_invariant`: so what a deed keeps holds after every sequence of calls.
-/
import Gatehouse.Proofs.Calm

namespace Gatehouse

/-! ## Deeds -/

/-- The entered address is that of the stored record. -/
structure UserStore.Reaches (s : UserStore) (entered : String) (u : User) : Prop where
  address : EmailAddress.ofText entered = .ok u.email
  found : s.findByEmail u.email = some u

/-- The secret is that of a stored token of a kind, which is alive at the time of day that is
    read next. -/
structure Stores.Presents (o : Surroundings) (n : Nat) (d : Stores) (kind : TokenKind)
    (secret : String) (t : Token) : Prop where
  found : d.tokens.findBySecret secret = some t
  kind : t.kind = kind
  unexpired : t.isExpired (o.reply n .now) = false
  active : t.revoked = false

/-- The record is the one that a form opens. -/
structure User.Enrolls (o : Surroundings) (n : Nat) (d : Stores) (s' : Scene)
    (form : Registration.Form) (u : User) : Prop where
  address : EmailAddress.ofText form.email = .ok u.email
  free : d.users.existsByEmail u.email = false
  digest : ∃ k, o.reply k (.hash form.password) = .ok u.passwordHash
  active : u.isActive = true
  unconfirmed : u.emailVerified = false
  drawn : o.DrawsIn n s'.moment u.id.text

/-- The token is minted for a user in the course of a call. -/
structure Token.MintedFor (o : Surroundings) (n : Nat) (s' : Scene) (u : User) (kind : TokenKind)
    (seconds : Nat) (t : Token) : Prop where
  kind : t.kind = kind
  stamped : t.StampedBy u
  active : t.revoked = false
  clock : t.createdAt ∈ s'.readings
  expiry : t.createdAt.addSeconds? seconds = some t.expiresAt
  id : o.DrawsIn n s'.moment t.id
  secret : o.DrawsIn n s'.moment t.secret

/-- What keeps a call from being carried out, where the stores alone can. -/
def Call.Excused (o : Surroundings) (n : Nat) (d : Stores) : Call → Prop
  | .logout _ => False
  | .login _ _ => ¬ o.Signs
  | .refresh secret => o.Signs → ¬ ∃ t, d.Presents o n .refresh secret t
  | .verifyEmail secret => ¬ ∃ t, d.Presents o n .verification secret t
  | .resendVerification email => ∃ e, EmailAddress.ofText email = .error e
  | _ => True

/-- All that a call can do that starts at the moment `n` with the stores `d` and ends in the
    scene `s'`. -/
inductive Deed (cfg : Settings) (o : Surroundings) (n : Nat) (d : Stores) (s' : Scene) :
    (c : Call) → Ending c.Failure c.Value → Prop
  /-- The call is refused. -/
  | refused {c e} : (∀ v, e ≠ .done v) → c.Excused o n d → s'.toStores = d →
      s'.minted = [] → Deed cfg o n d s' c e
  /-- The address or the password is wrong. -/
  | turnedAway {email password} :
      (∀ u, d.users.Reaches email u → ∃ k, o.reply k (.verify password u.passwordHash) = false) →
      s'.toStores = d → s'.minted = [] →
      Deed cfg o n d s' (.login email password) (.failed .invalidCredentials)
  | registered {form u t} : u.Enrolls o n d s' form →
      t.MintedFor o n s' u .verification Service.verificationSeconds →
      s'.users = ⟨d.users.records ++ [u]⟩ → s'.tokens = ⟨d.tokens.records ++ [t]⟩ →
      s'.minted = [t] → Deed cfg o n d s' (.register form) (.done u.profile)
  | loggedIn {email password u l t} : d.users.Reaches email u →
      (∃ k, o.reply k (.verify password u.passwordHash) = true) →
      t.MintedFor o n s' u .refresh Service.refreshSeconds →
      l.profile = u.profile → l.tokens.refreshSecret = t.secret →
      l.tokens.refreshExpiresAt = t.expiresAt →
      s'.users = d.users → s'.tokens = ⟨d.tokens.records ++ [t]⟩ → s'.minted = [t] →
      Deed cfg o n d s' (.login email password) (.done l)
  | loggedOut {secret} : s'.users = d.users → s'.tokens = d.tokens.blacklist secret →
      s'.minted = [] → Deed cfg o n d s' (.logout secret) (.done ())
  /-- A refresh token is traded for its successor. -/
  | rotated {secret t u p t'} : cfg.rotates = true → d.Presents o n .refresh secret t →
      d.users.findById t.userId = some u → t'.MintedFor o n s' u .refresh Service.refreshSeconds →
      p.refreshSecret = t'.secret → p.refreshExpiresAt = t'.expiresAt →
      s'.users = d.users → s'.tokens = ⟨(d.tokens.blacklist secret).records ++ [t']⟩ →
      s'.minted = [t'] → Deed cfg o n d s' (.refresh secret) (.done p)
  /-- Without rotation a refresh token is kept. -/
  | kept {secret t p} : cfg.rotates = false → d.Presents o n .refresh secret t →
      p.refreshSecret = t.secret → p.refreshExpiresAt = t.expiresAt →
      s'.toStores = d → s'.minted = [] → Deed cfg o n d s' (.refresh secret) (.done p)
  | validated {token v} : s'.toStores = d → s'.minted = [] →
      Deed cfg o n d s' (.validate token) (.done v)
  /-- The password is replaced, and all tokens of the user are removed. -/
  | rekeyed {id old new u digest now} : d.users.findById id = some u →
      (∃ k, o.reply k (.hash new) = .ok digest) →
      s'.users = d.users.replace (u.rekeyed digest now) →
      s'.tokens = d.tokens.dropAll (TokenStore.isOwnedBy id) → s'.minted = [] →
      Deed cfg o n d s' (.changePassword id old new) (.done ())
  /-- A verification token is used up, and the address of its owner is confirmed. -/
  | confirmed {secret t u p} (now : Instant) : d.Presents o n .verification secret t →
      d.users.findById t.userId = some u → p.id = u.id →
      s'.users = (if u.emailVerified then d.users else d.users.replace (u.confirmed now)) →
      s'.tokens = d.tokens.blacklist secret → s'.minted = [] →
      Deed cfg o n d s' (.verifyEmail secret) (.done p)
  | resent {email u t} : d.users.Reaches email u → u.emailVerified = false →
      t.MintedFor o n s' u .verification Service.verificationSeconds →
      s'.users = d.users → s'.tokens = ⟨d.tokens.records ++ [t]⟩ → s'.minted = [t] →
      Deed cfg o n d s' (.resendVerification email) (.done ())
  /-- The address waits for no confirmation. -/
  | skipped {email} : (∀ u, d.users.Reaches email u → u.emailVerified = true) →
      s'.toStores = d → s'.minted = [] →
      Deed cfg o n d s' (.resendVerification email) (.done ())
  | swept {limit count} : s'.users = d.users →
      s'.tokens = d.tokens.dropAll (TokenStore.isSwept (o.reply n .now)) → s'.minted = [] →
      Deed cfg o n d s' (.sweep limit) (.done count)

/-! ## Operations -/

/-- A form is accepted with the address that was entered. -/
theorem Registration.Form.address_of_validate {form : Registration.Form} {a : Registration.Accepted}
    (h : form.validate = .ok a) : EmailAddress.ofText form.email = .ok a.email := by
  unfold validate at h
  split at h
  · rename_i email name he _
    split_ifs at h
    split at h <;> cases h
    unfold checkEmail at he
    split_ifs at he
    cases hf : EmailAddress.ofText form.email with
    | error e => rw [hf] at he; cases he
    | ok e => rw [hf] at he; cases he; rfl
  · cases h

section

variable {o : Surroundings} {n m : Nat} {d : Stores}

theorem UserStore.Reaches.unique {s : UserStore} {entered : String} {u v : User}
    (hu : s.Reaches entered u) (hv : s.Reaches entered v) : u = v := by
  have he : u.email = v.email := Except.ok.inj (hu.address.symm.trans hv.address)
  exact Option.some.inj (hu.found.symm.trans (he ▸ hv.found))

/-- The owner of a presented token is stored, and the token is not older than the owner's
    credentials. -/
theorem Stores.Presents.owner (hs : d.Tidy o n) {kind : TokenKind} {secret : String} {t : Token}
    (h : d.Presents o n kind secret t) :
    ∃ u, d.users.findById t.userId = some u ∧ t.StampedBy u ∧ u.isActive = true := by
  obtain ⟨u, hu, hst⟩ := hs.current t (TokenStore.findBySecret_eq h.found).1
  exact ⟨u, hu, hst, hs.active u (UserStore.findById_eq hu).1⟩

theorem Stores.Presents.unique {kind : TokenKind} {secret : String} {t t' : Token}
    (h : d.Presents o n kind secret t) (h' : d.tokens.findBySecret secret = some t') : t' = t :=
  Option.some.inj (h'.symm.trans h.found)

theorem Token.mintedFor_mint {u : User} {kind : TokenKind} {seconds k : Nat} {expiry : Instant}
    {id secret : String} {s' : Scene} (he : (o.reply k .now).addSeconds? seconds = some expiry)
    (hr : o.reply k .now ∈ s'.readings) (hid : o.DrawsIn n s'.moment id)
    (hs : o.DrawsIn n s'.moment secret) :
    (Token.mint u kind (o.reply k .now) expiry id secret).MintedFor o n s' u kind seconds :=
  ⟨rfl, ⟨rfl, rfl⟩, rfl, hr, he, hid, hs⟩

end

-- A rule is applied as it stands; to unfold what it is about would run the operation.
attribute [local irreducible] Flow.Ensures

namespace Service

open Gatehouse.Flow

variable {o : Surroundings} {cfg : Settings} {n : Nat} {d : Stores}

theorem logout_deed (ho : o.Serves) (secret : String) : (logout cfg secret).Ensures o ⟨d, n, [], []⟩
    fun e s' => Deed cfg o n d s' (.logout secret) e := by
  refine ensures_bind (ensures_tokens (c := .blacklist secret) ho rfl ?_)
  exact ensures_log (.loggedOut rfl rfl rfl)

theorem validate_deed (token : String) : (validate token).Ensures o ⟨d, n, [], []⟩
    fun e s' => Deed cfg o n d s' (.validate token) e := by
  refine ensures_bind (ensures_now (ensures_parse (fun e => ?_) fun v => ?_))
  · exact .refused (fun v h => by cases h) trivial rfl rfl
  · exact .validated rfl rfl

theorem sweep_deed (ho : o.Serves) (limit : Span) : (sweepOnce limit).Ensures o ⟨d, n, [], []⟩
    fun e s' => Deed cfg o n d s' (.sweep limit) e := ensures_sweepOnce ho (.swept rfl rfl rfl)

/-- A secret is looked up and looked over. The call goes on with the token if one is presented, and
    is refused otherwise. -/
theorem ensures_presented (ho : o.Serves) {kind : TokenKind} {secret : String} {α : Type}
    {f : Instant → Token → Flow AuthError α} {Ψ : Ending AuthError α → Scene → Prop}
    (hn : ∀ e s', (¬ ∃ t, d.Presents o n kind secret t) → s'.toStores = d → s'.minted = [] →
      Ψ (.failed e) s')
    (ha : ∀ t, d.Presents o n kind secret t →
      (f (o.reply n .now) t).Ensures o ⟨d, n + 1 + 1, [], [o.reply n .now]⟩ Ψ) :
    (now >>= fun time => findToken cfg kind secret >>= fun t =>
      checkAlive t time >>= fun _ => f time t).Ensures o ⟨d, n, [], []⟩ Ψ := by
  refine ensures_bind (ensures_now ?_)
  refine ensures_bind (ensures_findToken ho (fun h => hn _ _ ?_ rfl rfl) fun t ht hk => ?_)
  · rintro ⟨t, ht⟩
    exact h t ht.found ht.kind
  refine ensures_bind (ensures_checkAlive (fun e he => hn _ _ ?_ rfl rfl) fun he hr => ?_)
  · rintro ⟨t', ht'⟩
    cases ht'.unique ht
    exact he ⟨ht'.unexpired, ht'.active⟩
  exact ha t ⟨ht, hk, he, hr⟩

/-- The owner of a token is looked up. -/
theorem ensures_owner (ho : o.Serves) {s : Scene} {id : UserId} {u : User} {e : AuthError}
    {α : Type} {f : User → Flow AuthError α} {Ψ : Ending AuthError α → Scene → Prop}
    (hu : s.users.findById id = some u)
    (h : (f u).Ensures o { s with moment := s.moment + 1 } Ψ) :
    (users cfg (.findById id) >>= fun u? => .ofOption e u? >>= f).Ensures o s Ψ := by
  refine ensures_bind (ensures_users (c := .findById id) ho rfl ?_)
  refine ensures_bind (ensures_ofOption (fun h => ?_) fun v hv => ?_)
  · cases hu.symm.trans h
  · cases hu.symm.trans hv
    exact h

/-- A confirmation does its deed wherever the owners of tokens are stored. -/
theorem verifyEmail_deed (ho : o.Serves) (hs : d.users.Addressed) {secret : String}
    (howner : ∀ t, d.Presents o n .verification secret t →
      ∃ u, d.users.findById t.userId = some u) :
    (verifyEmail cfg secret).Ensures o ⟨d, n, [], []⟩
      fun e s' => Deed cfg o n d s' (.verifyEmail secret) e := by
  refine ensures_presented ho
    (fun e s' h hd hm => .refused (fun v h => by cases h) h hd hm) fun t hp => ?_
  obtain ⟨u, hu⟩ := howner t hp
  have hself : d.users.findById u.id = some u := (UserStore.findById_eq hu).2 ▸ hu
  obtain rfl := (TokenStore.findBySecret_eq hp.found).2
  refine ensures_bind (ensures_revoke ho hp.found hp.active ?_)
  refine ensures_owner ho hu ?_
  refine ensures_bind (ensures_markVerified ho hs hself (fun h => ?_) fun h => ?_)
  · refine ensures_bind (ensures_log (ensures_done ?_))
    exact .confirmed (o.reply n .now) hp hu rfl (by rw [if_pos h]) rfl rfl
  · refine ensures_bind (ensures_log (ensures_done ?_))
    exact .confirmed (o.reply n .now) hp hu rfl (by simp [h]) rfl rfl

section

variable (ho : o.Calm) (hs : d.Tidy o n)
include ho hs

theorem register_deed (form : Registration.Form) : (register cfg form).Ensures o ⟨d, n, [], []⟩
    fun e s' => Deed cfg o n d s' (.register form) e := by
  have hrefused : ∀ {e : AuthError} {s' : Scene}, s'.toStores = d → s'.minted = [] →
      Deed cfg o n d s' (.register form) (.failed e) := .refused (fun v h => by cases h) trivial
  refine ensures_bind (ensures_ofExcept (fun _ _ => hrefused rfl rfl) fun valid hvalid => ?_)
  refine ensures_bind (ensures_users (c := .existsByEmail valid.email) ho.served rfl ?_)
  dsimp only
  split_ifs with htaken
  · exact ensures_fail (hrefused rfl rfl)
  refine ensures_bind (ensures_hash (fun e => hrefused rfl rfl) fun digest hdigest => ?_)
  refine ensures_bind (ensures_now ?_)
  refine ensures_bind (ensures_draw ho fun id hid => ?_)
  dsimp only at hdigest hid ⊢
  replace hid : o.DrawsIn n (n + 1 + 1 + 1 + 1) id := hid.mono (by omega) le_rfl
  have hfree : ∀ u ∈ d.users.records, u.id ≠ ⟨id⟩ := fun u hu h =>
    ho.ne_of_drawn hid (hs.named u hu) (by rw [h])
  have htaken : d.users.existsByEmail valid.email = false := by simpa using htaken
  refine ensures_bind (ensures_mapFailure (ensures_tryUsers ho.served
    (UserStore.perform_create (UserStore.create_new hfree htaken)) ?_))
  refine ensures_bind (ensures_log ?_)
  refine ensures_bind (ensures_deliver fun m hm => ?_)
  obtain ⟨expiry, hexpiry⟩ := (ho.inRange (n + 1 + 1)).2
  dsimp only at hm ⊢
  refine ensures_bind (ensures_attempt (ensures_sendVerification ho hexpiry
    (hs.later (by omega : n ≤ m)).drawn fun tid secret m' hm' htid hsecret => ?_))
  dsimp only at hm' htid hsecret ⊢
  refine ensures_done ?_
  exact .registered
    ⟨form.address_of_validate hvalid, htaken, ⟨_, hdigest⟩, rfl, rfl,
      hid.mono le_rfl (show _ ≤ m' by omega)⟩
    (Token.mintedFor_mint hexpiry (List.mem_singleton_self _) (htid.mono (by omega) le_rfl)
      (hsecret.mono (by omega) le_rfl)) rfl rfl rfl

theorem login_deed (email password : String) : (login cfg email password).Ensures o ⟨d, n, [], []⟩
    fun e s' => Deed cfg o n d s' (.login email password) e := by
  have hnobody : ∀ {s' : Scene}, (∀ u, ¬ d.users.Reaches email u) → s'.toStores = d →
      s'.minted = [] → Deed cfg o n d s' (.login email password) (.failed .invalidCredentials) :=
    fun h => .turnedAway fun u hu => absurd hu (h u)
  refine ensures_bind (ensures_findAccount ho.served (fun e he => ?_) fun address ha => ?_)
  · refine ensures_bind (ensures_verifyDecoy fun _ => ?_)
    refine ensures_bind (ensures_log (ensures_fail <| hnobody (fun u hu => ?_) rfl rfl))
    cases he.symm.trans hu.address
  dsimp only
  cases hu : d.users.findByEmail address with
  | none =>
    refine ensures_bind (ensures_verifyDecoy fun _ => ?_)
    refine ensures_bind (ensures_log (ensures_fail <| hnobody (fun u hu' => ?_) rfl rfl))
    cases ha.symm.trans hu'.address
    cases hu.symm.trans hu'.found
  | some u =>
    obtain ⟨hmem, rfl⟩ := UserStore.findByEmail_eq hu
    have hreach : d.users.Reaches email u := ⟨ha, hu⟩
    refine ensures_bind (ensures_verify ?_)
    dsimp only
    split_ifs with hv hactive
    · refine ensures_bind (ensures_now ?_)
      obtain ⟨expiry, hexpiry⟩ := (ho.inRange (n + 1 + 1)).1
      refine ensures_bind (ensures_issue (fun e he hsigns => ?_) fun a => ?_)
      · cases e with
        | done a => exact absurd rfl (he a)
        | _ => exact .refused (fun v h => by cases h) hsigns rfl rfl
      refine ensures_bind (ensures_storeToken ho hexpiry
        (hs.later (m := n + 1 + 1 + 1 + 1) (by omega)).drawn fun id secret hid hsecret => ?_)
      refine ensures_bind (ensures_log (ensures_done ?_))
      dsimp only at hid hsecret ⊢
      exact .loggedIn hreach ⟨_, hv⟩ (Token.mintedFor_mint hexpiry (List.mem_singleton_self _)
        (hid.mono (by omega) (by simp)) (hsecret.mono (by omega) (by simp))) rfl rfl rfl rfl rfl rfl
    · exact absurd (hs.active u hmem) hactive
    · refine ensures_bind (ensures_log (ensures_fail <| .turnedAway (fun v hv' => ?_) rfl rfl))
      exact hv'.unique hreach ▸ ⟨_, by simpa using hv⟩

theorem refresh_deed (secret : String) : (refresh cfg secret).Ensures o ⟨d, n, [], []⟩
    fun e s' => Deed cfg o n d s' (.refresh secret) e := by
  refine ensures_presented ho.served
    (fun e s' h hd hm => .refused (fun v h => by cases h) (fun _ => h) hd hm) fun t hp => ?_
  obtain ⟨u, hu, hst, hactive⟩ := hp.owner hs
  have hself : d.users.findById u.id = some u := (UserStore.findById_eq hu).2 ▸ hu
  obtain rfl := (TokenStore.findBySecret_eq hp.found).2
  refine ensures_owner ho.served hu ?_
  simp only [hactive, Bool.not_true, Bool.false_eq_true, if_false, ne_eq, hst.2, not_true_eq_false]
  refine ensures_bind (ensures_issue (fun e he hsigns => ?_) fun a => ?_)
  · cases e with
    | done a => exact absurd rfl (he a)
    | _ => exact .refused (fun v h => by cases h) (fun h => absurd h hsigns) rfl rfl
  dsimp only
  split_ifs with hrot
  · refine ensures_bind (ensures_revoke ho.served hp.found hp.active ?_)
    obtain ⟨expiry, hexpiry⟩ := (ho.inRange n).1
    refine ensures_bind (ensures_storeToken ho hexpiry
      ((hs.blacklist t.secret).later (m := n + 1 + 1 + 1 + 1 + 1) (by omega)).drawn
      fun id secret hid hsecret => ?_)
    refine ensures_bind (ensures_ensureCurrent ho.served hself rfl ?_)
    refine ensures_bind (ensures_log (ensures_done ?_))
    dsimp only at hid hsecret ⊢
    exact .rotated hrot hp hu (Token.mintedFor_mint hexpiry (List.mem_singleton_self _)
      (hid.mono (by omega) (by simp)) (hsecret.mono (by omega) (by simp))) rfl rfl rfl rfl rfl
  · exact ensures_done <| .kept (by simpa using hrot) hp rfl rfl rfl rfl

theorem changePassword_deed (id : UserId) (old new : String) :
    (changePassword cfg id old new).Ensures o ⟨d, n, [], []⟩
      fun e s' => Deed cfg o n d s' (.changePassword id old new) e := by
  have hrefused : ∀ {e : AuthError} {s' : Scene}, s'.toStores = d → s'.minted = [] →
      Deed cfg o n d s' (.changePassword id old new) (.failed e) :=
    .refused (fun v h => by cases h) trivial
  refine ensures_bind (ensures_users (c := .findById id) ho.served rfl ?_)
  refine ensures_bind (ensures_ofOption (fun h => hrefused rfl rfl) fun u hu => ?_)
  refine ensures_bind (ensures_verify ?_)
  dsimp only
  split_ifs with hv
  · cases hw : Password.weakness? new with
    | some w => exact ensures_fail (hrefused rfl rfl)
    | none =>
      refine ensures_bind (ensures_hash (fun e => hrefused rfl rfl) fun digest hdigest => ?_)
      refine ensures_bind (ensures_nextVersion ?_ ?_)
      · exact .refused (fun v h => by cases h) trivial rfl rfl
      refine ensures_bind (ensures_now ?_)
      obtain ⟨-, rfl⟩ := UserStore.findById_eq hu
      refine ensures_bind (ensures_mapFailure (ensures_tryUsers ho.served
        (UserStore.perform_update (UserStore.update_stored hs.addressed hu rfl rfl)) ?_))
      refine ensures_bind (ensures_tokens (c := .deleteAllForUser u.id) ho.served rfl ?_)
      exact ensures_log (.rekeyed hu ⟨_, hdigest⟩ rfl rfl rfl)
  · exact ensures_fail (hrefused rfl rfl)

theorem resendVerification_deed (email : String) :
    (resendVerification cfg email).Ensures o ⟨d, n, [], []⟩
      fun e s' => Deed cfg o n d s' (.resendVerification email) e := by
  unfold resendVerification
  cases ha : EmailAddress.ofText email with
  | error e => exact ensures_fail (.refused (fun v h => by cases h) ⟨e, ha⟩ rfl rfl)
  | ok address =>
    refine ensures_bind (ensures_users (c := .findByEmail address) ho.served rfl ?_)
    cases hu : d.users.findByEmail address with
    | none =>
      refine ensures_log (.skipped (fun u hu' => ?_) rfl rfl)
      cases ha.symm.trans hu'.address
      cases hu.symm.trans hu'.found
    | some u =>
      obtain ⟨hmem, rfl⟩ := UserStore.findByEmail_eq hu
      have hactive := hs.active u hmem
      cases hv : u.emailVerified with
      | true =>
        simp only [Option.filter_some, isPending, hactive, hv, Bool.not_true, Bool.and_false,
          Bool.false_eq_true, if_false]
        refine ensures_log (.skipped (fun v hv' => ?_) rfl rfl)
        exact hv'.unique ⟨ha, hu⟩ ▸ hv
      | false =>
        simp only [Option.filter_some, isPending, hactive, hv, Bool.not_false, Bool.and_true,
          if_true]
        obtain ⟨expiry, hexpiry⟩ := (ho.inRange (n + 1)).2
        refine ensures_bind (ensures_now ?_)
        refine ensures_sendVerification ho hexpiry
          (hs.later (m := n + 1 + 1) (by omega)).drawn fun id secret m hm hid hsecret => ?_
        dsimp only at hm hid hsecret ⊢
        exact .resent ⟨ha, hu⟩ hv (Token.mintedFor_mint hexpiry (List.mem_singleton_self _)
          (hid.mono (by omega) le_rfl) (hsecret.mono (by omega) le_rfl)) rfl rfl rfl

end

end Service

/-- A call that is made alone, in calm surroundings and on tidy stores, does a deed. -/
theorem Call.deed {o : Surroundings} {n : Nat} {d : Stores} (cfg : Settings) (ho : o.Calm)
    (hs : d.Tidy o n) (c : Call) :
    (c.flow cfg).Ensures o ⟨d, n, [], []⟩ fun e s' => Deed cfg o n d s' c e := by
  unfold Call.flow
  cases c with
  | register form => exact Service.register_deed ho hs form
  | login email password => exact Service.login_deed ho hs email password
  | logout secret => exact Service.logout_deed ho.served secret
  | refresh secret => exact Service.refresh_deed ho hs secret
  | validate token => exact Service.validate_deed token
  | changePassword id old new => exact Service.changePassword_deed ho hs id old new
  | verifyEmail secret =>
    exact Service.verifyEmail_deed ho.served hs.addressed
      fun t ht => (ht.owner hs).imp fun _ hu => hu.1
  | resendVerification email => exact Service.resendVerification_deed ho hs email
  | sweep limit => exact Service.sweep_deed ho.served limit

/-! ## One deed after another -/

section

variable {cfg : Settings} {o : Surroundings} {n : Nat} {d : Stores} {s' : Scene}

/-- What is minted can be added to what was there. -/
theorem Token.MintedFor.tidy (ho : o.Calm) {u : User} {kind : TokenKind} {seconds : Nat} {t : Token}
    (ht : t.MintedFor o n s' u kind seconds) (hs : d.Tidy o s'.moment)
    (hold : ∀ t' ∈ d.tokens.records, o.DrawsIn 0 n t'.secret)
    (hu : d.users.findById u.id = some u) :
    Stores.Tidy o s'.moment { d with tokens := ⟨d.tokens.records ++ [t]⟩ } :=
  hs.append (ht.id.mono (Nat.zero_le _) le_rfl) (ht.secret.mono (Nat.zero_le _) le_rfl)
    (fun t' ht' => ho.ne_of_drawn ht.secret (hold t' ht')) hu ht.stamped

/-- A deed leaves tidy stores tidy. -/
theorem Deed.tidy (ho : o.Calm) (hs : d.Tidy o n) (hn : n ≤ s'.moment) {c : Call}
    {e : Ending c.Failure c.Value} (h : Deed cfg o n d s' c e) :
    s'.toStores.Tidy o s'.moment := by
  have hs' := hs.later hn
  have hkeyed : ∀ {u}, u ∈ d.users.records → d.users.findById u.id = some u := hs.keyed.findById
  obtain ⟨⟨users, tokens⟩, m, minted, readings⟩ := s'
  cases h with
  | refused _ _ hd | turnedAway _ hd | kept _ _ _ _ hd | validated hd | skipped _ hd =>
    exact hd ▸ hs'
  | registered hu ht husers htokens =>
    cases husers
    cases htokens
    have hopen := hs.enroll ho hn hu.drawn hu.free hu.active
    exact ht.tidy ho hopen (fun t ht => (hs.drawn t ht).2) (hopen.keyed.findById (by simp))
  | loggedIn hu _ ht _ _ _ husers htokens | resent hu _ ht husers htokens =>
    cases husers
    cases htokens
    exact ht.tidy ho hs' (fun t ht => (hs.drawn t ht).2)
      (hkeyed (UserStore.findByEmail_eq hu.found).1)
  | loggedOut husers htokens =>
    cases husers
    cases htokens
    exact hs'.blacklist _
  | @rotated secret t u _ _ _ _ hu ht _ _ husers htokens =>
    cases husers
    cases htokens
    exact ht.tidy ho (hs'.blacklist secret)
      (fun t ht => ((hs.blacklist secret).drawn t ht).2) (hkeyed (UserStore.findById_eq hu).1)
  | @rekeyed id _ _ u digest now hu _ husers htokens =>
    cases husers
    cases htokens
    obtain ⟨hmem, rfl⟩ := UserStore.findById_eq hu
    refine (hs'.dropAll (TokenStore.isOwnedBy u.id)).replace hu rfl (hs.active u hmem)
      fun t ht hid => ?_
    have := (List.mem_filter.1 ht).2
    simp [TokenStore.isOwnedBy, hid, User.rekeyed] at this
  | @confirmed secret t u _ now _ hu _ husers htokens =>
    cases htokens
    obtain ⟨hmem, -⟩ := UserStore.findById_eq hu
    have hself := hkeyed hmem
    dsimp only at husers
    split_ifs at husers <;> cases husers
    · exact hs'.blacklist secret
    · refine (hs'.blacklist secret).replace hself rfl (hs.active u hmem) fun t ht hid => ?_
      obtain ⟨v, hv, hst⟩ := (hs'.blacklist secret).current t ht
      cases hself.symm.trans (hid ▸ hv)
      exact hst.2
  | swept husers htokens =>
    cases husers
    cases htokens
    exact hs'.dropAll _

end

/-- A call was made alone from a state, and has done a deed. -/
structure State.Does (cfg : Settings) (o : Surroundings) (s : State) (c : Call)
    (e : Ending c.Failure c.Value) (sc : Scene) : Prop extends s.Conducted cfg o c e sc where
  deed : Deed cfg o s.log.length s.toStores sc c e

theorem Deed.of_returned {cfg : Settings} {o : Surroundings} {n : Nat} {d : Stores} {s' : Scene}
    {c c' : Call} {e : Ending c.Failure c.Value} {v : c'.Value} (h : Deed cfg o n d s' c e)
    (hx : (⟨c, e.flow⟩ : Task) = ⟨c', .done v⟩) : Deed cfg o n d s' c' (.done v) := by
  cases e <;> cases hx
  exact h

namespace State

variable {cfg : Settings} {o : Surroundings}

theorem does (ho : o.Calm) {s : State} (hs : s.toStores.Tidy o s.log.length) (c : Call) :
    ∃ e sc, s.Does cfg o c e sc := by
  obtain ⟨e, sc, h, hd⟩ := conduct_ensures s c (c.deed cfg ho hs)
  exact ⟨e, sc, h, hd⟩

/-- Stores are tidy between calls that are made one after another. -/
theorem sequence_tidy (ho : o.Calm) (calls : List Call) :
    (sequence cfg o calls).toStores.Tidy o (sequence cfg o calls).log.length := by
  induction calls using List.reverseRecOn with
  | nil => exact Stores.tidy_empty o 0
  | append_singleton calls c ih =>
    rw [sequence_concat]
    obtain ⟨e, sc, h⟩ := does ho ih c
    rw [h.stores, h.moment]
    exact h.deed.tidy ho ih h.later

/-- What holds before the first call, and is kept by every deed. -/
theorem sequence_invariant (ho : o.Calm) {P : State → Prop} (h₀ : P (start .empty))
    (hstep : ∀ {s c e sc}, s.toStores.Tidy o s.log.length → s.Does cfg o c e sc → P s →
      P (s.conduct cfg o c)) (calls : List Call) : P (sequence cfg o calls) := by
  induction calls using List.reverseRecOn with
  | nil => exact h₀
  | append_singleton calls c ih =>
    rw [sequence_concat]
    have hs : (sequence cfg o calls).toStores.Tidy o _ := sequence_tidy ho calls
    obtain ⟨e, sc, h⟩ := does ho hs c
    exact hstep hs h ih

end State

end Gatehouse
