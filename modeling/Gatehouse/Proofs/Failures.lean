/-
  Gatehouse — what a failed call leaves behind.

  Where nothing fails of itself, a call that returns nothing has changed nothing. Where store
  calls are lost, the call that made one may have written before: a rotation and a confirmation
  have then used their token up, and a password change has replaced the password.

  * `State.unchanged_of_refused`: in calm surroundings a refused call changes nothing;
  * `Call.Remains`, `Call.remains`: all that a call can leave that fails because a store call was
    lost.
-/
import Gatehouse.Proofs.Deeds
import Gatehouse.Proofs.Pairing

namespace Gatehouse

/-! ## In calm surroundings -/

section

variable {cfg : Settings} {o : Surroundings}

/-- A deed that ends without a value leaves the stores as they were. -/
theorem Deed.unchanged {n : Nat} {d : Stores} {s' : Scene} {c : Call}
    {e : Ending c.Failure c.Value} (h : Deed cfg o n d s' c e) (he : ¬ ∃ v, e = .done v) :
    s'.toStores = d := by
  cases h with
  | refused _ _ hd => exact hd
  | turnedAway _ hd => exact hd
  | _ => exact absurd ⟨_, rfl⟩ he

/-- A call that does not return changes nothing, whatever calls were made before it. -/
theorem State.unchanged_of_refused (cfg : Settings) (ho : o.Calm) (calls : List Call) {c : Call}
    (h : ¬ (sequence cfg o calls).Accepts cfg o c) :
    ((sequence cfg o calls).conduct cfg o c).toStores = (sequence cfg o calls).toStores := by
  obtain ⟨e, sc, hdoes⟩ : ∃ e sc, (sequence cfg o calls).Does cfg o c e sc :=
    State.does ho (sequence_tidy ho calls) c
  rw [hdoes.stores]
  exact hdoes.deed.unchanged fun he => h (hdoes.accepts_iff.2 he)

/-- A link is followed for the second time. -/
theorem State.unchanged_of_refused_twice :
    ¬ (sequence {} .plain [.register adasForm, .verifyEmail (unary 8)]).Accepts {} .plain
        (.verifyEmail (unary 8)) ∧
      ((sequence {} .plain [.register adasForm, .verifyEmail (unary 8)]).conduct {} .plain
        (.verifyEmail (unary 8))).toStores =
        (sequence {} .plain [.register adasForm, .verifyEmail (unary 8)]).toStores := by
  have hrefused : ¬ (sequence {} .plain [.register adasForm, .verifyEmail (unary 8)]).Accepts {}
      .plain (.verifyEmail (unary 8)) := by decide +kernel
  exact ⟨hrefused, State.unchanged_of_refused {} Surroundings.plain_calm _ hrefused⟩

end

/-! ## Store calls that are lost -/

namespace Surroundings

/-- The surroundings, except that the store call at one moment is lost without effect. -/
def losing (o : Surroundings) (k : Nat) (error : Option StoreError) : Surroundings :=
  { o with fate := fun n => if n = k then .lost error false else o.fate n }

/-- A store call is served, or is lost without effect. -/
def Loses (o : Surroundings) : Prop := ∀ n, o.fate n = .served ∨ ∃ error, o.fate n = .lost error false

theorem losing_loses {o : Surroundings} (ho : o.Serves) (k : Nat) (error : Option StoreError) :
    (o.losing k error).Loses := by
  intro n
  simp only [losing]
  split_ifs
  · exact .inr ⟨error, rfl⟩
  · exact .inl (ho n)

end Surroundings

/-- The calls that write tokens, or use them, on behalf of an account that is open. -/
def Call.onAccount : Call → Bool
  | .login .. => true
  | .refresh _ => true
  | .logout _ => true
  | .changePassword .. => true
  | .verifyEmail _ => true
  | .resendVerification _ => true
  | _ => false

/-- The call uses up a token of a kind. -/
inductive Call.Redeems (cfg : Settings) : TokenKind → String → Call → Prop
  | refresh {secret} : cfg.rotates = true → Redeems cfg .refresh secret (.refresh secret)
  | verifyEmail {secret} : Redeems cfg .verification secret (.verifyEmail secret)

/-- What a call that has not returned leaves of the stores `d` which it found at the moment `n`. -/
inductive Call.Remains (cfg : Settings) (o : Surroundings) (n : Nat) (d d' : Stores) : Call → Prop
  /-- Nothing was written. -/
  | nothing {c} : d' = d → Remains cfg o n d d' c
  /-- A token was alive, and is revoked. -/
  | spent {c kind secret t} : c.Redeems cfg kind secret → d.Presents o n kind secret t →
      d'.tokens.findBySecret secret = some { t with revoked := true } → Remains cfg o n d d' c
  /-- The password was replaced, and the tokens are still there. -/
  | rekeyed {id old new u digest} : d.users.findById id = some u →
      o.reply (n + 1) (.verify old u.passwordHash) = true → Password.weakness? new = none →
      o.reply (n + 2) (.hash new) = .ok digest → u.credentialVersion < Service.lastVersion →
      d.users.update (u.rekeyed digest (o.reply (n + 3) .now)) = .ok d'.users →
      d'.tokens = d.tokens → Remains cfg o n d d' (.changePassword id old new)

theorem Scene.stores_eq {s t : Scene} (hu : t.users = s.users) (ht : t.tokens = s.tokens) :
    t.toStores = s.toStores := by
  obtain ⟨⟨users, tokens⟩, n, minted, readings⟩ := s
  obtain ⟨⟨users', tokens'⟩, n', minted', readings'⟩ := t
  cases hu
  cases ht
  rfl

/-- Revoking marks the token that is found by its secret. -/
theorem TokenStore.findBySecret_blacklist (s : TokenStore) (other secret : String) :
    (s.blacklist other).findBySecret secret =
      (s.findBySecret secret).map fun t => if t.secret = other then { t with revoked := true } else t := by
  rw [TokenStore.findBySecret, TokenStore.blacklist, List.find?_map, TokenStore.findBySecret]
  congr 2
  ext t
  by_cases h : t.secret = other <;> simp [h]

theorem TokenStore.findBySecret_append {s : TokenStore} {secret : String} {t u : Token}
    (h : s.findBySecret secret = some t) :
    TokenStore.findBySecret ⟨s.records ++ [u]⟩ secret = some t := by
  rw [TokenStore.findBySecret] at h
  rw [TokenStore.findBySecret, List.find?_append, h]
  rfl

theorem TokenStore.findBySecret_revoked {s : TokenStore} {other secret : String} {t : Token}
    (h : s.findBySecret secret = some t) (hr : t.revoked = true) :
    (s.blacklist other).findBySecret secret = some t := by
  rw [TokenStore.findBySecret_blacklist, h, Option.map_some]
  split_ifs
  · rw [← hr]
  · rfl

theorem Stores.Presents.found_blacklist {o : Surroundings} {n : Nat} {d : Stores} {kind : TokenKind}
    {secret : String} {t : Token} (h : d.Presents o n kind secret t) :
    (d.tokens.blacklist secret).findBySecret secret = some { t with revoked := true } := by
  obtain ⟨-, rfl⟩ := TokenStore.findBySecret_eq h.found
  rw [TokenStore.findBySecret_blacklist, h.found, Option.map_some, if_pos rfl]

/-- A flow that runs alone returns what satisfies `Q`, or leaves stores that satisfy `R`. -/
def Flow.Leaves {ε α : Type} (o : Surroundings) (R : Stores → Prop) (Q : α → Scene → Prop)
    (m : Flow ε α) (s : Scene) : Prop :=
  m.Ensures o s fun e t =>
    match e with
    | .done a => Q a t
    | _ => R t.toStores

namespace Flow

variable {ε ε' α β : Type} {o : Surroundings} {R : Stores → Prop} {s : Scene}

theorem leaves_done {Q : α → Scene → Prop} {a : α} (hQ : Q a s) :
    (pure a : Flow ε α).Leaves o R Q s := hQ

theorem leaves_fail {Q : α → Scene → Prop} {e : ε} (hR : R s.toStores) :
    (fail e : Flow ε α).Leaves o R Q s := hR

theorem leaves_crash {Q : α → Scene → Prop} {x : Overflow} (hR : R s.toStores) :
    (crash x : Flow ε α).Leaves o R Q s := hR

theorem leaves_bind {Q : β → Scene → Prop} {m : Flow ε α} {f : α → Flow ε β}
    (h : m.Leaves o R (fun a t => (f a).Leaves o R Q t) s) : (m >>= f).Leaves o R Q s := by
  refine ensures_bind ?_
  unfold Leaves Ensures at h
  unfold Ensures
  generalize m.run (Scene.next o) s = r at h ⊢
  obtain ⟨e, t⟩ := r
  cases e <;> exact h

theorem leaves_mapFailure {Q : α → Scene → Prop} {g : ε → ε'} {m : Flow ε α}
    (h : m.Leaves o R Q s) : (m.mapFailure g).Leaves o R Q s := by
  refine ensures_mapFailure ?_
  unfold Leaves Ensures at h
  unfold Ensures
  generalize m.run (Scene.next o) s = r at h ⊢
  obtain ⟨e, t⟩ := r
  cases e <;> exact h

theorem Leaves.mono {R' : Stores → Prop} {Q : α → Scene → Prop} {m : Flow ε α}
    (h : m.Leaves o R Q s) (hR : ∀ d, R d → R' d) : m.Leaves o R' Q s := by
  unfold Leaves Ensures at h ⊢
  generalize m.run (Scene.next o) s = r at h ⊢
  obtain ⟨e, t⟩ := r
  cases e with
  | done a => exact h
  | failed | crashed => exact hR _ h

theorem leaves_ofOption {Q : α → Scene → Prop} {e : ε} {a? : Option α} (hR : R s.toStores)
    (hQ : ∀ a, a? = some a → Q a s) : (ofOption e a?).Leaves o R Q s := by
  cases a? with
  | none => exact hR
  | some a => exact hQ a rfl

/-- What asks nothing of the stores leaves them as they are. -/
theorem leaves_apart {Q : α → Scene → Prop} {m : Flow ε α} (hm : m.Apart) (hR : R s.toStores)
    (hQ : ∀ a t, t.toStores = s.toStores → Q a t) : m.Leaves o R Q s := by
  obtain ⟨-, -, hd, -⟩ := hm.run (o := o) (show s.moment = s.moment from rfl)
  unfold Leaves Ensures
  generalize m.run (Scene.next o) s = r at hd ⊢
  obtain ⟨e, t⟩ := r
  cases e with
  | done a => exact hQ a t hd
  | failed | crashed => exact (show t.toStores = s.toStores from hd) ▸ hR

theorem leaves_log {Q : Unit → Scene → Prop} {e : Event}
    (hQ : ∀ t, t.toStores = s.toStores → Q () t) : (Flow.log e : Flow ε Unit).Leaves o R Q s :=
  hQ _ rfl

end Flow

namespace Service

open Gatehouse.Flow

variable {o : Surroundings} {cfg : Settings} {R : Stores → Prop} {s : Scene}

theorem leaves_deliver {id : UserId} {m : Mail} {Q : Unit → Scene → Prop}
    (hQ : ∀ t, t.toStores = s.toStores → Q () t) : (deliver cfg id m).Leaves o R Q s :=
  ensures_deliver fun _ _ => hQ _ rfl

theorem leaves_now {Q : Instant → Scene → Prop}
    (hQ : ∀ t, t.toStores = s.toStores → Q (o.reply s.moment .now) t) : now.Leaves o R Q s :=
  hQ _ rfl

theorem leaves_verify {password digest : String} {Q : Bool → Scene → Prop}
    (hQ : ∀ t, t.toStores = s.toStores → t.moment = s.moment + 1 →
      Q (o.reply s.moment (.verify password digest)) t) :
    (verify password (some digest)).Leaves o R Q s := hQ _ rfl rfl

theorem leaves_hash {password : String} {Q : String → Scene → Prop} (hR : R s.toStores)
    (hQ : ∀ digest t, o.reply s.moment (.hash password) = .ok digest → t.toStores = s.toStores →
      t.moment = s.moment + 1 → Q digest t) : (hash password).Leaves o R Q s :=
  ensures_hash (fun _ => hR) fun digest hd => hQ digest _ hd rfl rfl

theorem leaves_nextVersion {version : Int} {Q : Int → Scene → Prop} (hR : R s.toStores)
    (hQ : version < lastVersion → Q (version + 1) s) : (nextVersion version).Leaves o R Q s := by
  unfold nextVersion
  split_ifs with h
  · exact hQ h
  · exact hR

theorem leaves_checkAlive {t : Token} {time : Instant} {Q : Unit → Scene → Prop}
    (hR : R s.toStores) (hQ : t.isExpired time = false → t.revoked = false → Q () s) :
    (checkAlive t time).Leaves o R Q s := ensures_checkAlive (fun _ _ => hR) hQ

section

variable (ho : o.Loses)
include ho

theorem leaves_tryUsers {c : UserCall} {Q : c.Answer → Scene → Prop} (hR : R s.toStores)
    (hQ : ∀ a after, s.users.perform c = (.ok a, after) →
      ∀ t, t.users = after → t.tokens = s.tokens → t.moment = s.moment + 1 → Q a t) :
    (tryUsers cfg c).Leaves o R Q s := by
  have hlost : ∀ t : Scene, t.toStores = s.toStores → R t.toStores := fun t ht => ht ▸ hR
  unfold tryUsers Leaves Ensures
  cases hp : s.users.perform c with
  | mk r after =>
    rcases ho s.moment with hfate | ⟨error, hfate⟩
    · simp only [Flow.run, Scene.next, Stores.serve, hp, hfate, Fate.settle]
      cases r with
      | error e => exact hlost _ rfl
      | ok a => exact hQ a after hp _ rfl rfl rfl
    · simp only [Flow.run, Scene.next, Stores.serve, hp, hfate, Fate.settle]
      cases error <;> exact hlost _ rfl

theorem leaves_users {c : UserCall} {Q : c.Answer → Scene → Prop} (hR : R s.toStores)
    (hQ : ∀ a after, s.users.perform c = (.ok a, after) →
      ∀ t, t.users = after → t.tokens = s.tokens → t.moment = s.moment + 1 → Q a t) :
    (users cfg c).Leaves o R Q s := leaves_mapFailure (leaves_tryUsers ho hR hQ)

theorem leaves_tokens {c : TokenCall} {Q : c.Answer → Scene → Prop} (hR : R s.toStores)
    (hQ : ∀ a after, s.tokens.perform c = (.ok a, after) →
      ∀ t, t.users = s.users → t.tokens = after → Q a t) : (tokens cfg c).Leaves o R Q s := by
  have hlost : ∀ t : Scene, t.toStores = s.toStores → R t.toStores := fun t ht => ht ▸ hR
  refine leaves_mapFailure ?_
  unfold tryTokens Leaves Ensures
  cases hp : s.tokens.perform c with
  | mk r after =>
    rcases ho s.moment with hfate | ⟨error, hfate⟩
    · simp only [Flow.run, Scene.next, Stores.serve, hp, hfate, Fate.settle]
      cases r with
      | error e => exact hlost _ rfl
      | ok a => exact hQ a after hp _ rfl rfl
    · simp only [Flow.run, Scene.next, Stores.serve, hp, hfate, Fate.settle]
      cases error <;> exact hlost _ rfl

theorem leaves_findById {id : UserId} {Q : Option User → Scene → Prop} (hR : R s.toStores)
    (hQ : ∀ t, t.toStores = s.toStores → t.moment = s.moment + 1 → Q (s.users.findById id) t) :
    (users cfg (.findById id)).Leaves o R Q s := by
  refine leaves_users (c := .findById id) ho hR fun a after hp t husers htokens hm => ?_
  cases hp
  exact hQ t (Scene.stores_eq husers htokens) hm

theorem leaves_findBySecret {secret : String} {Q : Option Token → Scene → Prop}
    (hR : R s.toStores) (hQ : ∀ t, t.toStores = s.toStores → Q (s.tokens.findBySecret secret) t) :
    (tokens cfg (.findBySecret secret)).Leaves o R Q s := by
  refine leaves_tokens (c := .findBySecret secret) ho hR fun a after hp t husers htokens => ?_
  cases hp
  exact hQ t (Scene.stores_eq husers htokens)

theorem leaves_findAccount {email : String} {Q : Option User → Scene → Prop} (hR : R s.toStores)
    (hQ : ∀ a t, t.toStores = s.toStores → Q a t) : (findAccount cfg email).Leaves o R Q s := by
  unfold findAccount
  cases EmailAddress.ofText email with
  | error e => exact hQ none s rfl
  | ok address =>
    refine leaves_users (c := .findByEmail address) ho hR fun a after hp t husers htokens _ => ?_
    cases hp
    exact hQ _ t (Scene.stores_eq husers htokens)

theorem leaves_storeToken {u : User} {kind : TokenKind} {seconds : Nat} {now : Instant}
    {Q : Token → Scene → Prop} (hR : R s.toStores)
    (hQ : ∀ a t, t.users = s.users → t.tokens = ⟨s.tokens.records ++ [a]⟩ → Q a t) :
    (storeToken cfg u kind seconds now).Leaves o R Q s := by
  refine leaves_bind (leaves_apart apart_draw hR fun id t ht => ?_)
  refine leaves_bind (leaves_apart apart_draw (ht ▸ hR) fun secret v hv => ?_)
  have hvs : v.toStores = s.toStores := hv.trans ht
  cases now.addSeconds? seconds with
  | none => exact leaves_crash (hvs ▸ hR)
  | some expiry =>
    refine leaves_bind (leaves_tokens (c := .create _) ho (hvs ▸ hR) fun _ after hp w hwu hwt => ?_)
    refine hQ _ w (hwu.trans (congrArg Stores.users hvs)) (hwt.trans ?_)
    simp only [TokenStore.perform] at hp
    split at hp
    · rename_i hc
      cases hp
      rw [(TokenStore.create_ok hc).2, congrArg Stores.tokens hvs]
    · cases hp

theorem leaves_revoke {a : Token} {Q : Unit → Scene → Prop} (hR : R s.toStores)
    (hQ : ∀ t, t.users = s.users → t.tokens = s.tokens.blacklist a.secret → Q () t) :
    (revoke cfg a).Leaves o R Q s := by
  refine leaves_bind (leaves_tokens (c := .revokeIfActive a.secret) ho hR
    fun active after hp t husers htokens => ?_)
  simp only [TokenStore.perform] at hp
  split_ifs at hp
  · cases hp
    exact hQ t husers htokens
  · cases hp
    have ht : t.toStores = s.toStores := Scene.stores_eq husers htokens
    exact leaves_fail (ht ▸ hR)

theorem leaves_ensureCurrent {u : User} {a : Token} {Q : Unit → Scene → Prop}
    (hR : ∀ d : Stores, d.tokens = s.tokens ∨ d.tokens = s.tokens.blacklist a.secret → R d)
    (hQ : ∀ t, Q () t) : (ensureCurrent cfg u a).Leaves o R Q s := by
  refine leaves_bind (leaves_findById ho (hR _ (.inl rfl)) fun t ht _ => ?_)
  split_ifs
  · exact hQ t
  · refine leaves_bind (leaves_tokens (c := .blacklist _) ho (hR _ (.inl (by rw [ht])))
      fun _ after hp v _ hv => ?_)
    refine leaves_bind (leaves_log fun w hw => leaves_fail (hR _ (.inr ?_)))
    cases hp
    rw [hw, hv, ht]

/-- A secret is looked up and looked over. The call goes on if a token is presented. -/
theorem leaves_presented {kind : TokenKind} {secret : String} {α : Type}
    {f : Instant → Token → Flow AuthError α} {Q : α → Scene → Prop} (hR : R s.toStores)
    (hQ : ∀ a t, s.toStores.Presents o s.moment kind secret a → t.toStores = s.toStores →
      (f (o.reply s.moment .now) a).Leaves o R Q t) :
    (now >>= fun time => findToken cfg kind secret >>= fun a =>
      checkAlive a time >>= fun _ => f time a).Leaves o R Q s := by
  refine leaves_bind (ensures_now ?_)
  refine leaves_bind (leaves_bind (leaves_findBySecret ho hR fun t ht => ?_))
  have hRt : R t.toStores := ht ▸ hR
  refine leaves_ofOption hRt fun a ha => ?_
  obtain ⟨ha, hk⟩ := Option.filter_eq_some_iff.1 ha
  refine leaves_bind (leaves_checkAlive hRt fun he hr => ?_)
  exact hQ a t ⟨ha, by simpa using hk, he, hr⟩ ht

end

end Service

/-! ## Operations -/

section

-- A rule is applied as it stands; to unfold what it is about would run the operation.
attribute [local irreducible] Flow.Leaves

namespace Service

open Gatehouse.Flow

variable {o : Surroundings} {cfg : Settings} {s : Scene} (ho : o.Loses)
include ho

theorem login_leaves (email password : String) :
    (login cfg email password).Leaves o (· = s.toStores) (fun _ _ => True) s := by
  refine leaves_bind (leaves_findAccount ho rfl fun u? t ht => ?_)
  cases u? with
  | none =>
    refine leaves_bind (leaves_apart (apart_verify _ _) ht fun _ v hv => ?_)
    exact leaves_bind (leaves_log fun w hw => leaves_fail (hw.trans (hv.trans ht)))
  | some u =>
    refine leaves_bind (leaves_apart (apart_verify _ _) ht fun good v hv => ?_)
    have hvs := hv.trans ht
    split_ifs
    · refine leaves_bind (leaves_apart apart_now hvs fun now w hw => ?_)
      refine leaves_bind (leaves_apart (apart_issue _ _) (hw.trans hvs) fun a x hx => ?_)
      refine leaves_bind (leaves_storeToken ho (hx.trans (hw.trans hvs)) fun _ _ _ _ => ?_)
      exact leaves_bind (leaves_log fun _ _ => leaves_done trivial)
    · exact leaves_bind (leaves_log fun w hw => leaves_fail (hw.trans hvs))
    · exact leaves_bind (leaves_log fun w hw => leaves_fail (hw.trans hvs))

theorem logout_leaves (secret : String) :
    (logout cfg secret).Leaves o (· = s.toStores) (fun _ _ => True) s := by
  refine leaves_bind (leaves_tokens (c := .blacklist secret) ho rfl fun _ _ _ _ _ _ => ?_)
  exact leaves_log fun _ _ => trivial

theorem resendVerification_leaves (email : String) :
    (resendVerification cfg email).Leaves o (· = s.toStores) (fun _ _ => True) s := by
  unfold resendVerification
  cases EmailAddress.ofText email with
  | error e => exact leaves_fail rfl
  | ok address =>
    refine leaves_bind (leaves_users (c := .findByEmail address) ho rfl
      fun u? after hp t husers htokens _ => ?_)
    cases hp
    have ht : t.toStores = s.toStores := Scene.stores_eq husers htokens
    split
    · refine leaves_bind (leaves_apart apart_now ht fun now v hv => ?_)
      refine leaves_bind (leaves_storeToken ho (hv.trans ht) fun _ _ _ _ => ?_)
      refine leaves_bind (leaves_deliver fun _ _ => ?_)
      exact leaves_log fun _ _ => trivial
    · exact leaves_log fun _ _ => trivial

/-- Once a token was revoked, the call leaves it so, however it ends. -/
theorem refresh_leaves (secret : String) :
    (refresh cfg secret).Leaves o
      (fun d' => Call.Remains cfg o s.moment s.toStores d' (.refresh secret)) (fun _ _ => True) s := by
  refine leaves_presented ho (.nothing rfl) fun a t hp ht => ?_
  obtain rfl := (TokenStore.findBySecret_eq hp.found).2
  refine leaves_bind (leaves_findById ho (.nothing ht) fun v hv _ => ?_)
  have hvs := hv.trans ht
  refine leaves_bind (leaves_ofOption (.nothing hvs) fun u _ => ?_)
  split_ifs with _ _ hrot
  · exact leaves_fail (.nothing hvs)
  · exact leaves_bind (leaves_log fun w hw => leaves_fail (.nothing (hw.trans hvs)))
  · refine leaves_bind (leaves_apart (apart_issue _ _) (.nothing hvs) fun access w hw => ?_)
    have hws := hw.trans hvs
    refine leaves_bind (leaves_revoke ho (.nothing hws) fun x _ hx => ?_)
    have hspent : x.tokens.findBySecret a.secret = some { a with revoked := true } := by
      rw [hx, hws]
      exact hp.found_blacklist
    refine leaves_bind (leaves_storeToken ho (.spent (.refresh hrot) hp hspent) fun b y _ hy => ?_)
    have hspent : y.tokens.findBySecret a.secret = some { a with revoked := true } := by
      rw [hy]
      exact TokenStore.findBySecret_append hspent
    refine leaves_bind (leaves_ensureCurrent ho (fun d hd => .spent (.refresh hrot) hp ?_) fun z => ?_)
    · rcases hd with hd | hd
      · rw [hd, hspent]
      · rw [hd]
        exact TokenStore.findBySecret_revoked hspent rfl
    · exact leaves_bind (leaves_log fun _ _ => leaves_done trivial)
  · exact leaves_bind (leaves_apart (apart_issue _ _) (.nothing hvs) fun _ _ _ => leaves_done trivial)

theorem verifyEmail_leaves (secret : String) :
    (verifyEmail cfg secret).Leaves o
      (fun d' => Call.Remains cfg o s.moment s.toStores d' (.verifyEmail secret))
      (fun _ _ => True) s := by
  refine leaves_presented ho (.nothing rfl) fun a t hp ht => ?_
  obtain rfl := (TokenStore.findBySecret_eq hp.found).2
  refine leaves_bind (leaves_revoke ho (.nothing ht) fun v _ hv => ?_)
  have hspent : v.tokens.findBySecret a.secret = some { a with revoked := true } := by
    rw [hv, ht]
    exact hp.found_blacklist
  have hremains : ∀ {w : Scene}, w.tokens = v.tokens →
      Call.Remains cfg o s.moment s.toStores w.toStores (.verifyEmail a.secret) := fun hw =>
    .spent .verifyEmail hp (by rw [hw, hspent])
  refine leaves_bind (leaves_findById ho (hremains rfl) fun w hw _ => ?_)
  have hwv : w.tokens = v.tokens := congrArg Stores.tokens hw
  refine leaves_bind (leaves_ofOption (hremains hwv) fun u _ => ?_)
  have hdone : ∀ {u : User} {x : Scene}, (Flow.log (.emailVerified u.id) >>= fun _ =>
      pure u.profile : Flow AuthError Profile).Leaves o
        (fun d' => Call.Remains cfg o s.moment s.toStores d' (.verifyEmail a.secret))
        (fun _ _ => True) x :=
    leaves_bind (leaves_log fun _ _ => leaves_done trivial)
  refine leaves_bind ?_
  unfold markVerified
  split_ifs
  · exact leaves_done hdone
  · exact leaves_mapFailure (leaves_tryUsers (c := .update _) ho (hremains hwv)
      fun _ _ _ _ _ _ _ => hdone)

theorem changePassword_leaves (id : UserId) (old new : String) :
    (changePassword cfg id old new).Leaves o
      (fun d' => Call.Remains cfg o s.moment s.toStores d' (.changePassword id old new))
      (fun _ _ => True) s := by
  refine leaves_bind (leaves_findById ho (.nothing rfl) fun t ht hm => ?_)
  refine leaves_bind (leaves_ofOption (.nothing ht) fun u hu => ?_)
  refine leaves_bind (leaves_verify fun v hv hm' => ?_)
  have hvs := hv.trans ht
  split_ifs with hgood
  · split
    · exact leaves_fail (.nothing hvs)
    · rename_i hstrong
      refine leaves_bind (leaves_hash (.nothing hvs) fun digest w hdigest hw hm'' => ?_)
      have hws := hw.trans hvs
      refine leaves_bind (leaves_nextVersion (.nothing hws) fun hroom => ?_)
      refine leaves_bind (leaves_now fun x hx => ?_)
      have hxs := hx.trans hws
      refine leaves_bind (leaves_mapFailure (leaves_tryUsers (c := .update _) ho (.nothing hxs)
        fun stored after hp y hyu hyt _ => ?_))
      obtain ⟨users, hupdate, hcommitted⟩ := UserStore.committed_ok (congrArg Prod.fst hp)
      obtain rfl : users = after := hcommitted.symm.trans (congrArg Prod.snd hp)
      rw [hm] at hm' hgood
      rw [hm'] at hdigest hm''
      rw [hm'', congrArg Stores.users hxs] at hupdate
      have hremains : Call.Remains cfg o s.moment s.toStores y.toStores
          (.changePassword id old new) :=
        .rekeyed hu hgood hstrong hdigest hroom (hyu ▸ hupdate)
          (hyt.trans (congrArg Stores.tokens hxs))
      exact leaves_bind (leaves_tokens ho hremains fun _ _ _ _ _ _ => leaves_log fun _ _ => trivial)
  · exact leaves_fail (.nothing hvs)

end Service

/-- All that a call leaves that does not return. -/
theorem Call.remains (cfg : Settings) {o : Surroundings} (ho : o.Loses) {c : Call}
    (hc : c.onAccount = true) (s : Scene) :
    (c.flow cfg).Leaves o (fun d' => c.Remains cfg o s.moment s.toStores d') (fun _ _ => True)
      s := by
  unfold Call.flow
  cases c with
  | login email password => exact (Service.login_leaves ho email password).mono fun _ => .nothing
  | logout secret => exact (Service.logout_leaves ho secret).mono fun _ => .nothing
  | refresh secret => exact Service.refresh_leaves ho secret
  | changePassword id old new => exact Service.changePassword_leaves ho id old new
  | verifyEmail secret => exact Service.verifyEmail_leaves ho secret
  | resendVerification email =>
    exact (Service.resendVerification_leaves ho email).mono fun _ => .nothing
  | register | validate | sweep => cases hc

end

end Gatehouse
