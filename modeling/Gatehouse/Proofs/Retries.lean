/-
  Gatehouse — calls that are made again.

  A store call is lost, and the call that made it fails. Made again at once, in surroundings that
  reply alike (`Ask.Echoes`), it is answered as it would have been the first time, although the
  secrets and digests of the second run are others. This holds of a call that had written nothing.
  A rotation or a confirmation that had used its token up finds it revoked, and a password change
  that had replaced the password finds the old one wrong.

  * `Call.answers_again`: from the same stores, and in surroundings that reply alike, a call gets
    answers of one kind;
  * `State.answer_again`: what a call is answered that is made again;
  * `State.answers_change`: three calls that had written.
-/
import Gatehouse.Proofs.Failures

namespace Gatehouse

/-! ## Kinds of answers -/

/-- The error without its details. -/
def AuthError.bare : AuthError → AuthError
  | .weakPassword _ => .weakPassword ""
  | .validationFailed _ => .validationFailed []
  | .userNotFound _ => .userNotFound ""
  | .storageUnavailable _ => .storageUnavailable ""
  | .internal _ => .internal ""
  | e => e

namespace Call

/-- The error of a service operation; a sweep has errors of its own. -/
def cause? : (c : Call) → c.Failure → Option AuthError
  | .sweep _, _ => none
  | .register _, e => some e
  | .login .., e => some e
  | .logout _, e => some e
  | .refresh _, e => some e
  | .validate _, e => some e
  | .changePassword .., e => some e
  | .verifyEmail _, e => some e
  | .resendVerification _, e => some e

/-- The kind of an answer: a value, or an error without its details. A call that is given up has no
    answer. -/
def kind? (c : Call) : Ending c.Failure c.Value → Option (Except AuthError Unit)
  | .done _ => some (.ok ())
  | .failed e => (c.cause? e).map fun e => .error e.bare
  | .crashed _ => none

end Call

namespace State

variable {cfg : Settings} {o : Surroundings} {s : State} {c : Call}

/-- How a call ends that is made next. -/
def ending (cfg : Settings) (o : Surroundings) (s : State) (c : Call) :
    Ending c.Failure c.Value :=
  ((c.flow cfg).run (next o s.tasks.length c) s).1

/-- The kind of answer to a call that is made next. -/
def kind? (cfg : Settings) (o : Surroundings) (s : State) (c : Call) :
    Option (Except AuthError Unit) :=
  c.kind? (s.ending cfg o c)

theorem ending_eq (s : State) (c : Call) :
    s.ending cfg o c = ((c.flow cfg).run (Scene.next o) s.scene).1 :=
  ((Scene.shows_start s.tasks.length s).run (o := o) c (c.flow cfg)).1.symm

/-- What the flow of a call ensures is so of the way in which it ends, and of the state after it. -/
theorem ending_ensures (s : State) {c : Call} {Ψ : Ending c.Failure c.Value → Scene → Prop}
    (h : (c.flow cfg).Ensures o s.scene Ψ) :
    ∃ sc, sc.toStores = (s.conduct cfg o c).toStores ∧ sc.moment = (s.conduct cfg o c).log.length ∧
      Ψ (s.ending cfg o c) sc := by
  obtain ⟨he, hshows⟩ := (Scene.shows_start s.tasks.length s).run (o := o) c (c.flow cfg)
  refine ⟨_, hshows.stores, hshows.moment, ?_⟩
  rw [ending_eq]
  exact h.run

end State

/-! ## Surroundings that reply alike -/

/-- Both are values, or both are errors of one kind. -/
def AuthError.Akin {α β : Type} : Except AuthError α → Except AuthError β → Prop
  | .ok _, .ok _ => True
  | .error e, .error e' => e.bare = e'.bare
  | _, _ => False

theorem AuthError.Akin.exists_ok {α β : Type} {a : α} {r : Except AuthError β}
    (h : AuthError.Akin (.ok a) r) : ∃ b, r = .ok b := by
  cases r with
  | error e => exact h.elim
  | ok b => exact ⟨b, rfl⟩

/-- The replies agree as far as a call that is made again can expect: the time is the same, and a
    password matches or does not; a digest, a text that is drawn and an access token may be
    others, and an error is of the same kind. -/
def Ask.Echoes : (q : Ask) → q.Reply → q.Reply → Prop
  | .now, t, t' => t = t'
  | .verify _ _, b, b' => b = b'
  | .hash _, r, r' => AuthError.Akin r r'
  | .draw _, r, r' => AuthError.Akin r r'
  | .issue .., .ok r, .ok r' =>
    AuthError.Akin (r.mapError AccessTokenError.toAuthError) (r'.mapError AccessTokenError.toAuthError)
  | .issue .., r, r' => r = r'
  | _, _, _ => True

/-- From the moment `n` on the surroundings reply as others do from the moment `m` on. -/
def Surroundings.Echoes (o : Surroundings) (n : Nat) (o' : Surroundings) (m : Nat) : Prop :=
  ∀ (k : Nat) (q : Ask), q.Echoes (o.reply (n + k) q) (o'.reply (m + k) q)

/-- Two scenes with the same stores, in surroundings that reply alike from now on and draw nothing
    that is in use. -/
structure Scene.Echoes (o o' : Surroundings) (s s' : Scene) : Prop where
  stores : s.toStores = s'.toStores
  replies : o.Echoes s.moment o' s'.moment
  spared : o.Spares s.moment s.tokens
  spared' : o'.Spares s'.moment s.tokens

theorem Surroundings.Spares.later {o : Surroundings} {n m : Nat} {s r : TokenStore}
    (h : o.Spares n s) (hn : n ≤ m)
    (hr : ∀ t ∈ r.records, ∃ u ∈ s.records, u.id = t.id ∧ u.secret = t.secret) : o.Spares m r := by
  intro t ht k bytes x hk hx
  obtain ⟨u, hu, hid, hsecret⟩ := hr t ht
  rw [← hid, ← hsecret]
  exact h u hu k bytes x (hn.trans hk) hx

/-- The scenes after one more exchange, if no token was added. -/
theorem Scene.Echoes.later {o o' : Surroundings} {s s' t t' : Scene} (h : s.Echoes o o' s')
    (hd : t.toStores = t'.toStores) (hm : t.moment = s.moment + 1)
    (hm' : t'.moment = s'.moment + 1)
    (hr : ∀ a ∈ t.tokens.records, ∃ b ∈ s.tokens.records, b.id = a.id ∧ b.secret = a.secret) :
    t.Echoes o o' t' where
  stores := hd
  replies k q := by
    have hlater := h.replies (1 + k) q
    rwa [← Nat.add_assoc, ← Nat.add_assoc, ← hm, ← hm'] at hlater
  spared := h.spared.later (by omega) hr
  spared' := h.spared'.later (by omega) hr

theorem Surroundings.plain_echoes (n m : Nat) : plain.Echoes n plain m := by
  intro k q
  cases q with
  | now | verify => rfl
  | hash | draw | issue => trivial
  | users | tokens | verifyDecoy | parse | send | permit | log => trivial

/-- What is drawn later is not in use. -/
theorem Stores.Tidy.spares {o : Surroundings} {n : Nat} {d : Stores} (ho : o.Calm)
    (hd : d.Tidy o n) : o.Spares n d.tokens := by
  intro t ht k bytes x hk hx
  have hdrawn : o.DrawsIn n (k + 1) x := ⟨k, bytes, hk, Nat.lt_succ_self k, hx⟩
  obtain ⟨hid, hsecret⟩ := hd.drawn t ht
  exact ⟨ho.ne_of_drawn hdrawn hid, ho.ne_of_drawn hdrawn hsecret⟩

/-- The flows return both, or fail with errors of one kind. -/
abbrev Flow.Echoes {α β : Type} (o o' : Surroundings) (Q : α → β → Scene → Scene → Prop)
    (m : Flow AuthError α) (m' : Flow AuthError β) (s s' : Scene) : Prop :=
  m.Matches o o' (fun _ _ => True) (fun e e' => e.bare = e'.bare) Q m' s s'

namespace Service

open Gatehouse.Flow

variable {o o' : Surroundings} {cfg : Settings} {s s' : Scene} {α β : Type}

/-- One question of both flows that is not for a store. -/
theorem echoes_apart (h : s.Echoes o o' s') {q : Ask} (hq : q.Apart) {k : q.Reply → Flow AuthError α}
    {k' : q.Reply → Flow AuthError β} {Q : α → β → Scene → Scene → Prop}
    (hk : ∀ t t', t.Echoes o o' t' → t.toStores = s.toStores → t.moment = s.moment + 1 →
      t'.moment = s'.moment + 1 →
      Flow.Echoes o o' Q (k (o.reply s.moment q)) (k' (o'.reply s'.moment q)) t t') :
    Flow.Echoes o o' Q (.ask q k) (.ask q k') s s' := by
  have hnext : ∀ {o : Surroundings} {s : Scene}, (Scene.next o q s).1 = o.reply s.moment q ∧
      (Scene.next o q s).2.toStores = s.toStores := by
    intro o s
    simp [Scene.next, Stores.serve_apart _ hq]
  have hlater : (Scene.next o q s).2.Echoes o o' (Scene.next o' q s').2 :=
    h.later (hnext.2.trans (h.stores.trans hnext.2.symm)) rfl rfl
      fun a ha => ⟨a, by rwa [hnext.2] at ha, rfl, rfl⟩
  have hrest := hk _ _ hlater hnext.2 rfl rfl
  rw [← hnext.1, ← hnext.1] at hrest
  exact hrest

theorem echoes_ask (h : s.Echoes o o' s') (q : Ask) (hq : q.Apart) {k : q.Reply → Flow AuthError α}
    {k' : q.Reply → Flow AuthError β} {Q : α → β → Scene → Scene → Prop}
    (hk : ∀ r r' t t', q.Echoes r r' → t.Echoes o o' t' → Flow.Echoes o o' Q (k r) (k' r') t t') :
    Flow.Echoes o o' Q (.ask q k) (.ask q k') s s' :=
  echoes_apart h hq fun t t' ht _ _ _ => hk _ _ t t' (h.replies 0 q) ht

theorem echoes_now (h : s.Echoes o o' s') {Q : Instant → Instant → Scene → Scene → Prop}
    (hQ : ∀ a t t', t.Echoes o o' t' → Q a a t t') : Flow.Echoes o o' Q now now s s' := by
  refine echoes_ask h .now trivial ?_
  rintro r r' t t' hr ht
  obtain rfl : r = r' := hr
  exact .done (hQ r t t' ht)

theorem echoes_verify (h : s.Echoes o o' s') {password digest : String}
    {Q : Bool → Bool → Scene → Scene → Prop} (hQ : ∀ b t t', t.Echoes o o' t' → Q b b t t') :
    Flow.Echoes o o' Q (verify password (some digest)) (verify password (some digest)) s s' := by
  refine echoes_ask h (.verify password digest) trivial ?_
  rintro r r' t t' hr ht
  obtain rfl : r = r' := hr
  exact .done (hQ r t t' ht)

theorem echoes_log (h : s.Echoes o o' s') {e : Event} {Q : Unit → Unit → Scene → Scene → Prop}
    (hQ : ∀ t t', t.Echoes o o' t' → Q () () t t') :
    Flow.Echoes o o' Q (Flow.log e) (Flow.log e) s s' :=
  echoes_ask h (.log e) trivial fun _ _ t t' _ ht => .done (hQ t t' ht)

theorem echoes_ofExcept {r : Except AuthError α} {r' : Except AuthError β}
    {Q : α → β → Scene → Scene → Prop} (hr : AuthError.Akin r r')
    (hQ : ∀ a a', r = .ok a → r' = .ok a' → Q a a' s s') :
    Flow.Echoes o o' Q (ofExcept r) (ofExcept r') s s' := by
  cases r with
  | error e =>
    cases r' with
    | error e' => exact .failed hr trivial
    | ok a' => exact hr.elim
  | ok a =>
    cases r' with
    | error e' => exact hr.elim
    | ok a' => exact .done (hQ a a' rfl rfl)

theorem echoes_hash (h : s.Echoes o o' s') {password : String}
    {Q : String → String → Scene → Scene → Prop} (hQ : ∀ a a' t t', t.Echoes o o' t' → Q a a' t t') :
    Flow.Echoes o o' Q (hash password) (hash password) s s' :=
  echoes_ask h (.hash password) trivial fun _ _ t t' hr ht =>
    echoes_ofExcept hr fun a a' _ _ => hQ a a' t t' ht

theorem echoes_draw (h : s.Echoes o o' s') {Q : String → String → Scene → Scene → Prop}
    (hQ : ∀ x x' t t', t.Echoes o o' t' → t.toStores = s.toStores → t.moment = s.moment + 1 →
      t'.moment = s'.moment + 1 →
      o.reply s.moment (.draw OpaqueToken.standardBytes) = .ok x →
      o'.reply s'.moment (.draw OpaqueToken.standardBytes) = .ok x' → Q x x' t t') :
    Flow.Echoes o o' Q draw draw s s' :=
  echoes_apart h (q := .draw OpaqueToken.standardBytes) trivial fun t t' ht hd hm hm' =>
    echoes_ofExcept (h.replies 0 (.draw OpaqueToken.standardBytes)) fun x x' hx hx' =>
      hQ x x' t t' ht hd hm hm' hx hx'

theorem echoes_issue (h : s.Echoes o o' s') {u : User} {now : Instant}
    {Q : Jwt.Issued → Jwt.Issued → Scene → Scene → Prop}
    (hQ : ∀ a a' t t', t.Echoes o o' t' → Q a a' t t') :
    Flow.Echoes o o' Q (issue u now) (issue u now) s s' := by
  refine echoes_ask h (.issue u.id u.email u.name now) trivial ?_
  rintro (x | r) (x' | r') t t' hr ht
  · obtain rfl : x = x' := Except.error.inj hr
    exact .crashed trivial
  · cases (show Except.error x = Except.ok r' from hr)
  · cases (show Except.ok r = Except.error x' from hr)
  · exact echoes_ofExcept hr fun a a' _ _ => hQ a a' t t' ht

theorem echoes_checkAlive {t : Token} {time : Instant} {Q : Unit → Unit → Scene → Scene → Prop}
    (hQ : Q () () s s') : Flow.Echoes o o' Q (checkAlive t time) (checkAlive t time) s s' := by
  unfold checkAlive
  split_ifs
  · exact .failed rfl trivial
  · exact .failed rfl trivial
  · exact .done hQ

theorem echoes_nextVersion {version : Int} {Q : Int → Int → Scene → Scene → Prop}
    (hQ : Q (version + 1) (version + 1) s s') :
    Flow.Echoes o o' Q (nextVersion version) (nextVersion version) s s' := by
  unfold nextVersion
  split_ifs
  · exact .done hQ
  · exact .crashed trivial

section

variable (ho : o.Serves) (ho' : o'.Serves)
include ho ho'

theorem echoes_tryUsers (h : s.Echoes o o' s') {c : UserCall}
    {Q : c.Answer → c.Answer → Scene → Scene → Prop}
    (hQ : ∀ a t t', t.Echoes o o' t' → Q a a t t') :
    (tryUsers cfg c).Matches o o' (fun _ _ => True) Eq Q (tryUsers cfg c) s s' := by
  obtain ⟨d, n, minted, readings⟩ := s
  obtain ⟨d', n', minted', readings'⟩ := s'
  obtain rfl : d = d' := h.stores
  unfold tryUsers Flow.Matches
  simp only [Flow.run, Scene.next, Stores.serve, ho _, ho' _, Fate.settle]
  generalize d.users.perform c = p
  obtain ⟨r, after⟩ := p
  cases r with
  | error e => exact .failed rfl trivial
  | ok a => exact .done (hQ a _ _ (h.later rfl rfl rfl fun b hb => ⟨b, hb, rfl, rfl⟩))

theorem echoes_users (h : s.Echoes o o' s') {c : UserCall}
    {Q : c.Answer → c.Answer → Scene → Scene → Prop}
    (hQ : ∀ a t t', t.Echoes o o' t' → Q a a t t') :
    Flow.Echoes o o' Q (users cfg c) (users cfg c) s s' := by
  refine matches_mapFailure ?_ (echoes_tryUsers ho ho' h hQ)
  rintro e _ rfl
  rfl

theorem echoes_tokens (h : s.Echoes o o' s') {c : TokenCall}
    {Q : c.Answer → c.Answer → Scene → Scene → Prop}
    (hr : ∀ a ∈ (s.tokens.perform c).2.records,
      ∃ b ∈ s.tokens.records, b.id = a.id ∧ b.secret = a.secret)
    (hQ : ∀ a t t', t.Echoes o o' t' → Q a a t t') :
    Flow.Echoes o o' Q (tokens cfg c) (tokens cfg c) s s' := by
  obtain ⟨d, n, minted, readings⟩ := s
  obtain ⟨d', n', minted', readings'⟩ := s'
  obtain rfl : d = d' := h.stores
  refine matches_mapFailure (F := Eq) ?_ ?_
  · rintro e _ rfl
    rfl
  unfold tryTokens Flow.Matches
  simp only [Flow.run, Scene.next, Stores.serve, ho _, ho' _, Fate.settle]
  dsimp only at hr
  generalize d.tokens.perform c = p at hr ⊢
  obtain ⟨r, after⟩ := p
  cases r with
  | error e => exact .failed rfl trivial
  | ok a => exact .done (hQ a _ _ (h.later rfl rfl rfl hr))

theorem echoes_findToken (h : s.Echoes o o' s') {kind : TokenKind} {secret : String}
    {Q : Token → Token → Scene → Scene → Prop} (hQ : ∀ a t t', t.Echoes o o' t' → Q a a t t') :
    Flow.Echoes o o' Q (findToken cfg kind secret) (findToken cfg kind secret) s s' := by
  refine matches_bind (echoes_tokens ho ho' h (c := .findBySecret secret)
    (fun a ha => ⟨a, ha, rfl, rfl⟩) fun t? t t' ht => ?_)
  exact matches_ofOption rfl trivial fun a _ => hQ a t t' ht

theorem echoes_revoke (h : s.Echoes o o' s') {a : Token} {Q : Unit → Unit → Scene → Scene → Prop}
    (hQ : ∀ t t', t.Echoes o o' t' → Q () () t t') :
    Flow.Echoes o o' Q (revoke cfg a) (revoke cfg a) s s' := by
  refine matches_bind (echoes_tokens ho ho' h (c := .revokeIfActive a.secret) ?_
    fun active t t' ht => ?_)
  · intro b hb
    simp only [TokenStore.perform] at hb
    split_ifs at hb
    · obtain ⟨c, hc, rfl⟩ := TokenStore.mem_blacklist.1 hb
      exact ⟨c, hc, rfl, rfl⟩
    · exact ⟨b, hb, rfl, rfl⟩
  · cases active with
    | false => exact .failed rfl trivial
    | true => exact .done (hQ t t' ht)

theorem echoes_findAccount (h : s.Echoes o o' s') {email : String}
    {Q : Option User → Option User → Scene → Scene → Prop}
    (hQ : ∀ a t t', t.Echoes o o' t' → Q a a t t') :
    Flow.Echoes o o' Q (findAccount cfg email) (findAccount cfg email) s s' := by
  unfold findAccount
  cases EmailAddress.ofText email with
  | error e => exact .done (hQ none s s' h)
  | ok address => exact echoes_users (c := .findByEmail address) ho ho' h hQ

/-- Each run mints a token of its own. -/
theorem echoes_storeToken (h : s.Echoes o o' s') {u : User} {kind : TokenKind} {seconds : Nat}
    {now : Instant} {Q : Token → Token → Scene → Scene → Prop}
    (hQ : ∀ a a' t t', a.credentialVersion = a'.credentialVersion → t.users = t'.users →
      Q a a' t t') :
    Flow.Echoes o o' Q (storeToken cfg u kind seconds now) (storeToken cfg u kind seconds now)
      s s' := by
  refine matches_bind (echoes_draw h fun id id' t t' ht hd _ _ hid hid' => ?_)
  refine matches_bind (echoes_draw ht fun secret secret' v v' hv hdv _ _ hsecret hsecret' => ?_)
  cases he : now.addSeconds? seconds with
  | none => exact .crashed trivial
  | some expiry =>
    have hnew : ∀ w ∈ v.tokens.records, w.secret ≠ secret ∧ w.id ≠ id := by
      intro w hw
      rw [hdv] at hw
      refine ⟨(ht.spared w hw _ _ _ le_rfl hsecret).2, ?_⟩
      rw [hd] at hw
      exact (h.spared w hw _ _ _ le_rfl hid).1
    have hnew' : ∀ w ∈ v'.tokens.records, w.secret ≠ secret' ∧ w.id ≠ id' := by
      intro w hw
      rw [← hv.stores, hdv] at hw
      refine ⟨(ht.spared' w hw _ _ _ le_rfl hsecret').2, ?_⟩
      rw [hd] at hw
      exact (h.spared' w hw _ _ _ le_rfl hid').1
    refine matches_bind (matches_of_ensures ?_)
    refine ensures_tokens ho (TokenStore.perform_create (TokenStore.create_new hnew)) ?_
    refine ensures_tokens ho' (TokenStore.perform_create (TokenStore.create_new hnew')) ?_
    have husers : v.users = v'.users := congrArg Stores.users hv.stores
    exact .done (.done (hQ _ _ _ _ rfl husers))

theorem echoes_ensureCurrent {u : User} {a a' : Token}
    (hv : a.credentialVersion = a'.credentialVersion) (hu : s.users = s'.users)
    {Q : Unit → Unit → Scene → Scene → Prop} (hQ : ∀ t t', Q () () t t') :
    Flow.Echoes o o' Q (ensureCurrent cfg u a) (ensureCurrent cfg u a') s s' := by
  refine matches_bind (matches_of_ensures ?_)
  refine ensures_users (c := .findById u.id) ho rfl (ensures_users (c := .findById u.id) ho' rfl ?_)
  refine .done ?_
  rw [hu, hv]
  split_ifs
  · exact .done (hQ _ _)
  · refine matches_of_ensures (ensures_bind (ensures_tokens (c := .blacklist _) ho rfl ?_))
    refine ensures_bind (ensures_log (ensures_fail ?_))
    refine ensures_bind (ensures_tokens (c := .blacklist _) ho' rfl ?_)
    exact ensures_bind (ensures_log (ensures_fail (.failed rfl trivial)))

/-- A record is put in the place of another in each run, if the new ones have one identifier and
    one address. -/
theorem echoes_update (h : s.Echoes o o' s') {v w : User} (hid : v.id = w.id)
    (he : v.email = w.email) {Q : User → User → Scene → Scene → Prop}
    (hQ : ∀ t t', Q v w t t') :
    (tryUsers cfg (.update v)).Matches o o' (fun _ _ => True) Eq Q (tryUsers cfg (.update w))
      s s' := by
  have hd : s.users = s'.users := congrArg Stores.users h.stores
  have hsame : (∃ e, s.users.perform (.update v) = (.error e, s.users) ∧
        s'.users.perform (.update w) = (.error e, s'.users)) ∨
      ∃ r r', s.users.perform (.update v) = (.ok v, r) ∧
        s'.users.perform (.update w) = (.ok w, r') := by
    rw [← hd]
    simp only [UserStore.perform, UserStore.update, ← hid, ← he]
    split_ifs
    · exact .inl ⟨_, rfl, rfl⟩
    · exact .inr ⟨_, _, rfl, rfl⟩
    · exact .inl ⟨_, rfl, rfl⟩
  rcases hsame with ⟨e, hp, hp'⟩ | ⟨r, r', hp, hp'⟩
  · unfold tryUsers Flow.Matches
    simp only [Flow.run, Scene.next, Stores.serve, ho _, ho' _, Fate.settle, hp, hp']
    exact .failed rfl trivial
  · refine matches_of_ensures (ensures_tryUsers ho hp (ensures_tryUsers ho' hp' ?_))
    exact .done (hQ _ _)

/-! ### Operations -/

variable (h : s.Echoes o o' s')
include h

theorem login_echoes (email password : String) :
    Flow.Echoes o o' (fun _ _ _ _ => True) (login cfg email password) (login cfg email password)
      s s' := by
  refine matches_bind (echoes_findAccount ho ho' h fun u? t t' ht => ?_)
  cases u? with
  | none =>
    refine matches_bind (echoes_ask ht (.verifyDecoy password) trivial fun _ _ t t' _ ht => ?_)
    refine .done (matches_bind (echoes_log ht fun t t' ht => ?_))
    exact .failed rfl trivial
  | some u =>
    refine matches_bind (echoes_verify ht fun good t t' ht => ?_)
    split_ifs
    · refine matches_bind (echoes_now ht fun now t t' ht => ?_)
      refine matches_bind (echoes_issue ht fun a a' t t' ht => ?_)
      refine matches_bind (echoes_storeToken ho ho' ht fun b b' t t' _ _ => ?_)
      exact matches_of_ensures (ensures_bind (ensures_log (ensures_done
        (ensures_bind (ensures_log (ensures_done (.done trivial)))))))
    · exact matches_bind (echoes_log ht fun _ _ _ => .failed rfl trivial)
    · exact matches_bind (echoes_log ht fun _ _ _ => .failed rfl trivial)

theorem logout_echoes (secret : String) :
    Flow.Echoes o o' (fun _ _ _ _ => True) (logout cfg secret) (logout cfg secret) s s' := by
  refine matches_bind (echoes_tokens ho ho' h (c := .blacklist secret) ?_ fun _ t t' ht => ?_)
  · intro a ha
    obtain ⟨b, hb, rfl⟩ := TokenStore.mem_blacklist.1 ha
    exact ⟨b, hb, rfl, rfl⟩
  · exact echoes_log ht fun _ _ _ => trivial

theorem refresh_echoes (secret : String) :
    Flow.Echoes o o' (fun _ _ _ _ => True) (refresh cfg secret) (refresh cfg secret) s s' := by
  refine matches_bind (echoes_now h fun now t t' ht => ?_)
  refine matches_bind (echoes_findToken ho ho' ht fun token t t' ht => ?_)
  refine matches_bind (echoes_checkAlive ?_)
  refine matches_bind (echoes_users ho ho' ht (c := .findById token.userId) fun u? t t' ht => ?_)
  refine matches_bind (matches_ofOption rfl trivial fun u _ => ?_)
  split_ifs
  · exact .failed rfl trivial
  · exact matches_bind (echoes_log ht fun _ _ _ => .failed rfl trivial)
  · refine matches_bind (echoes_issue ht fun a a' t t' ht => ?_)
    refine matches_bind (echoes_revoke ho ho' ht fun t t' ht => ?_)
    refine matches_bind (echoes_storeToken ho ho' ht fun b b' t t' hv hu => ?_)
    refine matches_bind (echoes_ensureCurrent ho ho' hv hu fun t t' => ?_)
    exact matches_of_ensures (ensures_bind (ensures_log (ensures_done
      (ensures_bind (ensures_log (ensures_done (.done trivial)))))))
  · exact matches_bind (echoes_issue ht fun _ _ _ _ _ => .done trivial)

theorem changePassword_echoes (id : UserId) (old new : String) :
    Flow.Echoes o o' (fun _ _ _ _ => True) (changePassword cfg id old new)
      (changePassword cfg id old new) s s' := by
  refine matches_bind (echoes_users ho ho' h (c := .findById id) fun u? t t' ht => ?_)
  refine matches_bind (matches_ofOption rfl trivial fun u _ => ?_)
  refine matches_bind (echoes_verify ht fun good t t' ht => ?_)
  split_ifs
  · cases Password.weakness? new with
    | some w => exact .failed rfl trivial
    | none =>
      refine matches_bind (echoes_hash ht fun digest digest' t t' ht => ?_)
      refine matches_bind (echoes_nextVersion ?_)
      refine matches_bind (echoes_now ht fun now t t' ht => ?_)
      refine matches_bind (matches_mapFailure (F := Eq) ?_ (echoes_update (v := u.rekeyed digest now)
        (w := u.rekeyed digest' now) ho ho' ht rfl rfl fun t t' => ?_))
      · rintro e _ rfl
        rfl
      · exact matches_of_ensures (ensures_bind (ensures_tokens (c := .deleteAllForUser _) ho rfl
          (ensures_log (ensures_bind (ensures_tokens (c := .deleteAllForUser _) ho' rfl
            (ensures_log (.done trivial)))))))
  · exact .failed rfl trivial

theorem verifyEmail_echoes (secret : String) :
    Flow.Echoes o o' (fun _ _ _ _ => True) (verifyEmail cfg secret) (verifyEmail cfg secret)
      s s' := by
  refine matches_bind (echoes_now h fun now t t' ht => ?_)
  refine matches_bind (echoes_findToken ho ho' ht fun token t t' ht => ?_)
  refine matches_bind (echoes_checkAlive ?_)
  refine matches_bind (echoes_revoke ho ho' ht fun t t' ht => ?_)
  refine matches_bind (echoes_users ho ho' ht (c := .findById token.userId) fun u? t t' ht => ?_)
  refine matches_bind (matches_ofOption rfl trivial fun u _ => ?_)
  have hconfirmed : ∀ {v : User} {t t' : Scene}, t.Echoes o o' t' →
      Flow.Echoes o o' (fun _ _ _ _ => True) (Flow.log (.emailVerified v.id) >>= fun _ =>
        pure v.profile) (Flow.log (.emailVerified v.id) >>= fun _ => pure v.profile) t t' :=
    fun ht => matches_bind (echoes_log ht fun _ _ _ => .done trivial)
  refine matches_bind ?_
  unfold markVerified
  split_ifs
  · exact .done (hconfirmed ht)
  · refine matches_mapFailure ?_ (echoes_tryUsers (c := .update _) ho ho' ht fun v t t' ht => ?_)
    · rintro e _ rfl
      rfl
    · exact hconfirmed ht

theorem resendVerification_echoes (email : String) :
    Flow.Echoes o o' (fun _ _ _ _ => True) (resendVerification cfg email)
      (resendVerification cfg email) s s' := by
  unfold resendVerification
  cases EmailAddress.ofText email with
  | error e => exact .failed rfl trivial
  | ok address =>
    refine matches_bind (echoes_users ho ho' h (c := .findByEmail address) fun u? t t' ht => ?_)
    cases u?.filter isPending with
    | none => exact echoes_log ht fun _ _ _ => trivial
    | some u =>
      refine matches_bind (echoes_now ht fun now t t' ht => ?_)
      refine matches_bind (echoes_storeToken ho ho' ht fun b b' t t' _ _ => ?_)
      exact matches_of_ensures (ensures_bind (ensures_deliver fun _ _ => ensures_log
        (ensures_bind (ensures_deliver fun _ _ => ensures_log (.done trivial)))))

end

end Service

/-- The flow of a call ends alike, up to failures of one kind. -/
theorem Call.echoes_flow (cfg : Settings) {o o' : Surroundings} (ho : o.Serves) (ho' : o'.Serves)
    {s s' : Scene} (h : s.Echoes o o' s') {c : Call} (hc : c.onAccount = true) :
    ∃ E : c.Failure → c.Failure → Prop,
      (c.flow cfg).Matches o o' (fun _ _ => True) E (fun _ _ _ _ => True) (c.flow cfg) s s' ∧
        ∀ e e', E e e' → (c.cause? e).map AuthError.bare = (c.cause? e').map AuthError.bare := by
  have hbare : ∀ e e' : AuthError, e.bare = e'.bare →
      (some e).map AuthError.bare = (some e').map AuthError.bare := fun e e' => congrArg some
  unfold Call.flow
  cases c with
  | login email password => exact ⟨_, Service.login_echoes ho ho' h email password, hbare⟩
  | logout secret => exact ⟨_, Service.logout_echoes ho ho' h secret, hbare⟩
  | refresh secret => exact ⟨_, Service.refresh_echoes ho ho' h secret, hbare⟩
  | changePassword id old new =>
    exact ⟨_, Service.changePassword_echoes ho ho' h id old new, hbare⟩
  | verifyEmail secret => exact ⟨_, Service.verifyEmail_echoes ho ho' h secret, hbare⟩
  | resendVerification email => exact ⟨_, Service.resendVerification_echoes ho ho' h email, hbare⟩
  | register | validate | sweep => cases hc

/-- In surroundings that reply alike a call gets an answer of one kind. -/
theorem Call.answers_again (cfg : Settings) {o o' : Surroundings} (ho : o.Serves) (ho' : o'.Serves)
    {s s' : Scene} (h : s.Echoes o o' s') {c : Call} (hc : c.onAccount = true) :
    c.kind? ((c.flow cfg).run (Scene.next o) s).1 =
      c.kind? ((c.flow cfg).run (Scene.next o') s').1 := by
  obtain ⟨E, hm, hE⟩ := Call.echoes_flow cfg ho ho' h hc
  unfold Flow.Matches at hm
  generalize (c.flow cfg).run (Scene.next o) s = r at hm ⊢
  generalize (c.flow cfg).run (Scene.next o') s' = r' at hm ⊢
  obtain ⟨e, t⟩ := r
  obtain ⟨e', t'⟩ := r'
  cases hm with
  | done => rfl
  | @failed e e' _ _ he =>
    have hmap := congrArg (Option.map (Except.error : AuthError → Except AuthError Unit)) (hE e e' he)
    rwa [Option.map_map, Option.map_map] at hmap
  | crashed => rfl

/-! ## Made again -/

/-- What was put in is found. -/
theorem UserStore.findById_update {s after : UserStore} {u : User} (h : s.update u = .ok after) :
    after.findById u.id = some u := by
  obtain ⟨⟨v, hv⟩, rfl⟩ := UserStore.update_ok h
  rw [UserStore.findById_replace hv]
  exact if_pos rfl

/-- What is stored can be changed once more. -/
theorem UserStore.update_again {s after : UserStore} {u v : User} (h : s.update u = .ok after)
    (hid : v.id = u.id) (he : v.email = u.email) : ∃ later, after.update v = .ok later := by
  obtain ⟨⟨w, hw⟩, rfl⟩ := UserStore.update_ok h
  unfold update at h
  split_ifs at h with hfree hstored
  have hfree' : ((s.replace u).records.any fun w => w.id != v.id && w.email == v.email) = false := by
    rw [Bool.not_eq_true, List.any_eq_false] at hfree
    rw [hid, he, List.any_eq_false]
    intro w hw
    obtain ⟨x, hx, rfl⟩ := List.mem_map.1 hw
    split_ifs with hxu
    · simp
    · exact hfree x hx
  have hstored' : (s.replace u).records.any (·.id == v.id) = true := by
    obtain ⟨hmem, hwu⟩ := UserStore.findById_eq hw
    exact List.any_eq_true.2 ⟨u, List.mem_map.2 ⟨w, hmem, if_pos hwu⟩, by simp [hid]⟩
  unfold update
  rw [hfree', hstored']
  exact ⟨_, rfl⟩

namespace Service

open Gatehouse.Flow

variable {o : Surroundings} {cfg : Settings} {s : Scene}

theorem ensures_ofReply {password digest : String} {Ψ : Ending AuthError String → Scene → Prop}
    (hd : o.reply s.moment (.hash password) = .ok digest)
    (h : Ψ (.done digest) { s with moment := s.moment + 1 }) :
    (hash password).Ensures o s Ψ := by
  unfold hash Ensures
  simp only [Flow.run, Scene.next, Stores.serve, hd]
  exact h

variable (ho : o.Serves)
include ho

/-- A token that was used up is turned away. -/
theorem ensures_spent {kind : TokenKind} {secret : String} {t : Token} {α : Type}
    {f : Instant → Token → Flow AuthError α} (ht : s.tokens.findBySecret secret = some t)
    (hk : t.kind = kind) (he : t.isExpired (o.reply s.moment .now) = false)
    (hr : t.revoked = true) :
    (now >>= fun time => findToken cfg kind secret >>= fun a =>
      checkAlive a time >>= fun _ => f time a).Ensures o s fun e _ => e = .failed .tokenRevoked := by
  refine ensures_bind (ensures_now (ensures_bind (ensures_findToken ho ?_ ?_)))
  · intro hn
    exact absurd hk (hn t ht)
  · intro a ha _
    obtain rfl : a = t := Option.some.inj (ha.symm.trans ht)
    refine ensures_bind ?_
    unfold checkAlive
    rw [he, hr]
    rfl

theorem changePassword_mismatch {id : UserId} {old new : String} {u : User}
    (hu : s.users.findById id = some u)
    (hold : o.reply (s.moment + 1) (.verify old u.passwordHash) = false) :
    (changePassword cfg id old new).Ensures o s fun e _ => e = .failed .invalidCredentials := by
  refine ensures_bind (ensures_users (c := .findById id) ho rfl ?_)
  refine ensures_bind ?_
  rw [hu]
  refine ensures_done (ensures_bind (ensures_verify ?_))
  rw [hold]
  exact ensures_fail rfl

/-- The password is replaced, if the version has room to count the change. -/
theorem changePassword_match {id : UserId} {old new digest : String} {u : User} {after : UserStore}
    (hu : s.users.findById id = some u)
    (hold : o.reply (s.moment + 1) (.verify old u.passwordHash) = true)
    (hnew : Password.weakness? new = none)
    (hdigest : o.reply (s.moment + 2) (.hash new) = .ok digest)
    (hupdate : s.users.update (u.rekeyed digest (o.reply (s.moment + 3) .now)) = .ok after) :
    (changePassword cfg id old new).Ensures o s fun e _ =>
      e = if u.credentialVersion < lastVersion then .done () else .crashed .count := by
  refine ensures_bind (ensures_users (c := .findById id) ho rfl ?_)
  refine ensures_bind ?_
  rw [hu]
  refine ensures_done (ensures_bind (ensures_verify ?_))
  rw [hold]
  dsimp only
  rw [if_pos rfl, hnew]
  refine ensures_bind (ensures_ofReply hdigest (ensures_bind ?_))
  unfold nextVersion
  split_ifs with hroom
  · refine ensures_done (ensures_bind (ensures_now ?_))
    refine ensures_bind (ensures_mapFailure (ensures_tryUsers ho
      (UserStore.perform_update hupdate) ?_))
    refine ensures_bind (ensures_tokens (c := .deleteAllForUser u.id) ho rfl ?_)
    exact ensures_log rfl
  · rfl

end Service

namespace State

/-- What a call is answered that is made in the state `s₁`, after it was made in the state `s` and
    lost a store call. -/
inductive Retried (cfg : Settings) (o o' : Surroundings) (s s₁ : State) : Call → Prop
  /-- It had written nothing, and is answered as it would have been. -/
  | unwritten {c} : s₁.toStores = s.toStores → s₁.kind? cfg o' c = s.kind? cfg o c →
      Retried cfg o o' s s₁ c
  /-- It had used its token up. -/
  | spent {c kind secret t} : c.Redeems cfg kind secret →
      s.Presents o s.log.length kind secret t →
      s₁.tokens.findBySecret secret = some { t with revoked := true } →
      s₁.kind? cfg o' c = some (.error .tokenRevoked) → Retried cfg o o' s s₁ c
  /-- It had replaced the password, and the old one is wrong now. -/
  | mismatched {id old new u v} : s.users.findById id = some u → s₁.users.findById id = some v →
      s₁.tokens = s.tokens → o'.reply (s₁.log.length + 1) (.verify old v.passwordHash) = false →
      s₁.kind? cfg o' (.changePassword id old new) = some (.error .invalidCredentials) →
      Retried cfg o o' s s₁ (.changePassword id old new)
  /-- It had replaced the password, and the old one is right still: the password is replaced again,
      if the version has room to count that too. -/
  | matched {id old new u v} : s.users.findById id = some u → s₁.users.findById id = some v →
      s₁.tokens = s.tokens → o'.reply (s₁.log.length + 1) (.verify old v.passwordHash) = true →
      s₁.kind? cfg o' (.changePassword id old new) =
        (if v.credentialVersion < Service.lastVersion then
          s.kind? cfg o (.changePassword id old new) else none) →
      Retried cfg o o' s s₁ (.changePassword id old new)

section

variable {cfg : Settings} {o o' : Surroundings} {s s₁ : State} {c : Call}

theorem kind_of_ensures {x : Option (Except AuthError Unit)}
    (h : (c.flow cfg).Ensures o s.scene fun e _ => c.kind? e = x) : s.kind? cfg o c = x := by
  rw [kind?, ending_eq]
  exact h

/-- What a call leaves that is made next and does not return. -/
theorem remains (ho : o.Loses) (hc : c.onAccount = true) (h : ∀ v, s.ending cfg o c ≠ .done v) :
    c.Remains cfg o s.log.length s.toStores (s.conduct cfg o c).toStores := by
  obtain ⟨sc, hstores, -, hend⟩ := ending_ensures s (c.remains cfg ho hc s.scene)
  rw [← hstores]
  generalize s.ending cfg o c = e at h hend
  cases e with
  | done v => exact absurd rfl (h v)
  | failed | crashed => exact hend

theorem retried_spent (ho' : o'.Serves) (hech : o.Echoes s.log.length o' s₁.log.length)
    {kind : TokenKind} {secret : String} {t : Token} (hr : c.Redeems cfg kind secret)
    (ht : s.Presents o s.log.length kind secret t)
    (hspent : s₁.tokens.findBySecret secret = some { t with revoked := true }) :
    s.Retried cfg o o' s₁ c := by
  have htime : o.reply s.log.length .now = o'.reply s₁.log.length .now := hech 0 .now
  have halive : t.isExpired (o'.reply s₁.log.length .now) = false := htime ▸ ht.unexpired
  have hk := ht.kind
  refine .spent hr ht hspent ?_
  cases hr with
  | refresh =>
    have hend : (Service.refresh cfg secret).Ensures o' s₁.scene fun e _ =>
        e = .failed .tokenRevoked := Service.ensures_spent ho' hspent hk halive rfl
    exact kind_of_ensures (congrArg (Call.kind? (.refresh secret)) hend)
  | verifyEmail =>
    have hend : (Service.verifyEmail cfg secret).Ensures o' s₁.scene fun e _ =>
        e = .failed .tokenRevoked := Service.ensures_spent ho' hspent hk halive rfl
    exact kind_of_ensures (congrArg (Call.kind? (.verifyEmail secret)) hend)

/-- Made again, a password change compares the old password with the new digest. -/
theorem retried_rekeyed (ho : o.Serves) (ho' : o'.Serves)
    (hech : o.Echoes s.log.length o' s₁.log.length) {id : UserId} {old new digest : String}
    {u : User} (hu : s.users.findById id = some u)
    (hold : o.reply (s.log.length + 1) (.verify old u.passwordHash) = true)
    (hnew : Password.weakness? new = none)
    (hdigest : o.reply (s.log.length + 2) (.hash new) = .ok digest)
    (hroom : u.credentialVersion < Service.lastVersion)
    (hupdate : s.users.update (u.rekeyed digest (o.reply (s.log.length + 3) .now)) = .ok s₁.users)
    (htokens : s₁.tokens = s.tokens) : s.Retried cfg o o' s₁ (.changePassword id old new) := by
  have hfirst : s.kind? cfg o (.changePassword id old new) = some (.ok ()) := by
    have hend : (Service.changePassword cfg id old new).Ensures o s.scene _ :=
      Service.changePassword_match ho hu hold hnew hdigest hupdate
    rw [if_pos hroom] at hend
    exact kind_of_ensures (congrArg (Call.kind? (.changePassword id old new)) hend)
  set v : User := u.rekeyed digest (o.reply (s.log.length + 3) .now)
  have hv : s₁.users.findById id = some v := by
    obtain ⟨-, rfl⟩ := UserStore.findById_eq hu
    exact UserStore.findById_update hupdate
  cases hmatch : o'.reply (s₁.log.length + 1) (.verify old v.passwordHash) with
  | false =>
    have hend : (Service.changePassword cfg id old new).Ensures o' s₁.scene _ :=
      Service.changePassword_mismatch ho' hv hmatch
    exact .mismatched hu hv htokens hmatch
      (kind_of_ensures (congrArg (Call.kind? (.changePassword id old new)) hend))
  | true =>
    have hakin : AuthError.Akin (o.reply (s.log.length + 2) (.hash new))
      (o'.reply (s₁.log.length + 2) (.hash new)) := hech 2 (.hash new)
    rw [hdigest] at hakin
    obtain ⟨digest', hdigest'⟩ := hakin.exists_ok
    obtain ⟨later, hlater⟩ := UserStore.update_again
      (v := v.rekeyed digest' (o'.reply (s₁.log.length + 3) .now)) hupdate rfl rfl
    have hend : (Service.changePassword cfg id old new).Ensures o' s₁.scene _ :=
      Service.changePassword_match ho' hv hmatch hnew hdigest' hlater
    refine .matched hu hv htokens hmatch (kind_of_ensures ?_)
    rw [hfirst]
    refine (congrArg (Call.kind? (.changePassword id old new)) hend).trans ?_
    split_ifs <;> rfl

end

/-- A call that has failed because a store call was lost without effect is made again at once. It is
    answered as it would have been, unless it had written. -/
theorem answer_again (cfg : Settings) {o o' : Surroundings} (ho : o.Serves) (ho' : o'.Serves)
    (s : State) {c : Call} (hc : c.onAccount = true) (k : Nat) (error : Option StoreError)
    (hlost : s.kind? cfg (o.losing k error) c = some (.error (.storageUnavailable "")))
    (hech : o.Echoes s.log.length o' (s.conduct cfg (o.losing k error) c).log.length)
    (hspared : o.Spares s.log.length s.tokens)
    (hspared' : o'.Spares (s.conduct cfg (o.losing k error) c).log.length s.tokens) :
    s.Retried cfg o o' (s.conduct cfg (o.losing k error) c) c := by
  have hend : ∀ v, s.ending cfg (o.losing k error) c ≠ .done v := by
    intro v hv
    rw [kind?, hv] at hlost
    cases hlost
  have hremains := remains (Surroundings.losing_loses ho k error) hc hend
  generalize s.conduct cfg (o.losing k error) c = s₁ at *
  cases hremains with
  | nothing hd =>
    refine .unwritten hd ?_
    have hscene : s.scene.Echoes o o' s₁.scene := ⟨hd.symm, hech, hspared, hspared'⟩
    rw [kind?, kind?, ending_eq, ending_eq]
    exact (Call.answers_again cfg ho ho' hscene hc).symm
  | spent hr hp hspent =>
    exact retried_spent ho' hech hr ⟨hp.found, hp.kind, hp.unexpired, hp.active⟩ hspent
  | rekeyed hu hold hnew hdigest hroom hupdate htokens =>
    exact retried_rekeyed ho ho' hech hu hold hnew hdigest hroom hupdate htokens

/-- The lookup of a link is lost. -/
theorem answer_again_link :
    (sequence {} .plain [.register adasForm]).kind? {}
        (Surroundings.plain.losing 13 (some (.unavailable "down"))) (.verifyEmail (unary 8)) =
        some (.error (.storageUnavailable "")) ∧
      (sequence {} .plain [.register adasForm]).Retried {} .plain .plain
        ((sequence {} .plain [.register adasForm]).conduct {}
          (Surroundings.plain.losing 13 (some (.unavailable "down"))) (.verifyEmail (unary 8)))
        (.verifyEmail (unary 8)) := by
  have hlost : (sequence {} .plain [.register adasForm]).kind? {}
      (Surroundings.plain.losing 13 (some (.unavailable "down"))) (.verifyEmail (unary 8)) =
      some (.error (.storageUnavailable "")) := by decide +kernel
  have htidy : (sequence {} .plain [.register adasForm]).toStores.Tidy .plain _ :=
    sequence_tidy Surroundings.plain_calm [.register adasForm]
  have hspared := htidy.spares Surroundings.plain_calm
  refine ⟨hlost, answer_again {} (fun _ => rfl) (fun _ => rfl) _ rfl 13 _ hlost
    (Surroundings.plain_echoes _ _) hspared ?_⟩
  exact hspared.later (by decide +kernel) fun t ht => ⟨t, ht, rfl, rfl⟩

/-- The answers to a call that loses its `k`-th question, to the same call if nothing is lost, and
    to the call that is made again. -/
def trial (calls : List Call) (k : Nat) (c : Call) : List (Option (Except AuthError Unit)) :=
  let s := sequence {} .plain calls
  let o := Surroundings.plain.losing (s.log.length + k) (some (.unavailable "down"))
  [s.kind? {} o c, s.kind? {} .plain c, (s.conduct {} o c).kind? {} .plain c]

/-- A rotation loses its successor, a confirmation the lookup of the account and a password change
    the purge of the tokens: each had written before. -/
theorem answers_change :
    trial [.register adasForm, .login "ada@example.org" "Old-pass-1"] 7 (.refresh (unary 17)) =
        [some (.error (.storageUnavailable "")), some (.ok ()), some (.error .tokenRevoked)] ∧
      trial [.register adasForm] 3 (.verifyEmail (unary 8)) =
        [some (.error (.storageUnavailable "")), some (.ok ()), some (.error .tokenRevoked)] ∧
      trial [.register adasForm] 5 (.changePassword ⟨unary 3⟩ "Old-pass-1" "New-pass-2") =
        [some (.error (.storageUnavailable "")), some (.ok ()),
          some (.error .invalidCredentials)] := by
  decide +kernel

end State

end Gatehouse
