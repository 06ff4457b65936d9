/-
  Gatehouse — what a client can tell of a sweep.

  Clients call operations and send requests, one at a time, and between them the sweeper
  wakes. In the same surroundings the acts are done twice: once the sweeps are carried out,
  once their moments pass without them. The stores drift apart, but only by tokens that are
  past their expiry for good (`Stores.Thins`).

  * `Stores.Thins.lookup`: a secret is that of the same token in both stores, or of none in one
    and of an expired token in the other;
  * `Act.thins`: an act is answered alike over such stores, and leaves such stores;
  * `Scene.sweeps_unseen`: so the two runs answer alike. One error alone differs: a token that is
    gone is unknown, where one that is still there is expired. No response differs.
-/
import Gatehouse.Http.Router
import Gatehouse.Proofs.Calm
import Gatehouse.Proofs.Pairing

namespace Gatehouse

/-! ## Stores without some expired tokens -/

/-- The stores `d` are the stores `d'` without some tokens that are past their expiry from the
    moment `n` on. -/
structure Stores.Thins (o : Surroundings) (n : Nat) (d d' : Stores) : Prop where
  users : d.users = d'.users
  kept : d.tokens.records.Sublist d'.tokens.records
  past : ∀ t ∈ d'.tokens.records, t ∉ d.tokens.records → ∀ k, n ≤ k → t.expiresAt < o.reply k .now
  secrets : (d'.tokens.records.map (·.secret)).Nodup
  spared : o.Spares n d'.tokens

/-- Two scenes of one moment, the first without some expired tokens of the second. -/
structure Scene.Thins (o : Surroundings) (s s' : Scene) : Prop where
  moment : s.moment = s'.moment
  stores : s.toStores.Thins o s.moment s'.toStores

namespace Stores.Thins

variable {o : Surroundings} {n m : Nat} {d d' : Stores} {t : Token}

theorem refl (hs : (d.tokens.records.map (·.secret)).Nodup) (hd : o.Spares n d.tokens) :
    d.Thins o n d where
  users := rfl
  kept := .refl _
  past _ ht hn := absurd ht hn
  secrets := hs
  spared := hd

theorem later (h : d.Thins o n d') (hm : n ≤ m) : d.Thins o m d' :=
  { h with
    past := fun t ht hn k hk => h.past t ht hn k (hm.trans hk)
    spared := fun t ht k bytes x hk => h.spared t ht k bytes x (hm.trans hk) }

theorem sweep (h : d.Thins o n d') (ho : o.Steady) :
    Stores.Thins o n { d with tokens := d.tokens.dropAll (TokenStore.isSwept (o.reply n .now)) }
      d' := by
  refine { h with kept := List.filter_sublist.trans h.kept, past := fun t ht hn k hk => ?_ }
  by_cases hd : t ∈ d.tokens.records
  · refine Instant.lt_of_lt_of_le ?_ (ho n k hk)
    by_contra hlt
    have hlive : t.expiresAt.isBefore (o.reply n .now) = false := Instant.le_iff_not_lt.2 hlt
    exact hn (List.mem_filter.2 ⟨hd, by simp [TokenStore.isSwept, hlive]⟩)
  · exact h.past t ht hd k hk

theorem blacklist (h : d.Thins o n d') (secret : String) :
    Stores.Thins o n { d with tokens := d.tokens.blacklist secret }
      { d' with tokens := d'.tokens.blacklist secret } := by
  refine { h with kept := h.kept.map _, past := ?_, secrets := ?_, spared := ?_ }
  · intro t ht hn
    obtain ⟨u, hu, rfl⟩ := TokenStore.mem_blacklist.1 ht
    refine h.past u hu fun hd => hn ?_
    exact TokenStore.mem_blacklist.2 ⟨u, hd, rfl⟩
  · rw [TokenStore.secrets_blacklist]
    exact h.secrets
  · intro t ht
    obtain ⟨u, hu, rfl⟩ := TokenStore.mem_blacklist.1 ht
    exact h.spared u hu

theorem dropAll (h : d.Thins o n d') (dead : Token → Bool) :
    Stores.Thins o n { d with tokens := d.tokens.dropAll dead }
      { d' with tokens := d'.tokens.dropAll dead } := by
  refine { h with kept := h.kept.filter _, past := ?_, secrets := ?_, spared := ?_ }
  · intro t ht hn
    obtain ⟨ht, hlive⟩ := List.mem_filter.1 ht
    exact h.past t ht fun hd => hn (List.mem_filter.2 ⟨hd, hlive⟩)
  · exact h.secrets.sublist (List.filter_sublist.map _)
  · exact fun t ht => h.spared t (List.mem_filter.1 ht).1

/-- A new token is added to both. -/
theorem append (h : d.Thins o n d') (hnew : ∀ u ∈ d'.tokens.records, u.secret ≠ t.secret)
    (hspared : ∀ k bytes x, n ≤ k → o.reply k (.draw bytes) = .ok x → t.id ≠ x ∧ t.secret ≠ x) :
    Stores.Thins o n { d with tokens := ⟨d.tokens.records ++ [t]⟩ }
      { d' with tokens := ⟨d'.tokens.records ++ [t]⟩ } := by
  refine { h with kept := h.kept.append (.refl _), past := ?_, secrets := ?_, spared := ?_ }
  · intro u hu hn
    simp only [List.mem_append, not_or] at hu hn
    exact h.past u (hu.resolve_right hn.2) hn.1
  · refine List.map_append ▸ List.nodup_append.2 ⟨h.secrets, List.nodup_singleton _, ?_⟩
    simpa using hnew
  · intro u hu
    rcases List.mem_append.1 hu with hu | hu
    · exact h.spared u hu
    · rw [List.mem_singleton.1 hu]
      exact hspared

/-- A secret is that of the same token in both stores, or that of a token which is expired for good
    and is in one of them alone. -/
theorem lookup (h : d.Thins o n d') (secret : String) :
    d.tokens.findBySecret secret = d'.tokens.findBySecret secret ∨
      ∃ t, d.tokens.findBySecret secret = none ∧ d'.tokens.findBySecret secret = some t ∧
        ∀ k, n ≤ k → t.expiresAt < o.reply k .now := by
  cases hf : d'.tokens.findBySecret secret with
  | none =>
    left
    rw [TokenStore.findBySecret, List.find?_eq_none] at hf ⊢
    exact fun t ht => hf t (h.kept.subset ht)
  | some t =>
    obtain ⟨ht, rfl⟩ := TokenStore.findBySecret_eq hf
    by_cases hd : t ∈ d.tokens.records
    · exact .inl (TokenStore.findBySecret_mem (h.secrets.sublist (h.kept.map _)) hd)
    · refine .inr ⟨t, ?_, rfl, h.past t ht hd⟩
      rw [TokenStore.findBySecret, List.find?_eq_none]
      intro u hu hut
      have hut : u.secret = t.secret := by simpa using hut
      exact hd (List.inj_on_of_nodup_map h.secrets (h.kept.subset hu) ht hut ▸ hu)

end Stores.Thins

/-! ## Parts of operations -/

/-- The same is returned, and the scenes differ as before. -/
def Scene.Alike (o : Surroundings) {α : Type} (a b : α) (s s' : Scene) : Prop :=
  a = b ∧ s.Thins o s'

/-- A token that is gone is unknown, where one that is still there is expired. -/
def AuthError.Blurs (e e' : AuthError) : Prop := e = e' ∨ e = .invalidToken ∧ e' = .tokenExpired

namespace Service

open Gatehouse.Flow

variable {o : Surroundings} {cfg : Settings} {s s' : Scene} {ε α : Type} {E : ε → ε → Prop}

/-- What asks nothing of the stores comes to the same. -/
theorem matches_apart (h : s.Thins o s') (hE : ∀ e, E e e) {m : Flow ε α} (hm : m.Apart)
    {Q : α → α → Scene → Scene → Prop}
    (hQ : ∀ a t t', t.Thins o t' → t.tokens = s.tokens → t'.tokens = s'.tokens → Q a a t t') :
    m.Matches o o (Scene.Thins o) E Q m s s' := by
  obtain ⟨he, hmoment, hs, hs'⟩ := hm.run (o := o) h.moment
  have hlater := Scene.run_moment (o := o) m s
  have hthins : (m.run (Scene.next o) s).2.Thins o (m.run (Scene.next o) s').2 :=
    ⟨hmoment, by rw [hs, hs']; exact h.stores.later hlater⟩
  unfold Matches
  rw [← he]
  cases (m.run (Scene.next o) s).1 with
  | done a => exact .done (hQ a _ _ hthins (by rw [hs]) (by rw [hs']))
  | failed e => exact .failed (hE e) hthins
  | crashed x => exact .crashed hthins

/-- What asks nothing of the stores, and what is done next. -/
theorem matches_apart_bind {β : Type} (h : s.Thins o s') (hE : ∀ e, E e e) {m : Flow ε β}
    (hm : m.Apart) {f f' : β → Flow ε α} {Q : α → α → Scene → Scene → Prop}
    (hQ : ∀ a t t', t.Thins o t' → t.tokens = s.tokens → t'.tokens = s'.tokens →
      (f a).Matches o o (Scene.Thins o) E Q (f' a) t t') :
    (m >>= f).Matches o o (Scene.Thins o) E Q (m >>= f') s s' :=
  matches_bind (matches_apart h hE hm hQ)

theorem matches_tryUsers (h : s.Thins o s') {c : UserCall}
    {Q : c.Answer → c.Answer → Scene → Scene → Prop}
    (hQ : ∀ a t t', t.Thins o t' → t.tokens = s.tokens → t'.tokens = s'.tokens → Q a a t t') :
    (tryUsers cfg c).Matches o o (Scene.Thins o) Eq Q (tryUsers cfg c) s s' := by
  obtain ⟨⟨users, tokens⟩, n, minted, readings⟩ := s
  obtain ⟨⟨users', tokens'⟩, n', minted', readings'⟩ := s'
  obtain ⟨rfl, hd⟩ := h
  obtain rfl : users = users' := hd.users
  have hstay := hd.later (Nat.le_succ n)
  have hafter : Stores.Thins o (n + 1) ⟨(users.perform c).2, tokens⟩
      ⟨(users.perform c).2, tokens'⟩ := { hstay with users := rfl }
  unfold tryUsers Matches
  simp only [Flow.run, Scene.next, Stores.serve]
  generalize users.perform c = p at hafter ⊢
  obtain ⟨r, after⟩ := p
  cases o.fate n with
  | served =>
    cases r with
    | error e => exact .failed rfl ⟨rfl, hstay⟩
    | ok a => exact .done (hQ a _ _ ⟨rfl, hafter⟩ rfl rfl)
  | lost error carriedOut =>
    have hthins : ∀ took : Bool, Stores.Thins o (n + 1)
        (if took then ⟨after, tokens⟩ else ⟨users, tokens⟩)
        (if took then ⟨after, tokens'⟩ else ⟨users, tokens'⟩) := by
      intro took
      split_ifs
      exacts [hafter, hstay]
    cases error with
    | none => exact .failed rfl ⟨rfl, hthins _⟩
    | some e => exact .failed rfl ⟨rfl, hthins _⟩

theorem matches_tryTokens (h : s.Thins o s') {c : TokenCall} {x y : c.Answer} {a b : TokenStore}
    {Q : c.Answer → c.Answer → Scene → Scene → Prop}
    (hx : s.tokens.perform c = (.ok x, a)) (hy : s'.tokens.perform c = (.ok y, b))
    (hafter : Stores.Thins o (s.moment + 1) ⟨s.users, a⟩ ⟨s'.users, b⟩)
    (hQ : ∀ t t', t.Thins o t' → t.tokens = a → t'.tokens = b → Q x y t t') :
    (tryTokens cfg c).Matches o o (Scene.Thins o) Eq Q (tryTokens cfg c) s s' := by
  obtain ⟨⟨users, tokens⟩, n, minted, readings⟩ := s
  obtain ⟨⟨users', tokens'⟩, n', minted', readings'⟩ := s'
  obtain ⟨rfl, hd⟩ := h
  have hstay := hd.later (Nat.le_succ n)
  dsimp only at hx hy hafter
  unfold tryTokens Matches
  simp only [Flow.run, Scene.next, Stores.serve, hx, hy]
  cases o.fate n with
  | served => exact .done (hQ _ _ ⟨rfl, hafter⟩ rfl rfl)
  | lost error carriedOut =>
    have hthins : ∀ took : Bool, Stores.Thins o (n + 1)
        (if took then ⟨users, a⟩ else ⟨users, tokens⟩)
        (if took then ⟨users', b⟩ else ⟨users', tokens'⟩) := by
      intro took
      split_ifs
      exacts [hafter, hstay]
    cases error with
    | none => exact .failed rfl ⟨rfl, hthins _⟩
    | some e => exact .failed rfl ⟨rfl, hthins _⟩

section

variable {E : AuthError → AuthError → Prop} (hE : ∀ e, E e e) (h : s.Thins o s')
include hE h

theorem matches_users {c : UserCall} {Q : c.Answer → c.Answer → Scene → Scene → Prop}
    (hQ : ∀ a t t', t.Thins o t' → t.tokens = s.tokens → t'.tokens = s'.tokens → Q a a t t') :
    (users cfg c).Matches o o (Scene.Thins o) E Q (users cfg c) s s' := by
  refine matches_mapFailure ?_ (matches_tryUsers h hQ)
  rintro e _ rfl
  exact hE _

theorem matches_tokens {c : TokenCall} {x y : c.Answer} {a b : TokenStore}
    {Q : c.Answer → c.Answer → Scene → Scene → Prop}
    (hx : s.tokens.perform c = (.ok x, a)) (hy : s'.tokens.perform c = (.ok y, b))
    (hafter : Stores.Thins o (s.moment + 1) ⟨s.users, a⟩ ⟨s'.users, b⟩)
    (hQ : ∀ t t', t.Thins o t' → t.tokens = a → t'.tokens = b → Q x y t t') :
    (tokens cfg c).Matches o o (Scene.Thins o) E Q (tokens cfg c) s s' := by
  refine matches_mapFailure ?_ (matches_tryTokens h hx hy hafter hQ)
  rintro e _ rfl
  exact hE _

theorem matches_blacklist {secret : String} {Q : Unit → Unit → Scene → Scene → Prop}
    (hQ : ∀ t t', t.Thins o t' → Q () () t t') :
    (tokens cfg (.blacklist secret)).Matches o o (Scene.Thins o) E Q
      (tokens cfg (.blacklist secret)) s s' :=
  matches_tokens (c := .blacklist secret) hE h rfl rfl
    ((h.stores.later (Nat.le_succ _)).blacklist secret) fun t t' ht _ _ => hQ t t' ht

theorem matches_draw {Q : String → String → Scene → Scene → Prop}
    (hQ : ∀ x t t', o.reply s.moment (.draw OpaqueToken.standardBytes) = .ok x → t.Thins o t' →
      t.moment = s.moment + 1 → t.tokens = s.tokens → t'.tokens = s'.tokens → Q x x t t') :
    draw.Matches o o (Scene.Thins o) E Q draw s s' := by
  obtain ⟨d, n, minted, readings⟩ := s
  obtain ⟨d', n', minted', readings'⟩ := s'
  obtain ⟨rfl, hd⟩ := h
  have hstay := hd.later (Nat.le_succ n)
  unfold draw Matches
  simp only [Flow.run, Scene.next, Stores.serve]
  cases hr : o.reply n (.draw OpaqueToken.standardBytes) with
  | error e => exact .failed (hE e) ⟨rfl, hstay⟩
  | ok x => exact .done (hQ x _ _ hr ⟨rfl, hstay⟩ rfl rfl rfl)

/-- A token is minted in both runs, since its texts are new to both stores. -/
theorem matches_storeToken (ho : o.Unrepeating) {u : User} {kind : TokenKind} {seconds : Nat}
    {now : Instant} {Q : Token → Token → Scene → Scene → Prop}
    (hQ : ∀ a t t', t.Thins o t' → Q a a t t') :
    (storeToken cfg u kind seconds now).Matches o o (Scene.Thins o) E Q
      (storeToken cfg u kind seconds now) s s' := by
  refine matches_bind (matches_draw hE h fun id t t' hid ht hn htokens htokens' => ?_)
  refine matches_bind (matches_draw hE ht fun secret v v' hsecret hv hm hvtokens hvtokens' => ?_)
  cases he : now.addSeconds? seconds with
  | none => exact matches_crash hv
  | some expiry =>
    have hsame : v'.tokens = s'.tokens := hvtokens'.trans htokens'
    have hnew : ∀ w ∈ v'.tokens.records, w.secret ≠ secret ∧ w.id ≠ id := by
      intro w hw
      have hw' : w ∈ s'.tokens.records := hsame ▸ hw
      exact ⟨(ht.stores.spared w (hvtokens' ▸ hw) _ _ _ le_rfl hsecret).2,
        (h.stores.spared w hw' _ _ _ le_rfl hid).1⟩
    have hnew' : ∀ w ∈ v.tokens.records, w.secret ≠ secret ∧ w.id ≠ id := fun w hw =>
      hnew w (hv.stores.kept.subset hw)
    refine matches_bind (matches_tokens hE hv
      (TokenStore.perform_create (TokenStore.create_new hnew'))
      (TokenStore.perform_create (TokenStore.create_new hnew)) ?_ fun w w' hw _ _ => ?_)
    · refine (hv.stores.later (Nat.le_succ _)).append (fun w hw => (hnew w hw).1) ?_
      -- What is drawn later is neither of the two texts, since each was drawn before.
      intro k bytes x hk hx
      constructor
      · rintro rfl
        have := ho _ _ _ _ _ hx hid
        omega
      · rintro rfl
        have := ho _ _ _ _ _ hx hsecret
        omega
    · exact matches_done (hQ _ _ _ hw)

theorem matches_sendVerification (ho : o.Unrepeating) {u : User} {now : Instant}
    {Q : Unit → Unit → Scene → Scene → Prop} (hQ : ∀ t t', t.Thins o t' → Q () () t t') :
    (sendVerification cfg u now).Matches o o (Scene.Thins o) E Q (sendVerification cfg u now)
      s s' := by
  refine matches_bind (matches_storeToken hE h ho fun a t t' ht => ?_)
  refine matches_apart_bind ht hE (apart_deliver _ _) fun _ t t' ht _ _ => ?_
  exact matches_apart ht hE apart_log fun _ t t' ht _ _ => hQ t t' ht

theorem matches_revoke {t : Token}
    (hsame : s.tokens.findBySecret t.secret = s'.tokens.findBySecret t.secret)
    {Q : Unit → Unit → Scene → Scene → Prop} (hQ : ∀ t t', t.Thins o t' → Q () () t t') :
    (revoke cfg t).Matches o o (Scene.Thins o) E Q (revoke cfg t) s s' := by
  have hactive : s.tokens.isActive t.secret = s'.tokens.isActive t.secret := by
    rw [TokenStore.isActive, TokenStore.isActive, hsame]
  have hstay := h.stores.later (Nat.le_succ s.moment)
  cases ha : s'.tokens.isActive t.secret with
  | true =>
    refine matches_bind (matches_tokens (c := .revokeIfActive t.secret) hE h
      (x := true) (y := true) ?_ ?_ (hstay.blacklist t.secret) fun t t' ht _ _ => ?_)
    · simp [TokenStore.perform, hactive, ha]
    · simp [TokenStore.perform, ha]
    · exact matches_done (hQ t t' ht)
  | false =>
    refine matches_bind (matches_tokens (c := .revokeIfActive t.secret) hE h
      (x := false) (y := false) (a := s.tokens) (b := s'.tokens) ?_ ?_ hstay fun t t' ht _ _ => ?_)
    · simp [TokenStore.perform, hactive, ha]
    · simp [TokenStore.perform, ha]
    · exact matches_fail (hE _) ht

theorem matches_findAccount {email : String}
    {Q : Option User → Option User → Scene → Scene → Prop}
    (hQ : ∀ a t t', t.Thins o t' → Q a a t t') :
    (findAccount cfg email).Matches o o (Scene.Thins o) E Q (findAccount cfg email) s s' := by
  unfold findAccount
  cases EmailAddress.ofText email with
  | error e => exact matches_done (hQ _ _ _ h)
  | ok address =>
    exact matches_users (c := .findByEmail address) hE h fun a t t' ht _ _ => hQ a t t' ht

theorem matches_ensureCurrent {u : User} {t : Token} {Q : Unit → Unit → Scene → Scene → Prop}
    (hQ : ∀ t t', t.Thins o t' → Q () () t t') :
    (ensureCurrent cfg u t).Matches o o (Scene.Thins o) E Q (ensureCurrent cfg u t) s s' := by
  refine matches_bind (matches_users (c := .findById u.id) hE h fun v? t t' ht _ _ => ?_)
  split_ifs
  · exact matches_done (hQ _ _ ht)
  · refine matches_bind (matches_blacklist hE ht fun t t' ht => ?_)
    refine matches_apart_bind ht hE apart_log fun _ t t' ht _ _ => ?_
    exact matches_fail (hE _) ht

theorem matches_markVerified {u : User} {now : Instant} {Q : User → User → Scene → Scene → Prop}
    (hQ : ∀ a t t', t.Thins o t' → Q a a t t') :
    (markVerified cfg u now).Matches o o (Scene.Thins o) E Q (markVerified cfg u now) s s' := by
  unfold markVerified
  split_ifs
  · exact matches_done (hQ _ _ _ h)
  · refine matches_mapFailure ?_
      (matches_tryUsers (c := .update _) h fun a t t' ht _ _ => hQ a t t' ht)
    rintro e _ rfl
    exact hE _

end

/-- A token that is expired in one store and gone from the other is turned away in both runs. -/
theorem matches_vanished (h : s.Thins o s') {kind : TokenKind} {a : Token} {time : Instant}
    (he : a.isExpired time = true) {f f' : Token → Flow AuthError α}
    {Q : α → α → Scene → Scene → Prop} :
    (ofOption .invalidToken (Option.filter (·.kind == kind) none) >>= f).Matches o o (Scene.Thins o)
      AuthError.Blurs Q
      (ofOption .invalidToken (Option.filter (·.kind == kind) (some a)) >>= fun b =>
        checkAlive b time >>= fun _ => f' b) s s' := by
  by_cases hk : a.kind = kind
  · simp only [Option.filter_none, Option.filter_some, hk, beq_self_eq_true, if_true, ofOption,
      bind_fail, bind_done, checkAlive, he]
    exact matches_fail (.inr ⟨rfl, rfl⟩) h
  · have hk : (a.kind == kind) = false := beq_eq_false_iff_ne.2 hk
    simp only [Option.filter_none, Option.filter_some, hk, Bool.false_eq_true, if_false, ofOption,
      bind_fail]
    exact matches_fail (.inl rfl) h

/-- A secret is looked up and looked over. If it is that of a token in one store alone, then both
    runs end there: the token is not found in the one, and is expired in the other. -/
theorem matches_presented (h : s.Thins o s') {kind : TokenKind} {secret : String}
    {f : Instant → Token → Flow AuthError α} {Q : α → α → Scene → Scene → Prop}
    (hQ : ∀ time a t t', t.Thins o t' → a.secret = secret →
      t.tokens.findBySecret secret = t'.tokens.findBySecret secret →
      (f time a).Matches o o (Scene.Thins o) AuthError.Blurs Q (f time a) t t') :
    (now >>= fun time => findToken cfg kind secret >>= fun a =>
      checkAlive a time >>= fun _ => f time a).Matches o o (Scene.Thins o) AuthError.Blurs Q
    (now >>= fun time => findToken cfg kind secret >>= fun a =>
      checkAlive a time >>= fun _ => f time a) s s' := by
  have hE : ∀ e, AuthError.Blurs e e := fun e => .inl rfl
  obtain ⟨d, n, minted, readings⟩ := s
  obtain ⟨d', n', minted', readings'⟩ := s'
  obtain ⟨rfl, hd⟩ := h
  have ht : Scene.Thins o ⟨d, n + 1, minted, o.reply n .now :: readings⟩
      ⟨d', n + 1, minted', o.reply n .now :: readings'⟩ := ⟨rfl, hd.later (Nat.le_succ n)⟩
  refine matches_bind (.done ?_)
  rw [findToken, bind_assoc]
  refine matches_bind (matches_tokens (c := .findBySecret secret) hE ht rfl rfl
    (ht.stores.later (Nat.le_succ _)) fun t t' ht htokens htokens' => ?_)
  dsimp only at htokens htokens' ⊢
  rcases hd.lookup secret with hsame | ⟨a, hnone, hsome, hpast⟩
  · rw [hsame]
    refine matches_bind (matches_ofOption (hE _) ht fun a ha => ?_)
    obtain ⟨ha, -⟩ := Option.filter_eq_some_iff.1 ha
    refine matches_apart_bind ht hE (apart_checkAlive _ _) fun _ u u' hu htu htu' => ?_
    refine hQ _ _ _ _ hu (TokenStore.findBySecret_eq ha).2 ?_
    rw [htu, htu', htokens, htokens', hsame]
  · have hexpired : a.isExpired (o.reply n .now) = true :=
      decide_eq_true (Instant.le_of_lt (hpast n le_rfl))
    rw [hnone, hsome]
    exact matches_vanished ht hexpired

/-! ## Operations -/

section

variable (ho : o.Unrepeating) (h : s.Thins o s')
include ho h

theorem register_thins (form : Registration.Form) :
    (register cfg form).Matches o o (Scene.Thins o) Eq (Scene.Alike o) (register cfg form)
      s s' := by
  have hE : ∀ e : AuthError, e = e := fun _ => rfl
  refine matches_apart_bind h hE (apart_ofExcept _) fun valid t t' ht _ _ => ?_
  refine matches_bind (matches_users (c := .existsByEmail _) hE ht fun taken t t' ht _ _ => ?_)
  split_ifs
  · exact matches_fail rfl ht
  refine matches_apart_bind ht hE (apart_hash _) fun digest t t' ht _ _ => ?_
  refine matches_apart_bind ht hE apart_now fun now t t' ht _ _ => ?_
  refine matches_apart_bind ht hE apart_draw fun id t t' ht _ _ => ?_
  refine matches_bind (matches_mapFailure (fun _ _ he => by rw [he])
    (matches_tryUsers (c := .create _) ht fun u t t' ht _ _ => ?_))
  refine matches_apart_bind ht hE apart_log fun _ t t' ht _ _ => ?_
  refine matches_apart_bind ht hE (apart_deliver _ _) fun _ t t' ht _ _ => ?_
  refine matches_bind (matches_attempt (matches_sendVerification hE ht ho fun t t' ht => ?_) ?_)
  · exact matches_done ⟨rfl, ht⟩
  · rintro e _ t t' rfl ht
    exact matches_apart ht hE (apart_log.bind fun _ => .done) fun a t t' ht _ _ => ⟨rfl, ht⟩

theorem login_thins (email password : String) :
    (login cfg email password).Matches o o (Scene.Thins o) Eq (Scene.Alike o)
      (login cfg email password) s s' := by
  have hE : ∀ e : AuthError, e = e := fun _ => rfl
  refine matches_bind (matches_findAccount hE h fun u? t t' ht => ?_)
  cases u? with
  | none =>
    refine matches_apart_bind ht hE (apart_verify _ _) fun _ t t' ht _ _ => ?_
    refine matches_apart_bind ht hE apart_log fun _ t t' ht _ _ => ?_
    exact matches_fail rfl ht
  | some u =>
    refine matches_apart_bind ht hE (apart_verify _ _) fun good t t' ht _ _ => ?_
    split_ifs
    · refine matches_apart_bind ht hE apart_now fun now t t' ht _ _ => ?_
      refine matches_apart_bind ht hE (apart_issue _ _) fun access t t' ht _ _ => ?_
      refine matches_bind (matches_storeToken hE ht ho fun token t t' ht => ?_)
      refine matches_apart_bind ht hE apart_log fun _ t t' ht _ _ => ?_
      exact matches_done ⟨rfl, ht⟩
    · refine matches_apart_bind ht hE apart_log fun _ t t' ht _ _ => ?_
      exact matches_fail rfl ht
    · refine matches_apart_bind ht hE apart_log fun _ t t' ht _ _ => ?_
      exact matches_fail rfl ht

omit ho in
theorem logout_thins (secret : String) :
    (logout cfg secret).Matches o o (Scene.Thins o) Eq (Scene.Alike o) (logout cfg secret)
      s s' := by
  have hE : ∀ e : AuthError, e = e := fun _ => rfl
  refine matches_bind (matches_blacklist hE h fun t t' ht => ?_)
  exact matches_apart ht hE apart_log fun _ t t' ht _ _ => ⟨rfl, ht⟩

theorem refresh_thins (secret : String) :
    (refresh cfg secret).Matches o o (Scene.Thins o) AuthError.Blurs (Scene.Alike o)
      (refresh cfg secret) s s' := by
  have hE : ∀ e, AuthError.Blurs e e := fun e => .inl rfl
  refine matches_presented h fun now token t t' ht hsecret hfound => ?_
  refine matches_bind (matches_users (c := .findById _) hE ht fun u? v v' hv hvt hvt' => ?_)
  refine matches_bind (matches_ofOption (hE _) hv fun u _ => ?_)
  split_ifs
  · exact matches_fail (hE _) hv
  · refine matches_apart_bind hv hE apart_log fun _ t t' ht _ _ => ?_
    exact matches_fail (hE _) ht
  · refine matches_apart_bind hv hE (apart_issue _ _) fun access w w' hw hwt hwt' => ?_
    -- Nothing was written since the token was found, so it is still the same in both stores.
    refine matches_bind (matches_revoke hE hw ?_ fun t t' ht => ?_)
    · rw [hwt, hwt', hvt, hvt', hsecret, hfound]
    refine matches_bind (matches_storeToken hE ht ho fun successor t t' ht => ?_)
    refine matches_bind (matches_ensureCurrent hE ht fun t t' ht => ?_)
    refine matches_apart_bind ht hE apart_log fun _ t t' ht _ _ => ?_
    exact matches_done ⟨rfl, ht⟩
  · refine matches_apart_bind hv hE (apart_issue _ _) fun access t t' ht _ _ => ?_
    exact matches_done ⟨rfl, ht⟩

omit ho in
theorem validate_thins (token : String) :
    (validate token).Matches o o (Scene.Thins o) Eq (Scene.Alike o) (validate token) s s' :=
  matches_apart h (fun _ => rfl) (apart_validate token) fun _ _ _ ht _ _ => ⟨rfl, ht⟩

omit ho in
theorem changePassword_thins (id : UserId) (old new : String) :
    (changePassword cfg id old new).Matches o o (Scene.Thins o) Eq (Scene.Alike o)
      (changePassword cfg id old new) s s' := by
  have hE : ∀ e : AuthError, e = e := fun _ => rfl
  refine matches_bind (matches_users (c := .findById id) hE h fun u? t t' ht _ _ => ?_)
  refine matches_bind (matches_ofOption rfl ht fun u _ => ?_)
  refine matches_apart_bind ht hE (apart_verify _ _) fun good t t' ht _ _ => ?_
  split_ifs
  · cases Password.weakness? new with
    | some w => exact matches_fail rfl ht
    | none =>
      refine matches_apart_bind ht hE (apart_hash _) fun digest t t' ht _ _ => ?_
      refine matches_apart_bind ht hE (apart_nextVersion _) fun version t t' ht _ _ => ?_
      refine matches_apart_bind ht hE apart_now fun now t t' ht _ _ => ?_
      refine matches_bind (matches_mapFailure (fun _ _ he => by rw [he])
        (matches_tryUsers (c := .update _) ht fun stored t t' ht _ _ => ?_))
      -- The numbers of tokens that are removed may differ; they go to the log alone.
      refine matches_bind (matches_tokens (c := .deleteAllForUser stored.id) hE ht rfl rfl
        ((ht.stores.later (Nat.le_succ _)).dropAll _) fun t t' ht _ _ => ?_)
      exact .done ⟨rfl, congrArg (· + 1) ht.moment, ht.stores.later (Nat.le_succ _)⟩
  · exact matches_fail rfl ht

omit ho in
theorem verifyEmail_thins (secret : String) :
    (verifyEmail cfg secret).Matches o o (Scene.Thins o) AuthError.Blurs (Scene.Alike o)
      (verifyEmail cfg secret) s s' := by
  have hE : ∀ e, AuthError.Blurs e e := fun e => .inl rfl
  refine matches_presented h fun now token t t' ht hsecret hfound => ?_
  refine matches_bind (matches_revoke hE ht (by rw [hsecret, hfound]) fun t t' ht => ?_)
  refine matches_bind (matches_users (c := .findById _) hE ht fun u? t t' ht _ _ => ?_)
  refine matches_bind (matches_ofOption (hE _) ht fun u _ => ?_)
  refine matches_bind (matches_markVerified hE ht fun u t t' ht => ?_)
  refine matches_apart_bind ht hE apart_log fun _ t t' ht _ _ => ?_
  exact matches_done ⟨rfl, ht⟩

theorem resendVerification_thins (email : String) :
    (resendVerification cfg email).Matches o o (Scene.Thins o) Eq (Scene.Alike o)
      (resendVerification cfg email) s s' := by
  have hE : ∀ e : AuthError, e = e := fun _ => rfl
  unfold resendVerification
  cases EmailAddress.ofText email with
  | error e => exact matches_fail rfl h
  | ok address =>
    refine matches_bind (matches_users (c := .findByEmail address) hE h fun u? t t' ht _ _ => ?_)
    cases u?.filter isPending with
    | none => exact matches_apart ht hE apart_log fun _ t t' ht _ _ => ⟨rfl, ht⟩
    | some u =>
      refine matches_apart_bind ht hE apart_now fun now t t' ht _ _ => ?_
      exact matches_sendVerification hE ht ho fun t t' ht => ⟨rfl, ht⟩

end

end Service

/-! ## Requests -/

namespace Http

open Gatehouse.Flow Gatehouse.Service

variable {o : Surroundings} {cfg : Settings} {s s' : Scene} {α : Type}

/-- A flow is answered alike in both scenes, with the same response. -/
def Thins (o : Surroundings) (m m' : Flow Empty Response) (s s' : Scene) : Prop :=
  m.Matches o o (Scene.Thins o) Eq (Scene.Alike o) m' s s'

theorem thins_apart (h : s.Thins o s') {m : Flow Empty Response} (hm : m.Apart) :
    Thins o m m s s' :=
  matches_apart h (fun _ => rfl) hm fun _ _ _ ht _ _ => ⟨rfl, ht⟩

theorem apart_refuse (e : AuthError) : (refuse e).Apart := by
  unfold refuse
  cases Refusal.event? e with
  | none => exact .done
  | some event => exact apart_log.bind fun _ => .done

theorem apart_refuseVerification (e : AuthError) : (refuseVerification e).Apart := by
  unfold refuseVerification
  split
  · exact apart_log.bind fun _ => .done
  · exact apart_log.bind fun _ => .done
  · exact apart_log.bind fun _ => .done
  · exact apart_refuse e

/-- An unknown token and an expired one are refused with the same response. -/
theorem thins_refuse {e e' : AuthError} (he : e.Blurs e') (h : s.Thins o s') :
    Thins o (refuse e) (refuse e') s s' := by
  rcases he with rfl | ⟨rfl, rfl⟩
  · exact thins_apart h (apart_refuse e)
  · exact .done ⟨rfl, congrArg (· + 1) h.moment, h.stores.later (Nat.le_succ _)⟩

theorem thins_refuseVerification {e e' : AuthError} (he : e.Blurs e') (h : s.Thins o s') :
    Thins o (refuseVerification e) (refuseVerification e') s s' := by
  rcases he with rfl | ⟨rfl, rfl⟩
  · exact thins_apart h (apart_refuseVerification e)
  · exact .done ⟨rfl, congrArg (· + 1) h.moment, h.stores.later (Nat.le_succ _)⟩

theorem thins_respondWith {E : AuthError → AuthError → Prop} {succeed : α → Response}
    {refuse : AuthError → Flow Empty Response} {operation : Flow AuthError α}
    (hm : operation.Matches o o (Scene.Thins o) E (Scene.Alike o) operation s s')
    (hr : ∀ e e' t t', E e e' → t.Thins o t' → Thins o (refuse e) (refuse e') t t') :
    Thins o (respondWith refuse succeed operation) (respondWith refuse succeed operation) s s' := by
  refine matches_bind (matches_attempt (hm.mono ?_) hr)
  rintro a _ t t' ⟨rfl, ht⟩
  exact matches_done ⟨rfl, ht⟩

/-- The failures of most operations are the same. -/
theorem thins_operation {succeed : α → Response} {operation : Flow AuthError α}
    (hm : operation.Matches o o (Scene.Thins o) Eq (Scene.Alike o) operation s s') :
    Thins o (respondWith refuse succeed operation) (respondWith refuse succeed operation) s s' :=
  thins_respondWith hm fun _ _ _ _ he ht => thins_refuse (.inl he) ht

theorem thins_withBody (h : s.Thins o s') {read : Json.Reader α} {r : Request}
    {f : α → Flow Empty Response} (hf : ∀ a, Thins o (f a) (f a) s s') :
    Thins o (withBody read r f) (withBody read r f) s s' := by
  unfold withBody
  cases readBody read r with
  | ok a => exact hf a
  | error e => exact matches_done ⟨rfl, h⟩

theorem thins_withinBudget (h : s.Thins o s') {r : Request} {next : Flow Empty Response}
    (hn : ∀ t t', t.Thins o t' → Thins o next next t t') :
    Thins o (withinBudget r next) (withinBudget r next) s s' := by
  refine matches_apart_bind (m := .request (.permit (clientKey r.headers r.peer))) h (fun _ => rfl)
    (.ask trivial fun _ => .done) fun permitted t t' ht _ _ => ?_
  cases permitted with
  | true => exact hn t t' ht
  | false => exact thins_apart ht (apart_log.bind fun _ => .done)

theorem thins_authenticated (h : s.Thins o s') {r : Request}
    {next : Jwt.Identity → Flow Empty Response}
    (hn : ∀ identity t t', t.Thins o t' → Thins o (next identity) (next identity) t t') :
    Thins o (authenticated r next) (authenticated r next) s s' := by
  unfold authenticated
  cases bearerToken r.headers with
  | none => exact matches_done ⟨rfl, h⟩
  | some token =>
    refine matches_apart_bind h (fun _ => rfl) (apart_validate token).attempt
      fun result t t' ht _ _ => ?_
    cases result with
    | ok identity => exact hn identity t t' ht
    | error e => exact thins_refuse (.inl rfl) ht

theorem thins_guarded (ho : o.Unrepeating) (h : s.Thins o s') (r : Request) (route : Route) :
    Thins o (guarded cfg r route) (guarded cfg r route) s s' := by
  have hmethod : ∀ {next : Flow Empty Response} {t t' : Scene}, t.Thins o t' →
      Thins o next next t t' →
      Thins o (if route.accepts r.method then next else .done (emptyResponse 405))
        (if route.accepts r.method then next else .done (emptyResponse 405)) t t' := by
    intro next t t' ht hn
    split_ifs
    · exact hn
    · exact matches_done ⟨rfl, ht⟩
  cases route with
  | register =>
    exact thins_withinBudget h fun t t' ht => hmethod ht <|
      thins_withBody ht fun form => thins_operation (register_thins ho ht form)
  | login =>
    exact thins_withinBudget h fun t t' ht => hmethod ht <|
      thins_withBody ht fun entry => thins_operation (login_thins ho ht entry.1 entry.2)
  | resendVerification =>
    exact thins_withinBudget h fun t t' ht => hmethod ht <|
      thins_withBody ht fun email => thins_operation (resendVerification_thins ho ht email)
  | refresh =>
    exact hmethod h <| thins_withBody h fun secret =>
      thins_respondWith (refresh_thins ho h secret) fun _ _ _ _ => thins_refuse
  | logout =>
    refine hmethod h ?_
    unfold logout
    cases logoutSecret? r with
    | none => exact matches_done ⟨rfl, h⟩
    | some secret => exact thins_operation (logout_thins h secret)
  | verifyEmail =>
    exact hmethod h <| thins_withBody h fun secret =>
      thins_respondWith (verifyEmail_thins h secret) fun _ _ _ _ => thins_refuseVerification
  | password =>
    exact thins_authenticated h fun caller t t' ht => hmethod ht <|
      thins_withBody ht fun entry => thins_operation (changePassword_thins ht _ entry.1 entry.2)
  | me =>
    exact thins_authenticated h fun caller t t' ht => hmethod ht (matches_done ⟨rfl, ht⟩)

theorem thins_routed (ho : o.Unrepeating) (h : s.Thins o s') (r : Request)
    (route : Option Route) : Thins o (routed cfg r route) (routed cfg r route) s s' := by
  cases route with
  | none => exact matches_done ⟨rfl, h⟩
  | some route =>
    refine matches_bind ((thins_guarded ho h r route).mono ?_)
    rintro response _ t t' ⟨rfl, ht⟩
    exact matches_done ⟨rfl, ht⟩

/-- A request is answered with the same response over stores that differ in expired tokens. -/
theorem thins_respond (ho : o.Unrepeating) (h : s.Thins o s') (r : Request) :
    Thins o (respond cfg r) (respond cfg r) s s' := by
  unfold respond
  dsimp only
  split_ifs
  · exact matches_done ⟨rfl, h⟩
  refine matches_apart_bind h (fun _ => rfl) apart_log fun _ t t' ht _ _ => ?_
  refine matches_bind ((thins_routed ho ht r _).mono ?_)
  rintro response _ t t' ⟨rfl, ht⟩
  exact thins_apart ht (apart_log.bind fun _ => .done)

end Http

/-! ## Runs -/

/-- What is done at the service from outside: an operation is called, or a request is sent. -/
inductive Act
  | call (c : Call)
  | request (r : Http.Request)

namespace Act

/-- What an act comes to. -/
abbrev Value : Act → Type
  | call c => c.Value
  | request _ => Http.Response

/-- How an act fails; a request is always answered. -/
abbrev Failure : Act → Type
  | call c => c.Failure
  | request _ => Empty

/-- What is done for an act. -/
def flow (cfg : Settings) : (a : Act) → Flow a.Failure a.Value
  | call c => c.flow cfg
  | request r => Http.respond cfg r

/-- The act is a sweep. -/
def sweeps : Act → Bool
  | call (.sweep _) => true
  | _ => false

end Act

/-- An act of a client, and how it was answered. -/
structure Answer where
  act : Act
  ending : Ending act.Failure act.Value

namespace Answer

/-- The response to a request. -/
def response? : Answer → Option Http.Response
  | ⟨.request _, .done p⟩ => some p
  | _ => none

/-- Why a token was refused. -/
def refusal? : Answer → Option AuthError
  | ⟨.call (.refresh _), .failed e⟩ => some e
  | ⟨.call (.verifyEmail _), .failed e⟩ => some e
  | _ => none

/-- The answers are the same, or a token is unknown in the one and expired in the other. -/
inductive Alike : Answer → Answer → Prop
  | same {x} : Alike x x
  | refresh {secret} : Alike ⟨.call (.refresh secret), .failed .invalidToken⟩
      ⟨.call (.refresh secret), .failed .tokenExpired⟩
  | verifyEmail {secret} : Alike ⟨.call (.verifyEmail secret), .failed .invalidToken⟩
      ⟨.call (.verifyEmail secret), .failed .tokenExpired⟩

/-- Where answers are alike, there is no telling the responses apart. -/
theorem responses_eq {xs ys : List Answer} (h : List.Forall₂ Alike xs ys) :
    xs.filterMap response? = ys.filterMap response? := by
  induction h with
  | nil => rfl
  | @cons x y _ _ hx _ ih =>
    have hsame : x.response? = y.response? := by cases hx <;> rfl
    rw [List.filterMap_cons, List.filterMap_cons, hsame, ih]

end Answer

/-- Do some acts, one after another, and note the answers of those that are no sweeps. Either the
    sweeps are carried out, or their moments pass without them. -/
def Scene.attend (cfg : Settings) (o : Surroundings) (sweeping : Bool) :
    List Act → Scene → List Answer
  | [], _ => []
  | a :: acts, s =>
    let (ending, after) := (a.flow cfg).run (Scene.next o) s
    if a.sweeps then
      attend cfg o sweeping acts (if sweeping then after else { s with moment := after.moment })
    else ⟨a, ending⟩ :: attend cfg o sweeping acts after

section

variable {cfg : Settings} {o : Surroundings} {s s' : Scene}

/-- A sweep removes from the first store what is expired for good, or nothing. -/
theorem Scene.Thins.sweepOnce (h : s.Thins o s') (ho : o.Steady) (limit : Span) :
    Scene.Thins o ((Gatehouse.sweepOnce limit).run (Scene.next o) s).2
      { s' with moment := ((Gatehouse.sweepOnce limit).run (Scene.next o) s').2.moment } := by
  obtain ⟨d, n, minted, readings⟩ := s
  obtain ⟨d', n', minted', readings'⟩ := s'
  obtain ⟨rfl, hd⟩ := h
  have hstay := hd.later (Nat.le_add_right n 2)
  have hswept := (hd.sweep ho).later (Nat.le_add_right n 2)
  cases hf : o.fate (n + 1) with
  | served =>
    simp only [Gatehouse.sweepOnce, Flow.run, Scene.next, Stores.serve, TokenStore.perform, hf,
      Fate.settle]
    exact ⟨rfl, hswept⟩
  | lost error carriedOut =>
    simp only [Gatehouse.sweepOnce, Flow.run, Scene.next, Stores.serve, TokenStore.perform, hf,
      Fate.settle]
    cases error <;> cases carriedOut
    · exact ⟨rfl, hstay⟩
    · exact ⟨rfl, hswept⟩
    · exact ⟨rfl, hstay⟩
    · exact ⟨rfl, hswept⟩

/-- The flow of a client's act ends alike, up to failures that are alike as answers. -/
theorem Act.matches_flow (cfg : Settings) (ho : o.Unrepeating) (h : s.Thins o s') {a : Act}
    (ha : a.sweeps = false) : ∃ E : a.Failure → a.Failure → Prop,
      (a.flow cfg).Matches o o (Scene.Thins o) E (Scene.Alike o) (a.flow cfg) s s' ∧
        ∀ e e', E e e' → Answer.Alike ⟨a, .failed e⟩ ⟨a, .failed e'⟩ := by
  have hsame : ∀ {a : Act} (e e' : a.Failure), e = e' →
      Answer.Alike ⟨a, .failed e⟩ ⟨a, .failed e'⟩ := by
    rintro a e _ rfl
    exact .same
  unfold Act.flow
  cases a with
  | request r => exact ⟨Eq, Http.thins_respond ho h r, hsame⟩
  | call c =>
    unfold Call.flow
    cases c with
    | register form => exact ⟨Eq, Service.register_thins ho h form, hsame⟩
    | login email password => exact ⟨Eq, Service.login_thins ho h email password, hsame⟩
    | logout secret => exact ⟨Eq, Service.logout_thins h secret, hsame⟩
    | refresh secret =>
      refine ⟨AuthError.Blurs, Service.refresh_thins ho h secret, ?_⟩
      rintro e _ (rfl | ⟨rfl, rfl⟩)
      · exact .same
      · exact .refresh
    | validate token => exact ⟨Eq, Service.validate_thins h token, hsame⟩
    | changePassword id old new => exact ⟨Eq, Service.changePassword_thins h id old new, hsame⟩
    | verifyEmail secret =>
      refine ⟨AuthError.Blurs, Service.verifyEmail_thins h secret, ?_⟩
      rintro e _ (rfl | ⟨rfl, rfl⟩)
      · exact .same
      · exact .verifyEmail
    | resendVerification email => exact ⟨Eq, Service.resendVerification_thins ho h email, hsame⟩
    | sweep limit => cases ha

/-- An act of a client is answered alike over stores that differ in expired tokens, and leaves such
    stores. -/
theorem Act.thins (cfg : Settings) (ho : o.Unrepeating) (h : s.Thins o s') {a : Act}
    (ha : a.sweeps = false) :
    Answer.Alike ⟨a, ((a.flow cfg).run (Scene.next o) s).1⟩
        ⟨a, ((a.flow cfg).run (Scene.next o) s').1⟩ ∧
      ((a.flow cfg).run (Scene.next o) s).2.Thins o ((a.flow cfg).run (Scene.next o) s').2 := by
  obtain ⟨E, hm, hE⟩ := Act.matches_flow cfg ho h ha
  unfold Flow.Matches at hm
  generalize (a.flow cfg).run (Scene.next o) s = r at hm ⊢
  generalize (a.flow cfg).run (Scene.next o) s' = r' at hm ⊢
  obtain ⟨e, t⟩ := r
  obtain ⟨e', t'⟩ := r'
  cases hm with
  | done h =>
    obtain ⟨rfl, ht⟩ := h
    exact ⟨.same, ht⟩
  | failed he ht => exact ⟨hE _ _ he, ht⟩
  | crashed ht => exact ⟨.same, ht⟩

/-- The answers of the two runs are alike, one by one. -/
theorem Scene.Thins.attend (cfg : Settings) (ho : o.Unrepeating) (hclock : o.Steady)
    (acts : List Act) (h : s.Thins o s') :
    List.Forall₂ Answer.Alike (Scene.attend cfg o true acts s)
      (Scene.attend cfg o false acts s') := by
  induction acts generalizing s s' with
  | nil => exact .nil
  | cons a acts ih =>
    unfold Scene.attend
    cases ha : a.sweeps with
    | false =>
      obtain ⟨halike, hafter⟩ := Act.thins cfg ho h ha
      exact .cons halike (ih hafter)
    | true =>
      obtain ⟨limit, rfl⟩ : ∃ limit, a = .call (.sweep limit) := by
        unfold Act.sweeps at ha
        split at ha
        · exact ⟨_, rfl⟩
        · cases ha
      exact ih (h.sweepOnce hclock limit)

/-- Sweeps are not seen. Acts follow one another from stores without two tokens of one secret, the
    clock does not step back, and the generator draws nothing twice and nothing that is stored.
    Then the answers are the same whether the sweeps among the acts are carried out or not, except
    that `refresh` and `verifyEmail` may call a token unknown that they would else call expired;
    the responses to requests are the same throughout. -/
theorem Scene.sweeps_unseen (cfg : Settings) (ho : o.Unrepeating) (hclock : o.Steady) {d : Stores}
    (hsecrets : (d.tokens.records.map (·.secret)).Nodup) (hspared : o.Spares 0 d.tokens)
    (acts : List Act) :
    List.Forall₂ Answer.Alike (Scene.attend cfg o true acts ⟨d, 0, [], []⟩)
        (Scene.attend cfg o false acts ⟨d, 0, [], []⟩) ∧
      (Scene.attend cfg o true acts ⟨d, 0, [], []⟩).filterMap Answer.response? =
        (Scene.attend cfg o false acts ⟨d, 0, [], []⟩).filterMap Answer.response? := by
  have hstart : Scene.Thins o ⟨d, 0, [], []⟩ ⟨d, 0, [], []⟩ := ⟨rfl, .refl hsecrets hspared⟩
  have hall := hstart.attend cfg ho hclock acts
  exact ⟨hall, Answer.responses_eq hall⟩

end

/-! ### A link that is followed too late -/

/-- The clock moves on by a third of a day with every exchange. -/
def Surroundings.ticking : Surroundings :=
  { plain with reply := fun
      | n, .now => ⟨n * 28800, 0⟩
      | n, q => plain.reply n q }

theorem Surroundings.ticking_steady : ticking.Steady := by
  intro m n hmn
  show (⟨m * 28800, 0⟩ : Instant) ≤ ⟨n * 28800, 0⟩
  rw [Instant.le_iff_not_lt, Instant.lt_iff]
  dsimp only
  omega

theorem Surroundings.ticking_unrepeating : ticking.Unrepeating :=
  fun _ _ _ _ _ hm hn => plain_calm.fresh hm hn

/-- A link is mailed, and followed only when a sweep has removed its token: by a call, and then by
    a request. -/
def tardy : List Act :=
  [.call (.register adasForm), .call (.sweep (.ofSeconds 5)), .call (.verifyEmail (unary 8)),
    .request { method := "POST", target := Http.Route.verifyEmail.path,
               headers := [⟨"content-type", "application/json"⟩], peer := none,
               body := "\x7b\"token\":\"xxxxxxxx\"\x7d".toUTF8.toList }]

theorem Scene.sweeps_unseen_tardy :
    (Scene.attend {} .ticking true tardy ⟨.empty, 0, [], []⟩).filterMap Answer.response? =
        (Scene.attend {} .ticking false tardy ⟨.empty, 0, [], []⟩).filterMap Answer.response? ∧
      (Scene.attend {} .ticking true tardy ⟨.empty, 0, [], []⟩).map Answer.refusal? =
        [none, some .invalidToken, none] ∧
      (Scene.attend {} .ticking false tardy ⟨.empty, 0, [], []⟩).map Answer.refusal? =
        [none, some .tokenExpired, none] := by
  refine ⟨?_, by decide +kernel, by decide +kernel⟩
  exact (Scene.sweeps_unseen {} Surroundings.ticking_unrepeating Surroundings.ticking_steady
    (d := .empty) List.nodup_nil (fun t ht => absurd ht List.not_mem_nil) tardy).2

end Gatehouse
