/-
  Gatehouse — what the calls do.

  `Call.May` says which questions a call may put to the stores after the exchanges that it
  has behind it, as far as they write records or mint and revoke tokens; `Call.Yields` says
  what is behind a result. `Call.meets` is the one statement about the text of the
  operations on which everything about runs of many calls rests:

  * a record is rewritten by a password change and by the confirmation of an address
    alone, once for a call, from the one record that it has looked up;
  * a call mints at most one token, with a secret that it has drawn, and stamps a refresh
    token with the identifier and the credential version of the one record it has looked up;
  * a token is revoked for use by its own `refresh` or `verifyEmail` alone, once for a call,
    and a result of `verifyEmail`, or of `refresh` with rotation, is behind such a use;
  * no call asks whether a client may make one more attempt.
-/
import Gatehouse.Proofs.System

namespace Gatehouse

/-! ## Views of a history -/

namespace History

/-- The records that were looked up. -/
def found (h : History) : List User := h.filterMap Exchange.found?

/-- The records that were to take the place of others. -/
def rewritten (h : History) : List User := h.filterMap Exchange.rewritten?

/-- The tokens that were to be added. -/
def minted (h : History) : List Token := h.filterMap Exchange.minted?

/-- The tokens that were looked up. -/
def presented (h : History) : List Token := h.filterMap Exchange.presented?

/-- The texts that were drawn. -/
def drawn (h : History) : List String := h.filterMap Exchange.drawn?

/-- The records that have taken the place of others, as far as the caller was told. -/
def settled (h : History) : List User := h.filterMap Exchange.settled?

/-- The secrets that were to be revoked for use, each with the answer. -/
def flipped (h : History) : List (String × Bool) := h.filterMap Exchange.flipped?

end History

/-- The token carries the identifier and the credential version of a record. -/
def Token.StampedBy (t : Token) (u : User) : Prop :=
  t.userId = u.id ∧ t.credentialVersion = u.credentialVersion

/-- The token that is minted for a user. -/
def Token.mint (u : User) (kind : TokenKind) (now expiry : Instant) (id secret : String) : Token :=
  { id, userId := u.id, secret, kind, expiresAt := expiry, revoked := false,
    credentialVersion := u.credentialVersion, createdAt := now }

/-- The record after a change of the password. -/
def User.rekeyed (u : User) (digest : String) (now : Instant) : User :=
  { u with passwordHash := digest, credentialVersion := u.credentialVersion + 1,
           updatedAt := now }

/-- The record after its address was confirmed. -/
def User.confirmed (u : User) (now : Instant) : User :=
  { u with emailVerified := true, updatedAt := now }

namespace Call

/-- The call is a change of the password. -/
def rekeys : Call → Bool
  | changePassword .. => true
  | _ => false

/-- The call is the confirmation of an address. -/
def confirms : Call → Bool
  | verifyEmail _ => true
  | _ => false

/-- The call may put a record in the place of the one with its identifier. -/
inductive Rewrites (h : History) (v : User) : Call → Prop
  | password {id old new u digest now} : h.found = [u] → u.id = id →
      v = u.rekeyed digest now → Rewrites h v (.changePassword id old new)
  | address {secret u now} : h.found = [u] → u.emailVerified = false →
      v = u.confirmed now → Rewrites h v (.verifyEmail secret)

theorem Rewrites.found {h : History} {v : User} {c : Call} (hr : c.Rewrites h v) :
    ∃ u, h.found = [u] := by
  cases hr with
  | password hf => exact ⟨_, hf⟩
  | address hf => exact ⟨_, hf⟩

/-- Of the two kinds of updates, each call makes one. -/
theorem Rewrites.kinds {h : History} {u v : User} {c : Call} (hr : c.Rewrites h v)
    (hu : h.found = [u]) :
    (c.rekeys = true ∧ c.confirms = false ∧ ∃ digest now, v = u.rekeyed digest now) ∨
    (c.rekeys = false ∧ c.confirms = true ∧ u.emailVerified = false ∧
      ∃ now, v = u.confirmed now) := by
  cases hr with
  | password hf _ hv =>
    cases hf.symm.trans hu
    exact .inl ⟨rfl, rfl, _, _, hv⟩
  | address hf hn hv =>
    cases hf.symm.trans hu
    exact .inr ⟨rfl, rfl, hn, _, hv⟩

theorem Rewrites.id_eq {h : History} {u v : User} {c : Call} (hr : c.Rewrites h v)
    (hu : h.found = [u]) : v.id = u.id := by
  rcases hr.kinds hu with ⟨-, -, _, _, rfl⟩ | ⟨-, -, -, _, rfl⟩ <;> rfl

/-- The call may add a token. -/
structure Mints (cfg : Settings) (c : Call) (h : History) (t : Token) : Prop where
  first : h.minted = []
  drawn : t.secret ∈ h.drawn
  active : t.revoked = false
  cause : (t.kind = .verification ∧
      ((∃ form, c = .register form) ∨ ∃ email, c = .resendVerification email)) ∨
    (t.kind = .refresh ∧ (∃ u, h.found = [u] ∧ t.StampedBy u) ∧
      ((∃ email password, c = .login email password) ∨
        ∃ secret, c = .refresh secret ∧ cfg.rotates ∧ h.flipped = [(secret, true)]))

/-- A rotation mints once it has revoked its own secret. -/
theorem Mints.rotation {cfg : Settings} {secret : String} {h : History} {t : Token}
    (hm : Mints cfg (.refresh secret) h t) : cfg.rotates = true ∧ h.flipped = [(secret, true)] := by
  rcases hm.cause with ⟨-, ⟨_, hc⟩ | ⟨_, hc⟩⟩ | ⟨-, -, ⟨_, _, hc⟩ | ⟨_, hc, hr, hf⟩⟩ <;> cases hc
  exact ⟨hr, hf⟩

/-- What a call may ask after some exchanges. -/
def May (cfg : Settings) (c : Call) (h : History) : Ask → Prop
  | .users _ (.findById id) => ∀ u ∈ h.found, u.id = id
  | .users _ (.findByEmail _) => h.found = []
  | .users _ (.update v) => c.Rewrites h v ∧ h.rewritten = []
  | .tokens _ (.create t) => c.Mints cfg h t
  | .tokens _ (.revokeIfActive secret) =>
    h.flipped = [] ∧ (c = .refresh secret ∨ c = .verifyEmail secret)
  | .permit _ => False
  | _ => True

/-- What is behind the result of a call. -/
def Yields (cfg : Settings) : (c : Call) → History → c.Value → Prop
  | .login _ _, h, l => ∃ t, h.minted = [t] ∧ t.kind = .refresh ∧ l.tokens.refreshSecret = t.secret
  | .refresh secret, h, p =>
    (∃ t, h.presented = [t] ∧ t.secret = secret ∧ t.kind = .refresh ∧
      ∀ x ∈ h, x.seeks → ∃ u, x.found? = some u ∧ t.StampedBy u) ∧
    if cfg.rotates then
      h.flipped = [(secret, true)] ∧ ∃ t, h.minted = [t] ∧ p.refreshSecret = t.secret
    else p.refreshSecret = secret
  | .verifyEmail secret, h, p =>
    (∃ t, h.presented = [t] ∧ t.secret = secret ∧ t.kind = .verification) ∧
    h.flipped = [(secret, true)] ∧
    ∃ u, h.found = [u] ∧ u.id = p.id ∧
      (u.emailVerified = true ∨ ∃ now, h.settled = [u.confirmed now])
  | _, _, _ => True

/-- The first look-up is for anyone. -/
theorem May.first {cfg : Settings} {c : Call} {h : History} {limit : Span} {id : UserId}
    (hf : h.found = []) : c.May cfg h (.users limit (.findById id)) := fun u hu => by
  rw [hf] at hu; cases hu

end Call

/-! ## Parts of operations -/

namespace Service

open Gatehouse.Flow

variable {ε α : Type} {Φ : History → Ask → Prop} {h : History} {cfg : Settings}

theorem meets_tryTokens {c : TokenCall} {Ψ : History → c.Answer → Prop}
    (hq : Φ h (.tokens cfg.storageLimit c))
    (ha : ∀ a, (Ask.tokens cfg.storageLimit c).Fits (some (.ok a)) →
      Ψ (h ++ [⟨.tokens cfg.storageLimit c, some (.ok a)⟩]) a) :
    Meets Φ Ψ h (tryTokens cfg c) := by
  refine .ask hq ?_
  rintro (_ | e | a) hr
  · exact .fail
  · exact .fail
  · exact .done (ha a hr)

theorem meets_tokens {c : TokenCall} {Ψ : History → c.Answer → Prop}
    (hq : Φ h (.tokens cfg.storageLimit c))
    (ha : ∀ a, (Ask.tokens cfg.storageLimit c).Fits (some (.ok a)) →
      Ψ (h ++ [⟨.tokens cfg.storageLimit c, some (.ok a)⟩]) a) :
    Meets Φ Ψ h (tokens cfg c) := meets_mapFailure (meets_tryTokens hq ha)

theorem meets_tryUsers {c : UserCall} {Ψ : History → c.Answer → Prop}
    (hq : Φ h (.users cfg.storageLimit c))
    (ha : ∀ a, (Ask.users cfg.storageLimit c).Fits (some (.ok a)) →
      Ψ (h ++ [⟨.users cfg.storageLimit c, some (.ok a)⟩]) a) :
    Meets Φ Ψ h (tryUsers cfg c) := by
  refine .ask hq ?_
  rintro (_ | e | a) hr
  · exact .fail
  · exact .fail
  · exact .done (ha a hr)

theorem meets_users {c : UserCall} {Ψ : History → c.Answer → Prop}
    (hq : Φ h (.users cfg.storageLimit c))
    (ha : ∀ a, (Ask.users cfg.storageLimit c).Fits (some (.ok a)) →
      Ψ (h ++ [⟨.users cfg.storageLimit c, some (.ok a)⟩]) a) :
    Meets Φ Ψ h (users cfg c) := meets_mapFailure (meets_tryUsers hq ha)

theorem meets_now {Ψ : History → Instant → Prop} (hq : Φ h .now)
    (ha : ∀ t, Ψ (h ++ [⟨.now, t⟩]) t) : Meets Φ Ψ h now :=
  .ask hq fun t _ => .done (ha t)

/-- The question for fresh random bytes. -/
abbrev draws : Ask := .draw OpaqueToken.standardBytes

theorem meets_draw {Ψ : History → String → Prop} (hq : Φ h draws)
    (ha : ∀ x, Ψ (h ++ [⟨draws, .ok x⟩]) x) : Meets Φ Ψ h draw :=
  .ask hq fun x _ => by
    cases x with
    | error e => exact .fail
    | ok x => exact .done (ha x)

theorem meets_hash {password : String} {Ψ : History → String → Prop} (hq : Φ h (.hash password))
    (ha : ∀ x, Ψ (h ++ [⟨.hash password, .ok x⟩]) x) : Meets Φ Ψ h (hash password) :=
  .ask hq fun x _ => by
    cases x with
    | error e => exact .fail
    | ok x => exact .done (ha x)

theorem meets_verify {password digest : String} {Ψ : History → Bool → Prop}
    (hq : Φ h (.verify password digest)) (ha : ∀ b, Ψ (h ++ [⟨.verify password digest, b⟩]) b) :
    Meets Φ Ψ h (verify password (some digest)) :=
  .ask hq fun b _ => .done (ha b)

theorem meets_issue {u : User} {t : Instant} {Ψ : History → Jwt.Issued → Prop}
    (hq : Φ h (.issue u.id u.email u.name t))
    (ha : ∀ a, Ψ (h ++ [⟨.issue u.id u.email u.name t, .ok (.ok a)⟩]) a) :
    Meets Φ Ψ h (issue u t) := by
  refine .ask hq ?_
  rintro (o | e | a) -
  · exact .crash
  · exact .fail
  · exact .done (ha a)

theorem meets_deliver {id : UserId} {m : Mail} {Ψ : History → Unit → Prop}
    (hs : Φ h (.send cfg.mailLimit m)) (hl : ∀ h e, Φ h (.log e))
    (ha : ∀ h' : History, h'.minted = h.minted → Ψ h' ()) : Meets Φ Ψ h (deliver cfg id m) := by
  refine .ask hs fun r _ => ?_
  cases mailError? cfg.mailLimit r with
  | none => exact .done (ha _ (by simp [History.minted, Exchange.minted?]))
  | some e => exact meets_log (hl _ _) (ha _ (by simp [History.minted, Exchange.minted?]))

theorem meets_storeToken {u : User} {kind : TokenKind} {seconds : Nat} {now : Instant}
    {Ψ : History → Token → Prop} (hd : ∀ h, Φ h draws)
    (ht : ∀ expiry id secret, now.addSeconds? seconds = some expiry →
      Φ (h ++ [⟨draws, .ok id⟩] ++ [⟨draws, .ok secret⟩])
        (.tokens cfg.storageLimit (.create (.mint u kind now expiry id secret))) ∧
      Ψ (h ++ [⟨draws, .ok id⟩] ++ [⟨draws, .ok secret⟩] ++
          [⟨.tokens cfg.storageLimit (.create (.mint u kind now expiry id secret)), some (.ok ())⟩])
        (.mint u kind now expiry id secret)) :
    Meets Φ Ψ h (storeToken cfg u kind seconds now) := by
  refine meets_bind (meets_draw (hd _) fun id => ?_)
  refine meets_bind (meets_draw (hd _) fun secret => ?_)
  cases he : now.addSeconds? seconds with
  | none => exact .crash
  | some expiry =>
    obtain ⟨hq, ha⟩ := ht expiry id secret he
    exact meets_bind (meets_tokens hq fun _ _ => .done ha)

theorem meets_findToken {kind : TokenKind} {secret : String} {Ψ : History → Token → Prop}
    (hq : Φ h (.tokens cfg.storageLimit (.findBySecret secret)))
    (ha : ∀ t : Token, t.secret = secret → t.kind = kind →
      Ψ (h ++ [⟨.tokens cfg.storageLimit (.findBySecret secret), some (.ok (some t))⟩]) t) :
    Meets Φ Ψ h (findToken cfg kind secret) := by
  refine meets_bind (meets_tokens hq fun t? ht => meets_ofOption fun t hf => ?_)
  obtain ⟨rfl, hk⟩ := Option.filter_eq_some_iff.1 hf
  exact ha t ht (by simpa using hk)

theorem meets_checkAlive {t : Token} {now : Instant} {Ψ : History → Unit → Prop}
    (ha : Ψ h ()) : Meets Φ Ψ h (checkAlive t now) := by
  unfold checkAlive
  split_ifs
  · exact .fail
  · exact .fail
  · exact .done ha

theorem meets_revoke {t : Token} {Ψ : History → Unit → Prop}
    (hq : Φ h (.tokens cfg.storageLimit (.revokeIfActive t.secret)))
    (ha : Ψ (h ++ [⟨.tokens cfg.storageLimit (.revokeIfActive t.secret), some (.ok true)⟩]) ()) :
    Meets Φ Ψ h (revoke cfg t) := by
  refine meets_bind (meets_tokens hq fun active _ => ?_)
  cases active with
  | false => exact .fail
  | true => exact .done ha

theorem meets_ensureCurrent {u : User} {t : Token} {Ψ : History → Unit → Prop}
    (hq : Φ h (.users cfg.storageLimit (.findById u.id)))
    (hb : ∀ h, Φ h (.tokens cfg.storageLimit (.blacklist t.secret)))
    (hl : ∀ h e, Φ h (.log e))
    (ha : ∀ v : User, v.id = u.id → v.credentialVersion = t.credentialVersion →
      Ψ (h ++ [⟨.users cfg.storageLimit (.findById u.id), some (.ok (some v))⟩]) ()) :
    Meets Φ Ψ h (ensureCurrent cfg u t) := by
  refine meets_bind (meets_users hq fun v? hv => ?_)
  split_ifs with hc
  · cases v? with
    | none => simp at hc
    | some v => exact .done (ha v hv (by simpa using hc))
  · exact meets_bind (meets_tokens (hb _) fun _ _ => meets_bind (meets_log (hl _ _) .fail))

theorem meets_nextVersion {version : Int} {Ψ : History → Int → Prop} (ha : Ψ h (version + 1)) :
    Meets Φ Ψ h (nextVersion version) := by
  unfold nextVersion
  split_ifs
  · exact .done ha
  · exact .crash

theorem meets_findAccount {email : String} {Ψ : History → Option User → Prop}
    (hq : ∀ email, Φ h (.users cfg.storageLimit (.findByEmail email))) (hn : Ψ h none)
    (ha : ∀ email u?, Ψ (h ++ [⟨.users cfg.storageLimit (.findByEmail email), some (.ok u?)⟩]) u?) :
    Meets Φ Ψ h (findAccount cfg email) := by
  unfold findAccount
  cases EmailAddress.ofText email with
  | error e => exact .done hn
  | ok email => exact meets_users (hq email) fun u? _ => ha email u?

theorem meets_sendVerification {c : Call} {u : User} {now : Instant}
    (hc : (∃ form, c = .register form) ∨ ∃ email, c = .resendVerification email)
    (hm : h.minted = []) :
    Meets (c.May cfg) (fun _ _ => True) h (sendVerification cfg u now) := by
  refine meets_bind (meets_storeToken (fun _ => trivial) fun expiry id secret _ => ⟨?_, ?_⟩)
  · refine ⟨?_, ?_, rfl, Or.inl ⟨rfl, hc⟩⟩
    · simpa [History.minted, Exchange.minted?] using hm
    · simp [History.drawn, Exchange.drawn?, Token.mint]
  · refine meets_bind (meets_deliver trivial (fun _ _ => trivial) fun _ _ => ?_)
    exact meets_log trivial trivial

/-! ## Operations -/

theorem register_meets (form : Registration.Form) :
    Meets (Call.May cfg (.register form)) (Call.Yields cfg (.register form)) []
      (register cfg form) := by
  refine meets_bind (meets_ofExcept fun valid _ => ?_)
  refine meets_bind (meets_users trivial fun taken _ => ?_)
  split_ifs
  · exact .fail
  refine meets_bind (meets_hash trivial fun digest => ?_)
  refine meets_bind (meets_now trivial fun now => ?_)
  refine meets_bind (meets_draw trivial fun id => ?_)
  refine meets_bind (meets_mapFailure (meets_tryUsers trivial fun u _ => ?_))
  refine meets_bind (meets_log trivial ?_)
  refine meets_bind (meets_deliver trivial (fun _ _ => trivial) fun h hm => ?_)
  refine meets_bind (meets_attempt ?_ fun h e => meets_bind (meets_log trivial (.done trivial)))
  refine Meets.mono (meets_sendVerification (Or.inl ⟨form, rfl⟩) ?_) fun _ _ _ => .done trivial
  exact hm.trans rfl

theorem login_meets (email password : String) :
    Meets (Call.May cfg (.login email password)) (Call.Yields cfg (.login email password)) []
      (login cfg email password) := by
  refine meets_bind (meets_findAccount (fun _ => rfl) ?_ fun email' u? => ?_)
  · exact meets_bind (.ask trivial fun _ _ => .done (meets_bind (meets_log trivial .fail)))
  cases u? with
  | none => exact meets_bind (.ask trivial fun _ _ => .done (meets_bind (meets_log trivial .fail)))
  | some u =>
    refine meets_bind (meets_verify trivial fun good => ?_)
    split_ifs with hg ha
    · refine meets_bind (meets_now trivial fun now => ?_)
      refine meets_bind (meets_issue trivial fun access => ?_)
      refine meets_bind (meets_storeToken (fun _ => trivial) fun expiry id secret _ => ⟨?_, ?_⟩)
      · exact ⟨rfl, by simp [History.drawn, Exchange.drawn?, Token.mint], rfl,
          Or.inr ⟨rfl, ⟨u, rfl, rfl, rfl⟩, Or.inl ⟨email, password, rfl⟩⟩⟩
      · exact meets_bind (meets_log trivial (.done ⟨_, rfl, rfl, rfl⟩))
    · exact meets_bind (meets_log trivial .fail)
    · exact meets_bind (meets_log trivial .fail)

theorem logout_meets (secret : String) :
    Meets (Call.May cfg (.logout secret)) (Call.Yields cfg (.logout secret)) []
      (logout cfg secret) := by
  refine meets_bind (meets_tokens (c := .blacklist secret) trivial fun _ _ => ?_)
  exact meets_log trivial trivial

theorem refresh_meets (secret : String) :
    Meets (Call.May cfg (.refresh secret)) (Call.Yields cfg (.refresh secret)) []
      (refresh cfg secret) := by
  refine meets_bind (meets_now trivial fun now => ?_)
  refine meets_bind (meets_findToken trivial fun t ht hk => ?_)
  refine meets_bind (meets_checkAlive ?_)
  refine meets_bind (meets_users (.first rfl) fun u? hu => ?_)
  refine meets_bind (meets_ofOption fun u hu' => ?_)
  subst hu'
  split_ifs with h1 h2 hr
  · exact .fail
  · exact meets_bind (meets_log trivial .fail)
  · have hs : t.StampedBy u := ⟨Eq.symm hu, not_not.1 h2⟩
    refine meets_bind (meets_issue trivial fun access => ?_)
    refine meets_bind (meets_revoke ⟨rfl, Or.inl (by rw [ht])⟩ ?_)
    refine meets_bind (meets_storeToken (fun _ => trivial) fun expiry id secret' _ => ⟨?_, ?_⟩)
    · refine ⟨rfl, by simp [History.drawn, Exchange.drawn?, Token.mint], rfl,
        Or.inr ⟨rfl, ⟨u, rfl, rfl, rfl⟩, Or.inr ⟨secret, rfl, hr, ?_⟩⟩⟩
      rw [← ht]; rfl
    · refine meets_bind (meets_ensureCurrent ?_ (fun _ => trivial) (fun _ _ => trivial)
        fun v hv hc => ?_)
      · simp [Call.May, History.found, Exchange.found?]
      refine meets_bind (meets_log trivial (.done ⟨⟨t, rfl, ht, hk, ?_⟩, ?_⟩))
      · have hs' : t.StampedBy v := ⟨hs.1.trans hv.symm, hs.2.trans hc.symm⟩
        simp [Exchange.seeks, Exchange.found?, hs, hs']
      · rw [if_pos hr, ← ht]
        exact ⟨rfl, _, rfl, rfl⟩
  · have hs : t.StampedBy u := ⟨Eq.symm hu, not_not.1 h2⟩
    refine meets_bind (meets_issue trivial fun access => .done ⟨⟨t, rfl, ht, hk, ?_⟩, ?_⟩)
    · simp [Exchange.seeks, Exchange.found?, hs]
    · rw [if_neg hr]; exact ht

theorem validate_meets (token : String) :
    Meets (Call.May cfg (.validate token)) (Call.Yields cfg (.validate token)) []
      (validate token) := by
  refine meets_bind (meets_now trivial fun now => ?_)
  exact .ask trivial fun r _ => meets_ofExcept fun _ _ => trivial

theorem changePassword_meets (id : UserId) (old new : String) :
    Meets (Call.May cfg (.changePassword id old new)) (Call.Yields cfg (.changePassword id old new))
      [] (changePassword cfg id old new) := by
  refine meets_bind (meets_users (.first rfl) fun u? hu => ?_)
  refine meets_bind (meets_ofOption fun u hu' => ?_)
  subst hu'
  refine meets_bind (meets_verify trivial fun good => ?_)
  split_ifs
  · split
    · exact .fail
    · refine meets_bind (meets_hash trivial fun digest => ?_)
      refine meets_bind (meets_nextVersion ?_)
      refine meets_bind (meets_now trivial fun now => ?_)
      refine meets_bind (meets_mapFailure (meets_tryUsers ?_ fun v _ => ?_))
      · exact ⟨.password rfl hu rfl, rfl⟩
      refine meets_bind (meets_tokens trivial fun _ _ => ?_)
      exact meets_log trivial trivial
  · exact .fail

theorem verifyEmail_meets (secret : String) :
    Meets (Call.May cfg (.verifyEmail secret)) (Call.Yields cfg (.verifyEmail secret)) []
      (verifyEmail cfg secret) := by
  refine meets_bind (meets_now trivial fun now => ?_)
  refine meets_bind (meets_findToken trivial fun t ht hk => ?_)
  refine meets_bind (meets_checkAlive ?_)
  refine meets_bind (meets_revoke ⟨rfl, Or.inr (by rw [ht])⟩ ?_)
  refine meets_bind (meets_users (.first rfl) fun u? hu => ?_)
  refine meets_bind (meets_ofOption fun u hu' => ?_)
  subst hu'
  refine meets_bind ?_
  unfold markVerified
  split_ifs with hv
  · refine .done (meets_bind (meets_log trivial (.done ?_)))
    refine ⟨⟨t, rfl, ht, hk⟩, ?_, u, rfl, rfl, Or.inl hv⟩
    rw [← ht]; rfl
  · refine meets_mapFailure (meets_tryUsers (c := .update (u.confirmed now)) ?_ fun w hw => ?_)
    · exact ⟨.address rfl (by simpa using hv) rfl, rfl⟩
    have hw : w = u.confirmed now := hw
    subst hw
    refine meets_bind (meets_log trivial (.done ?_))
    refine ⟨⟨t, rfl, ht, hk⟩, ?_, u, rfl, rfl, Or.inr ⟨now, rfl⟩⟩
    rw [← ht]; rfl

theorem resendVerification_meets (email : String) :
    Meets (Call.May cfg (.resendVerification email)) (Call.Yields cfg (.resendVerification email))
      [] (resendVerification cfg email) := by
  unfold resendVerification
  split
  · exact .fail
  · refine meets_bind (meets_users rfl fun u? _ => ?_)
    split
    · refine meets_bind (meets_now trivial fun now => ?_)
      exact meets_sendVerification (Or.inr ⟨email, rfl⟩) rfl
    · exact meets_log trivial trivial

theorem sweepOnce_meets (limit : Span) :
    Meets (Call.May cfg (.sweep limit)) (Call.Yields cfg (.sweep limit)) [] (sweepOnce limit) := by
  refine .ask trivial fun now _ => .ask trivial fun r _ => ?_
  unfold swept
  split
  · exact .done trivial
  · exact .fail
  · exact .fail

end Service

/-- What a call asks, it may ask; and what it returns is what it yields. -/
theorem Call.meets (cfg : Settings) (c : Call) :
    (c.flow cfg).Meets (c.May cfg) (c.Yields cfg) [] := by
  cases c with
  | register form => exact Service.register_meets form
  | login email password => exact Service.login_meets email password
  | logout secret => exact Service.logout_meets secret
  | refresh secret => exact Service.refresh_meets secret
  | validate token => exact Service.validate_meets token
  | changePassword id old new => exact Service.changePassword_meets id old new
  | verifyEmail secret => exact Service.verifyEmail_meets secret
  | resendVerification email => exact Service.resendVerification_meets email
  | sweep limit => exact Service.sweepOnce_meets limit

/-! ## Runs of many calls -/

namespace Runs

variable {cfg : Settings} {d : Stores} {s : State}

/-- What is asked next may be asked after what its caller has asked before. -/
theorem may_next (h : Runs cfg d s) {e : Entry} {after : Stores} (ha : s.Admits e after) :
    e.call.May cfg (historyOf e.caller s.log) e.exchange.ask := by
  obtain ⟨⟨k, hk⟩, -⟩ := ha
  have := (h.leads hk).meets (e.call.meets cfg)
  rw [List.nil_append] at this
  exact this.question

/-- Whatever was asked might be asked after what its caller had asked before. -/
theorem may (h : Runs cfg d s) {n : Nat} {e : Entry} (he : s.log[n]? = some e) :
    e.call.May cfg (historyOf e.caller (s.log.take n)) e.exchange.ask := by
  obtain ⟨s₁, s₂, h₁, hl, ha, -⟩ := h.moment he
  rw [← hl]
  exact h₁.may_next ha

/-- Whatever was returned is what its call yields. -/
theorem yields (h : Runs cfg d s) {i : Nat} {c : Call} {v : c.Value} (hv : s.Returned i c v) :
    c.Yields cfg (historyOf i s.log) v := by
  have := (h.leads hv).meets (c.meets cfg)
  rw [List.nil_append] at this
  exact this.result

end Runs

end Gatehouse
