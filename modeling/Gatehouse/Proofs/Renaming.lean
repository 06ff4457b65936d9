/-
  Gatehouse — a run in disguise.

  A run is repeated with other secrets: passwords that the hasher and the rules of strength take for
  the first ones, and tokens whose secrets are renamed, in the store and wherever else they stand.
  The second run asks what the first one does, but for the secrets. It finds the same accounts until
  it writes one: only then a digest may be another one, and nothing is looked up after that.

  * `TokenStore.perform_rename`: a store of tokens sees no more of a secret than which token it
    names;
  * `Ask.Veiled`: which questions go together, and which replies to them;
  * `Surroundings.kept_veiled`: surroundings reply to what is asked in disguise as they do to what
    is asked without.
-/
import Gatehouse.Proofs.Bearer
import Gatehouse.Proofs.Lockstep

namespace Gatehouse

/-! ## Tokens with other secrets -/

/-- The token with its secret renamed. -/
def Token.rename (ρ : String → String) (t : Token) : Token := { t with secret := ρ t.secret }

/-- The store with all secrets renamed. -/
def TokenStore.rename (ρ : String → String) (s : TokenStore) : TokenStore :=
  ⟨s.records.map (Token.rename ρ)⟩

/-- A call, the same call with its secret renamed, and which answers to them go together. -/
inductive TokenCall.Renamed (ρ : String → String) :
    (c c' : TokenCall) → (c.Answer → c'.Answer → Prop) → Prop
  | create (t : Token) : Renamed ρ (.create t) (.create (t.rename ρ)) Eq
  | findBySecret (secret : String) : Renamed ρ (.findBySecret secret) (.findBySecret (ρ secret))
      fun t? t?' => t?' = t?.map (Token.rename ρ)
  | blacklist (secret : String) : Renamed ρ (.blacklist secret) (.blacklist (ρ secret)) Eq
  | revokeIfActive (secret : String) :
      Renamed ρ (.revokeIfActive secret) (.revokeIfActive (ρ secret)) Eq
  | deleteAllForUser (id : UserId) : Renamed ρ (.deleteAllForUser id) (.deleteAllForUser id) Eq
  | sweepExpired (now : Instant) : Renamed ρ (.sweepExpired now) (.sweepExpired now) Eq

theorem TokenCall.Renamed.title_eq {ρ : String → String} {c c' : TokenCall}
    {S : c.Answer → c'.Answer → Prop} (h : Renamed ρ c c' S) : c'.title = c.title := by
  cases h <;> rfl

namespace TokenStore

variable {ρ : String → String} {s : TokenStore}

theorem findBySecret_rename (hρ : Function.Injective ρ) (secret : String) :
    (s.rename ρ).findBySecret (ρ secret) = (s.findBySecret secret).map (Token.rename ρ) := by
  have hsame : ((·.secret == ρ secret) ∘ Token.rename ρ) = fun t : Token => t.secret == secret := by
    funext t
    exact hρ.beq_eq
  unfold findBySecret rename
  rw [List.find?_map, hsame]

theorem blacklist_rename (hρ : Function.Injective ρ) (secret : String) :
    (s.rename ρ).blacklist (ρ secret) = (s.blacklist secret).rename ρ := by
  simp only [blacklist, rename, List.map_map]
  congr 1
  refine List.map_congr_left fun t _ => ?_
  by_cases h : t.secret = secret
  · simp [Token.rename, h]
  · simp [Token.rename, h, hρ.eq_iff]

theorem isActive_rename (hρ : Function.Injective ρ) (secret : String) :
    (s.rename ρ).isActive (ρ secret) = s.isActive secret := by
  unfold isActive
  rw [findBySecret_rename hρ]
  cases s.findBySecret secret with
  | none => rfl
  | some t => rfl

theorem create_rename (hρ : Function.Injective ρ) (t : Token) :
    (s.rename ρ).create (t.rename ρ) = (s.create t).map (rename ρ) := by
  have hused : (s.rename ρ).records.any
      (fun u => u.secret == (t.rename ρ).secret || u.id == (t.rename ρ).id) =
        s.records.any fun u => u.secret == t.secret || u.id == t.id := by
    rw [rename, List.any_map]
    congr 1
    funext u
    simp [Token.rename, hρ.beq_eq]
  unfold create
  rw [hused]
  split_ifs
  · rfl
  · simp [rename, Except.map]

/-- A condition that does not look at secrets. -/
theorem dropAll_rename {dead : Token → Bool} (hdead : ∀ t, dead (t.rename ρ) = dead t) :
    (s.rename ρ).dropAll dead = (s.dropAll dead).rename ρ := by
  have hsame : ((fun t => !dead t) ∘ Token.rename ρ) = fun t => !dead t := by
    funext t
    simp [hdead]
  simp only [dropAll, rename, List.filter_map, hsame]

theorem count_rename {p : Token → Bool} (hp : ∀ t, p (t.rename ρ) = p t) :
    (s.rename ρ).count p = s.count p := by
  have hsame : p ∘ Token.rename ρ = p := funext hp
  simp only [count, rename, List.countP_map, hsame]

/-- **A store of tokens answers alike when all secrets are renamed, and they stay so.** -/
theorem perform_rename (hρ : Function.Injective ρ) {c c' : TokenCall}
    {S : c.Answer → c'.Answer → Prop} (h : c.Renamed ρ c' S) :
    Outcomes Eq S (s.perform c).1 ((s.rename ρ).perform c').1 ∧
      ((s.rename ρ).perform c').2 = (s.perform c).2.rename ρ := by
  cases h with
  | create t =>
    simp only [perform, create_rename hρ]
    cases s.create t with
    | ok after => exact ⟨.ok rfl, rfl⟩
    | error e => exact ⟨.error rfl, rfl⟩
  | findBySecret secret => exact ⟨.ok (findBySecret_rename hρ secret), rfl⟩
  | blacklist secret => exact ⟨.ok rfl, blacklist_rename hρ secret⟩
  | revokeIfActive secret =>
    simp only [perform, isActive_rename hρ]
    cases s.isActive secret with
    | true => exact ⟨.ok rfl, blacklist_rename hρ secret⟩
    | false => exact ⟨.ok rfl, rfl⟩
  | deleteAllForUser id =>
    exact ⟨.ok (count_rename fun _ => rfl).symm, dropAll_rename fun _ => rfl⟩
  | sweepExpired now =>
    exact ⟨.ok (count_rename fun _ => rfl).symm, dropAll_rename fun _ => rfl⟩

end TokenStore

/-! ## Accounts with other digests -/

/-- The records differ at most in the digest of the password. -/
def User.Like (u u' : User) : Prop := ∃ digest, u' = { u with passwordHash := digest }

/-- Two calls to stores that hold what `d` does, and which answers to them go together. -/
inductive UserCall.Veiled (d : UserStore) :
    (c c' : UserCall) → (c.Answer → c'.Answer → Prop) → Prop
  | findById (id : UserId) : Veiled d (.findById id) (.findById id)
      fun u? u?' => u?' = u? ∧ ∀ u, u? = some u → u ∈ d.records
  | findByEmail (email : EmailAddress) : Veiled d (.findByEmail email) (.findByEmail email)
      fun u? u?' => u?' = u? ∧ ∀ u, u? = some u → u ∈ d.records
  | existsByEmail (email : EmailAddress) : Veiled d (.existsByEmail email) (.existsByEmail email) Eq
  | create {u u' : User} : u.Like u' → Veiled d (.create u) (.create u') User.Like
  | update {u u' : User} : u.Like u' → Veiled d (.update u) (.update u') User.Like

theorem UserCall.Veiled.title_eq {d : UserStore} {c c' : UserCall}
    {S : c.Answer → c'.Answer → Prop} (h : Veiled d c c' S) : c'.title = c.title := by
  cases h <;> rfl

/-- The call writes. -/
def UserCall.writes : UserCall → Bool
  | create _ | update _ => true
  | _ => false

namespace UserStore

variable {s : UserStore}

/-- Whether a record can be added does not depend on its digest. -/
theorem perform_create_like {u u' : User} (h : u.Like u') :
    Outcomes Eq User.Like (s.perform (.create u)).1 (s.perform (.create u')).1 := by
  obtain ⟨digest, rfl⟩ := h
  simp only [perform, create]
  split_ifs
  · exact .error rfl
  · exact .error rfl
  · exact .ok ⟨digest, rfl⟩

/-- Whether a record can be changed does not depend on its digest. -/
theorem perform_update_like {u u' : User} (h : u.Like u') :
    Outcomes Eq User.Like (s.perform (.update u)).1 (s.perform (.update u')).1 := by
  obtain ⟨digest, rfl⟩ := h
  simp only [perform, update]
  split_ifs
  · exact .error rfl
  · exact .ok ⟨digest, rfl⟩
  · exact .error rfl

/-- **A store of accounts answers alike up to the digests that it is given.** -/
theorem perform_veiled {c c' : UserCall} {S : c.Answer → c'.Answer → Prop} (h : c.Veiled s c' S) :
    Outcomes Eq S (s.perform c).1 (s.perform c').1 := by
  cases h with
  | findById id => exact .ok ⟨rfl, fun u hu => (findById_eq hu).1⟩
  | findByEmail email => exact .ok ⟨rfl, fun u hu => (findByEmail_eq hu).1⟩
  | existsByEmail email => exact .ok rfl
  | create hlike => exact perform_create_like hlike
  | update hlike => exact perform_update_like hlike

/-- A call that does not write leaves the store alone. -/
theorem perform_reading {c : UserCall} (h : c.writes = false) : (s.perform c).2 = s := by
  cases c with
  | create u => cases h
  | update u => cases h
  | _ => rfl

end UserStore

/-! ## Conversations in disguise -/

/-- The hasher takes the passwords for each other on the digests in a store, and both are strong or
    both weak. -/
structure Surroundings.Confuses (o : Surroundings) (d : UserStore) (password password' : String) :
    Prop where
  hash : ∀ n, Outcomes Eq (fun _ _ => True) (o.reply n (.hash password))
    (o.reply n (.hash password'))
  verify : ∀ n, ∀ u ∈ d.records, o.reply n (.verify password u.passwordHash) =
    o.reply n (.verify password' u.passwordHash)
  strength : Password.weakness? password = none ↔ Password.weakness? password' = none

/-- Every password is taken for itself. -/
theorem Surroundings.Confuses.refl (o : Surroundings) (d : UserStore) (password : String) :
    o.Confuses d password password :=
  ⟨fun _ => .refl (fun _ => rfl) (fun _ => trivial) _, fun _ _ _ => rfl, .rfl⟩

/-- A text of letters that are safe in a URL, as secrets are. -/
def IsUrlSafe (s : String) : Prop := ∀ c ∈ s.toList, ∃ n < 64, c = Base64.Alphabet.urlSafe.symbol n

/-- Two texts in the place of an access token: the same one, or two secrets. -/
def Untold (token token' : String) : Prop :=
  token' = token ∨ IsUrlSafe token ∧ IsUrlSafe token'

/-- How far a run has come: the last thing it did was to draw a text, and it has written an
    account. -/
structure Phase where
  drew : Bool
  wrote : Bool

/-- The phase after a question. An identifier and a secret are drawn in turn. -/
def Phase.next (p : Phase) : Ask → Phase
  | .draw _ => ⟨!p.drew, p.wrote⟩
  | .users _ c => ⟨false, p.wrote || c.writes⟩
  | _ => ⟨false, p.wrote⟩

/-- The question is not for a store, and there is no secret in it or in its reply. -/
def Ask.Public : Ask → Prop
  | .now | .issue .. | .permit _ | .log _ => True
  | _ => False

/-- A question and the same question in disguise, and which replies to them go together. -/
inductive Ask.Veiled (o : Surroundings) (ρ : String → String) (d : UserStore) (p : Phase) :
    (q q' : Ask) → (q.Reply → q'.Reply → Prop) → Prop
  | same {q : Ask} : q.Public → Veiled o ρ d p q q Eq
  | users (limit : Span) {c c' S} : p.wrote = false → c.Veiled d c' S →
      Veiled o ρ d p (.users limit c) (.users limit c') (Option.Rel (Outcomes Eq S))
  | tokens (limit : Span) {c c' S} : c.Renamed ρ c' S →
      Veiled o ρ d p (.tokens limit c) (.tokens limit c') (Option.Rel (Outcomes Eq S))
  | hash {password password'} : o.Confuses d password password' →
      Veiled o ρ d p (.hash password) (.hash password') (Outcomes Eq fun _ _ => True)
  | verify {password password'} {u : User} : o.Confuses d password password' → u ∈ d.records →
      Veiled o ρ d p (.verify password u.passwordHash) (.verify password' u.passwordHash) Eq
  | verifyDecoy (password password') :
      Veiled o ρ d p (.verifyDecoy password) (.verifyDecoy password') fun _ _ => True
  | draw (bytes : Nat) : Veiled o ρ d p (.draw bytes) (.draw bytes)
      (Outcomes Eq fun text text' => text' = if p.drew then ρ text else text)
  | parse {token token'} (now : Instant) : Untold token token' →
      Veiled o ρ d p (.parse token now) (.parse token' now) Eq
  | send (limit : Span) (m : Mail) (secret : String) :
      Veiled o ρ d p (.send limit m) (.send limit { m with secret := secret }) Eq

/-- Conversations that are the same up to secrets. -/
def Accord.veiled (o : Surroundings) (ρ : String → String) (d : UserStore) : Accord Phase where
  next := Phase.next
  Pairs := Ask.Veiled o ρ d

/-! ## Surroundings in disguise -/

/-- The sender of mail is content to write every mail down. -/
def Surroundings.Traces (o : Surroundings) : Prop :=
  ∀ n limit m, o.reply n (.send limit m) = some (.ok ())

/-- The question is for a text to be drawn. -/
def Ask.draws : Ask → Bool
  | .draw _ => true
  | _ => false

/-- A reply, with the text that was drawn renamed. -/
def Ask.redrawn (ρ : String → String) : (q : Ask) → q.Reply → q.Reply
  | .draw _, text => text.map ρ
  | _, r => r

/-- Answer a question of a run in disguise. Of texts that are drawn in turn every second one is for
    a secret, and renamed. -/
def Scene.nextRenamed (o : Surroundings) (ρ : String → String) (q : Ask) :
    Scene × Bool → q.Reply × Scene × Bool
  | (s, drew) =>
    let (r, after) := s.next o q
    (if drew then q.redrawn ρ r else r, after, q.draws && !drew)

/-- The scene with all secrets renamed. -/
def Scene.rename (ρ : String → String) (s : Scene) : Scene :=
  { s with tokens := s.tokens.rename ρ }

/-- In a phase of a run from the accounts in `d`, the second scene is the first one in disguise. -/
structure Scene.Disguised (ρ : String → String) (d : UserStore) (p : Phase) (s : Scene)
    (s' : Scene × Bool) : Prop where
  moment : s'.1.moment = s.moment
  tokens : s'.1.tokens = s.tokens.rename ρ
  users : p.wrote = false → s.users = d ∧ s'.1.users = d
  drew : s'.2 = p.drew

theorem Fate.settle_outcomes {α α' : Type} {S : α → α' → Prop} {r : Except StoreError α}
    {r' : Except StoreError α'} (h : Outcomes Eq S r r') (f : Fate) :
    Option.Rel (Outcomes Eq S) (f.settle r).1 (f.settle r').1 ∧
      (f.settle r').2 = (f.settle r).2 := by
  have hok : r'.isOk = r.isOk := by cases h <;> rfl
  cases f with
  | served => exact ⟨.some h, hok⟩
  | lost error carriedOut =>
    refine ⟨?_, by simp only [Fate.settle, hok]⟩
    cases error with
    | none => exact .none
    | some e => exact .some (.error rfl)

section

variable {o : Surroundings} {ρ : String → String} {d : UserStore} {p : Phase} {s : Scene}
  {s' : Scene × Bool}

/-- A text without a dot is no access token. -/
theorem IsUrlSafe.splitLast {token : String} (h : IsUrlSafe token) :
    Text.splitLast '.' token.toList = none := by
  cases hs : Text.splitLast '.' token.toList with
  | none => rfl
  | some parts =>
    obtain ⟨htoken, -⟩ := Text.splitLast_eq_some (l := parts.1) (r := parts.2) hs
    obtain ⟨n, hn, hdot⟩ := h '.' (htoken ▸ List.mem_append_right _ List.mem_cons_self)
    have hall : ∀ n < 64, '.' ≠ Base64.Alphabet.urlSafe.symbol n := by decide
    exact absurd hdot (hall n hn)

theorem IsUrlSafe.identify {token : String} (h : IsUrlSafe token) (signer : Jwt.Signer)
    (now : Instant) :
    signer.identify token now = .error (.malformed Jwt.Malformation.tooFewParts.reason) := by
  unfold Jwt.Signer.identify Jwt.Signer.decode Jwt.Signer.open?
  rw [h.splitLast]
  rfl

/-- What is said of an access token tells no secret from another. -/
theorem Surroundings.Decodes.untold {signer : Jwt.Signer} (ho : o.Decodes signer)
    {token token' : String} (h : Untold token token') (n : Nat) (now : Instant) :
    o.reply n (.parse token now) = o.reply n (.parse token' now) := by
  rcases h with rfl | ⟨h, h'⟩
  · rfl
  · rw [ho, ho, h.identify, h'.identify]

theorem Scene.stores_next_apart {q : Ask} (hq : q.Apart) (s : Scene) :
    (s.next o q).2.toStores = s.toStores := by
  simp only [Scene.next, Stores.serve_apart s.toStores hq]

theorem Phase.next_apart {q : Ask} (hq : q.Apart) (p : Phase) :
    p.next q = ⟨q.draws && !p.drew, p.wrote⟩ := by
  cases q with
  | users l c => exact hq.elim
  | tokens l c => exact hq.elim
  | _ => rfl

/-- What is not asked of a store leaves the scenes as they were. -/
theorem Scene.Disguised.apart (h : Scene.Disguised ρ d p s s') (q q' : Ask) (hq : q.Apart)
    (hq' : q'.Apart) (hdraws : q'.draws = q.draws) :
    Scene.Disguised ρ d (p.next q) (s.next o q).2 (Scene.nextRenamed o ρ q' s').2 := by
  rw [Phase.next_apart hq]
  refine ⟨congrArg (· + 1) h.moment, ?_, ?_, ?_⟩
  · show (s'.1.next o q').2.toStores.tokens = (s.next o q).2.toStores.tokens.rename ρ
    rw [stores_next_apart hq, stores_next_apart hq']
    exact h.tokens
  · show p.wrote = false → (s.next o q).2.toStores.users = d ∧
      (s'.1.next o q').2.toStores.users = d
    rw [stores_next_apart hq, stores_next_apart hq']
    exact h.users
  · show (q'.draws && !s'.2) = (q.draws && !p.drew)
    rw [h.drew, hdraws]

/-- No reply is changed but a text that is drawn. -/
theorem Scene.nextRenamed_plain {q : Ask} (hq : q.draws = false) (s' : Scene × Bool) :
    (Scene.nextRenamed o ρ q s').1 = (s'.1.next o q).1 := by
  cases q with
  | draw bytes => cases hq
  | _ => exact ite_self _

theorem Scene.Disguised.reply_apart (h : Scene.Disguised ρ d p s s') (q : Ask) (hq : q.Apart)
    (hdraws : q.draws = false) : (Scene.nextRenamed o ρ q s').1 = o.reply s.moment q := by
  rw [nextRenamed_plain hdraws, ← h.moment]
  simp only [Scene.next, Stores.serve_apart s'.1.toStores hq]

theorem Scene.reply_apart (q : Ask) (hq : q.Apart) (s : Scene) :
    (s.next o q).1 = o.reply s.moment q := by
  simp only [Scene.next, Stores.serve_apart s.toStores hq]

theorem Ask.Public.apart {q : Ask} (hq : q.Public) : q.Apart := by
  cases q with
  | users l c => exact hq
  | tokens l c => exact hq
  | _ => trivial

theorem Ask.Public.draws_eq {q : Ask} (hq : q.Public) : q.draws = false := by
  cases q with
  | draw bytes => exact hq.elim
  | _ => rfl

theorem Scene.tokens_next_users (limit : Span) (c : UserCall) (s : Scene) :
    (s.next o (.users limit c)).2.tokens = s.tokens := by
  simp only [Scene.next, Stores.serve]
  split_ifs <;> rfl

theorem Scene.users_next_reading (limit : Span) {c : UserCall} (hc : c.writes = false)
    (s : Scene) : (s.next o (.users limit c)).2.users = s.users := by
  simp only [Scene.next, Stores.serve, UserStore.perform_reading hc, ite_self]

theorem Scene.users_next_tokens (limit : Span) (c : TokenCall) (s : Scene) :
    (s.next o (.tokens limit c)).2.users = s.users := by
  simp only [Scene.next, Stores.serve]
  split_ifs <;> rfl

theorem Scene.tokens_next_tokens (limit : Span) (c : TokenCall) (s : Scene) :
    (s.next o (.tokens limit c)).2.tokens =
      if ((o.fate s.moment).settle (s.tokens.perform c).1).2 then (s.tokens.perform c).2
      else s.tokens := by
  simp only [Scene.next, Stores.serve]
  split_ifs <;> rfl

theorem UserCall.Veiled.writes_eq {c c' : UserCall} {S : c.Answer → c'.Answer → Prop}
    (h : c.Veiled d c' S) : c'.writes = c.writes := by
  cases h <;> rfl

/-- **Surroundings reply to what is asked in disguise as they do to what is asked without.** -/
theorem Surroundings.kept_veiled {signer : Jwt.Signer} (hρ : Function.Injective ρ)
    (htraces : o.Traces) (hdecodes : o.Decodes signer) :
    (Accord.veiled o ρ d).Kept (Scene.Disguised ρ d) (Scene.next o) (Scene.nextRenamed o ρ) := by
  rintro p q q' R s s' hpair h
  cases hpair with
  | same hq =>
    refine ⟨?_, h.apart q q hq.apart hq.apart rfl⟩
    rw [h.reply_apart q hq.apart hq.draws_eq, Scene.reply_apart q hq.apart]
  | users limit hwrote hcall =>
    obtain ⟨hs, hs'⟩ := h.users hwrote
    obtain ⟨hreply, htook⟩ :=
      Fate.settle_outcomes (UserStore.perform_veiled hcall) (o.fate s.moment)
    refine ⟨?_, congrArg (· + 1) h.moment, ?_, ?_, rfl⟩
    · rw [Scene.nextRenamed_plain rfl]
      simp only [Scene.next, Stores.serve, hs, hs', h.moment]
      exact hreply
    · exact (Scene.tokens_next_users ..).trans
        (h.tokens.trans (congrArg _ (Scene.tokens_next_users ..).symm))
    · intro hnext
      obtain ⟨-, hreads⟩ := Bool.or_eq_false_iff.1 hnext
      have hreads' := hcall.writes_eq.trans hreads
      exact ⟨(Scene.users_next_reading limit hreads s).trans hs,
        (Scene.users_next_reading limit hreads' s'.1).trans hs'⟩
  | tokens limit hcall =>
    obtain ⟨hperform, hafter⟩ := TokenStore.perform_rename (s := s.tokens) hρ hcall
    obtain ⟨hreply, htook⟩ := Fate.settle_outcomes hperform (o.fate s.moment)
    refine ⟨?_, congrArg (· + 1) h.moment, ?_, ?_, rfl⟩
    · rw [Scene.nextRenamed_plain rfl]
      simp only [Scene.next, Stores.serve, h.tokens, h.moment]
      exact hreply
    · refine (Scene.tokens_next_tokens limit _ s'.1).trans ?_
      rw [Scene.tokens_next_tokens, h.moment, h.tokens, htook, hafter]
      split_ifs
      · rfl
      · rfl
    · intro hnext
      obtain ⟨hs, hs'⟩ := h.users hnext
      exact ⟨(Scene.users_next_tokens limit _ s).trans hs,
        (Scene.users_next_tokens limit _ s'.1).trans hs'⟩
  | @hash password password' hconfuses =>
    refine ⟨?_, h.apart (.hash password) (.hash password') trivial trivial rfl⟩
    rw [h.reply_apart (.hash password') trivial rfl]
    exact hconfuses.hash _
  | @verify password password' u hconfuses hu =>
    refine ⟨?_, h.apart (.verify password _) (.verify password' _) trivial trivial rfl⟩
    rw [h.reply_apart (.verify password' _) trivial rfl]
    exact hconfuses.verify _ _ hu
  | verifyDecoy password password' =>
    exact ⟨trivial, h.apart (.verifyDecoy password) (.verifyDecoy password') trivial trivial rfl⟩
  | draw bytes =>
    refine ⟨?_, h.apart (.draw bytes) (.draw bytes) trivial trivial rfl⟩
    have hdrawn : (Scene.nextRenamed o ρ (.draw bytes) s').1 =
        if p.drew then (o.reply s.moment (.draw bytes)).map ρ
        else o.reply s.moment (.draw bytes) := by
      rw [← h.drew, ← h.moment]
      rfl
    rw [hdrawn, Scene.reply_apart (.draw bytes) trivial]
    generalize (o.reply s.moment (.draw bytes) : Except AuthError String) = r
    cases p.drew with
    | true =>
      cases r with
      | error e => exact .error rfl
      | ok text => exact .ok rfl
    | false =>
      cases r with
      | error e => exact .error rfl
      | ok text => exact .ok rfl
  | @parse token token' now huntold =>
    refine ⟨?_, h.apart (.parse token now) (.parse token' now) trivial trivial rfl⟩
    rw [h.reply_apart (.parse token' now) trivial rfl]
    exact hdecodes.untold huntold _ _
  | send limit m secret =>
    refine ⟨?_, h.apart (.send limit m) (.send limit _) trivial trivial rfl⟩
    rw [h.reply_apart (.send limit _) trivial rfl]
    exact (htraces _ _ _).trans (htraces _ _ _).symm

end

end Gatehouse
