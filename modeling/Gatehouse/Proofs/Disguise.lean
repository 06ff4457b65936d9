/-
  Gatehouse — operations in disguise.

  Each operation keeps in step with itself in disguise: with other passwords, if it is given any,
  and with the renamed secret, if it is given one. What it fails with is the same, but for two
  complaints about what was entered.

  * `Service.veiled_storeToken`: a token is minted with the renamed secret, and all else the same;
  * `Call.Disguised`: what a call is in disguise;
  * `Call.Disguised.together`: both calls keep in step.
-/
import Gatehouse.Proofs.Renaming

namespace Gatehouse

/-! ## Errors -/

/-- The error complains of what was entered. -/
def AuthError.IsOfEntry : AuthError → Prop
  | .weakPassword _ | .validationFailed _ => True
  | _ => False

/-- The errors are the same, or both complain of what was entered. -/
inductive AuthError.Veiled : AuthError → AuthError → Prop
  | same {e} : Veiled e e
  | entry {e e'} : e.IsOfEntry → e'.IsOfEntry → Veiled e e'

/-! ## What is entered -/

/-- A blank counts for the strength of a password neither as a digit nor as punctuation. -/
theorem Password.not_counted_of_blank {c : Char} (h : Text.isBlank c = true) :
    isDigit c = false ∧ isPunctuation c = false := by
  obtain ⟨r, hr, hle, hge⟩ := Text.Ranges.has_iff.1 h
  have hnat : c.toNat < 0x21 ∨ 0x7E < c.toNat := by
    have hall : ∀ r ∈ Text.blankRanges, r.2 < 0x21 ∨ 0x7E < r.1 := by decide
    have := hall r hr
    omega
  constructor
  · simp only [isDigit, Bool.and_eq_false_iff, decide_eq_false_iff_not]
    have hzero : '0' ≤ c ↔ 48 ≤ c.toNat := Iff.rfl
    have hnine : c ≤ '9' ↔ c.toNat ≤ 57 := Iff.rfl
    rw [hzero, hnine]
    omega
  · simp only [isPunctuation, Bool.and_eq_false_iff, decide_eq_false_iff_not]
    omega

/-- A strong password is not blank. -/
theorem Password.not_blank_of_strong {password : String} (h : weakness? password = none) :
    Text.isBlankText password = false := by
  obtain ⟨-, -, hkinds⟩ := weakness?_eq_none_iff.1 h
  by_contra hblank
  simp only [Text.isBlankText, Bool.not_eq_false, List.all_eq_true] at hblank
  have hnone : ∀ kind, (∀ c, Text.isBlank c = true → kind c = false) →
      password.toList.any kind = false := by
    intro kind hkind
    rw [List.any_eq_false]
    intro c hc
    simp [hkind c (hblank c hc)]
  -- what is left are letters of two cases, and three kinds are required
  unfold kindsIn kinds leastKinds at hkinds
  rw [List.countP_cons, List.countP_cons, List.countP_cons, List.countP_cons,
    hnone isDigit fun c hc => (not_counted_of_blank hc).1,
    hnone isPunctuation fun c hc => (not_counted_of_blank hc).2] at hkinds
  simp only [List.countP_nil, Bool.false_eq_true, if_false] at hkinds
  split_ifs at hkinds <;> omega

namespace Registration.Form

variable {form form' : Form}

/-- When a form is accepted. -/
theorem validate_eq_ok_iff {a : Accepted} : form.validate = .ok a ↔
    form.checkEmail = .ok a.email ∧ form.checkName = .ok a.name ∧
      Password.weakness? form.password = none ∧ form.password = form.confirmation := by
  constructor
  · intro h
    unfold validate at h
    split at h
    · next email name hemail hname =>
      split_ifs at h with hnone
      split at h
      · next hstrong =>
        cases h
        refine ⟨hemail, hname, hstrong, ?_⟩
        by_contra hne
        simp [complaints, checkConfirmation, hne, complaint] at hnone
      · cases h
    · cases h
  · rintro ⟨hemail, hname, hstrong, hconfirmed⟩
    have hpassword : form.checkPassword = .ok () := by
      rw [checkPassword, Password.not_blank_of_strong hstrong]
      rfl
    have hconfirmation : form.checkConfirmation = .ok () := if_pos hconfirmed
    have hnone : form.complaints.isEmpty = true := by
      simp [complaints, hemail, hname, hpassword, hconfirmation, complaint]
    simp only [validate, hemail, hname, hnone, if_true, hstrong]

theorem validate_error {e : AuthError} (h : form.validate = .error e) : e.IsOfEntry := by
  unfold validate at h
  split at h
  · split_ifs at h
    · split at h
      · cases h
      · cases h
        trivial
    · cases h
      trivial
  · cases h
    trivial

/-- The forms are the same but for the passwords, which the hasher takes for each other; both are
    confirmed, or none is. -/
structure Disguised (o : Surroundings) (d : UserStore) (form form' : Form) : Prop where
  rest : form' = { form with password := form'.password, confirmation := form'.confirmation }
  confuses : o.Confuses d form.password form'.password
  confirmed : form.password = form.confirmation ↔ form'.password = form'.confirmation

theorem Disguised.validate_iff {o : Surroundings} {d : UserStore} (h : form.Disguised o d form')
    {a : Accepted} : form.validate = .ok a ↔ form'.validate = .ok a := by
  have hemail : form'.checkEmail = form.checkEmail := by
    rw [h.rest]
    rfl
  have hname : form'.checkName = form.checkName := by
    rw [h.rest]
    rfl
  rw [validate_eq_ok_iff, validate_eq_ok_iff, hemail, hname, h.confuses.strength, h.confirmed]

/-- **Forms in disguise are accepted alike, or both are complained of.** -/
theorem Disguised.validate {o : Surroundings} {d : UserStore} (h : form.Disguised o d form') :
    Outcomes AuthError.Veiled Eq form.validate form'.validate := by
  cases hv : form.validate with
  | ok a =>
    rw [h.validate_iff.1 hv]
    exact .ok rfl
  | error e =>
    cases hv' : form'.validate with
    | ok a =>
      rw [h.validate_iff.2 hv'] at hv
      cases hv
    | error e' => exact .error (.entry (validate_error hv) (validate_error hv'))

end Registration.Form

/-! ## Parts of operations -/

namespace Service

open Gatehouse.Flow

section

variable {cfg : Settings} {o : Surroundings} {ρ : String → String} {d : UserStore} {p : Phase}
  {b w : Bool} {E : AuthError → AuthError → Prop}

theorem veiled_now {Q : Phase → Instant → Instant → Prop} (hQ : ∀ t, Q ⟨false, p.wrote⟩ t t) :
    now.InStep (.veiled o ρ d) E Q p now := by
  refine .ask (.same trivial) fun t t' ht => ?_
  obtain rfl : t = t' := ht
  exact .done (hQ t)

theorem veiled_log {ε ε' : Type} {E : ε → ε' → Prop} {Q : Phase → Unit → Unit → Prop} (e : Event)
    (hQ : Q ⟨false, p.wrote⟩ () ()) :
    (log e : Flow ε Unit).InStep (.veiled o ρ d) E Q p (log e : Flow ε' Unit) :=
  .ask (.same trivial) fun _ _ _ => .done hQ

theorem veiled_answered {α α' : Type} {S : α → α' → Prop} {Q : Phase → α → α' → Prop}
    (title : String) (limit : Span) {r : Option (Except StoreError α)}
    {r' : Option (Except StoreError α')} (h : Option.Rel (Outcomes Eq S) r r')
    (hQ : ∀ a a', S a a' → Q p a a') :
    (answered title limit r).InStep (.veiled o ρ d) Eq Q p (answered title limit r') := by
  cases h with
  | some h => exact inStep_ofExcept (h.mono (fun _ _ h => h) hQ)
  | none => exact .fail rfl

theorem veiled_tryUsers {c c' : UserCall} {S : c.Answer → c'.Answer → Prop}
    {Q : Phase → c.Answer → c'.Answer → Prop} (hc : c.Veiled d c' S)
    (hQ : ∀ a a', S a a' → Q ⟨false, c.writes⟩ a a') :
    (tryUsers cfg c).InStep (.veiled o ρ d) Eq Q ⟨b, false⟩ (tryUsers cfg c') := by
  refine .ask (.users cfg.storageLimit rfl hc) fun r r' hr => ?_
  rw [hc.title_eq]
  exact veiled_answered _ _ hr hQ

theorem veiled_tryTokens {c c' : TokenCall} {S : c.Answer → c'.Answer → Prop}
    {Q : Phase → c.Answer → c'.Answer → Prop} (hc : c.Renamed ρ c' S)
    (hQ : ∀ a a', S a a' → Q ⟨false, p.wrote⟩ a a') :
    (tryTokens cfg c).InStep (.veiled o ρ d) Eq Q p (tryTokens cfg c') := by
  refine .ask (.tokens cfg.storageLimit hc) fun r r' hr => ?_
  rw [hc.title_eq]
  exact veiled_answered _ _ hr hQ

section

variable (hE : ∀ e, E e e)

include hE

theorem veiled_users {c c' : UserCall} {S : c.Answer → c'.Answer → Prop}
    {Q : Phase → c.Answer → c'.Answer → Prop} (hc : c.Veiled d c' S)
    (hQ : ∀ a a', S a a' → Q ⟨false, c.writes⟩ a a') :
    (users cfg c).InStep (.veiled o ρ d) E Q ⟨false, false⟩ (users cfg c') :=
  inStep_mapFailure (veiled_tryUsers hc hQ) fun _ _ h => h ▸ hE _

theorem veiled_tokens {c c' : TokenCall} {S : c.Answer → c'.Answer → Prop}
    {Q : Phase → c.Answer → c'.Answer → Prop} (hc : c.Renamed ρ c' S)
    (hQ : ∀ a a', S a a' → Q ⟨false, p.wrote⟩ a a') :
    (tokens cfg c).InStep (.veiled o ρ d) E Q p (tokens cfg c') :=
  inStep_mapFailure (veiled_tryTokens hc hQ) fun _ _ h => h ▸ hE _

theorem veiled_ofOption {α : Type} {Q : Phase → α → α → Prop} (e : AuthError) {a? : Option α}
    (hQ : ∀ a, a? = some a → Q p a a) :
    (ofOption e a?).InStep (.veiled o ρ d) E Q p (ofOption e a?) := by
  cases a? with
  | none => exact .fail (hE e)
  | some a => exact .done (hQ a rfl)

theorem veiled_hash {password password' : String} (h : o.Confuses d password password')
    {Q : Phase → String → String → Prop} (hQ : ∀ x x', Q ⟨false, p.wrote⟩ x x') :
    (hash password).InStep (.veiled o ρ d) E Q p (hash password') :=
  .ask (.hash h) fun _ _ hr =>
    inStep_ofExcept (hr.mono (fun _ _ h => h ▸ hE _) fun x x' _ => hQ x x')

theorem veiled_issue (u : User) (t : Instant) {Q : Phase → Jwt.Issued → Jwt.Issued → Prop}
    (hQ : ∀ x, Q ⟨false, p.wrote⟩ x x) :
    (issue u t).InStep (.veiled o ρ d) E Q p (issue u t) := by
  refine .ask (.same trivial) fun r r' hr => ?_
  obtain rfl : r = r' := hr
  cases r with
  | error x => exact .crash
  | ok r => exact inStep_ofExcept (.refl hE hQ _)

/-- The first of two texts that are drawn in turn. -/
theorem veiled_draw_identifier {Q : Phase → String → String → Prop} (hQ : ∀ x, Q ⟨true, w⟩ x x) :
    draw.InStep (.veiled o ρ d) E Q ⟨false, w⟩ draw := by
  refine .ask (.draw _) fun r r' hr => inStep_ofExcept (hr.mono (fun _ _ h => h ▸ hE _) ?_)
  rintro _ x rfl
  exact hQ x

/-- The second of two texts that are drawn in turn. -/
theorem veiled_draw_secret {Q : Phase → String → String → Prop} (hQ : ∀ x, Q ⟨false, w⟩ x (ρ x)) :
    draw.InStep (.veiled o ρ d) E Q ⟨true, w⟩ draw := by
  refine .ask (.draw _) fun r r' hr => inStep_ofExcept (hr.mono (fun _ _ h => h ▸ hE _) ?_)
  rintro x _ rfl
  exact hQ x

/-- **A token is minted with the renamed secret, and all else the same.** -/
theorem veiled_storeToken (u : User) (kind : TokenKind) (seconds : Nat) (t : Instant)
    {Q : Phase → Token → Token → Prop} (hQ : ∀ x, Q ⟨false, w⟩ x (x.rename ρ)) :
    (storeToken cfg u kind seconds t).InStep (.veiled o ρ d) E Q ⟨false, w⟩
      (storeToken cfg u kind seconds t) := by
  refine inStep_bind (veiled_draw_identifier hE fun id => ?_)
  refine inStep_bind (veiled_draw_secret hE fun secret => ?_)
  cases t.addSeconds? seconds with
  | none => exact .crash
  | some expiry =>
    exact inStep_bind (veiled_tokens hE (.create _) fun _ _ _ => .done (hQ _))

theorem veiled_findToken (kind : TokenKind) (secret : String) {Q : Phase → Token → Token → Prop}
    (hQ : ∀ x, Q ⟨false, p.wrote⟩ x (x.rename ρ)) :
    (findToken cfg kind secret).InStep (.veiled o ρ d) E Q p (findToken cfg kind (ρ secret)) := by
  refine inStep_bind (veiled_tokens hE (.findBySecret secret) ?_)
  rintro t? _ rfl
  have hfilter : (t?.map (Token.rename ρ)).filter (·.kind == kind) =
      (t?.filter (·.kind == kind)).map (Token.rename ρ) := by
    rw [Option.filter_map]
    rfl
  rw [hfilter]
  cases t?.filter (·.kind == kind) with
  | none => exact .fail (hE _)
  | some t => exact .done (hQ t)

theorem veiled_checkAlive (t : Token) (time : Instant) {Q : Phase → Unit → Unit → Prop}
    (hQ : Q p () ()) :
    (checkAlive t time).InStep (.veiled o ρ d) E Q p (checkAlive (t.rename ρ) time) := by
  show (checkAlive t time).InStep (.veiled o ρ d) E Q p (checkAlive t time)
  unfold checkAlive
  split_ifs
  · exact .fail (hE _)
  · exact .fail (hE _)
  · exact .done hQ

theorem veiled_revoke (t : Token) {Q : Phase → Unit → Unit → Prop}
    (hQ : Q ⟨false, p.wrote⟩ () ()) :
    (revoke cfg t).InStep (.veiled o ρ d) E Q p (revoke cfg (t.rename ρ)) := by
  refine inStep_bind (veiled_tokens hE (.revokeIfActive t.secret) ?_)
  rintro active _ rfl
  cases active with
  | true => exact .done hQ
  | false => exact .fail (hE _)

theorem veiled_ensureCurrent (u : User) (t : Token) {Q : Phase → Unit → Unit → Prop}
    (hQ : Q ⟨false, false⟩ () ()) :
    (ensureCurrent cfg u t).InStep (.veiled o ρ d) E Q ⟨false, false⟩
      (ensureCurrent cfg u (t.rename ρ)) := by
  refine inStep_bind (veiled_users hE (.findById u.id) ?_)
  rintro _ current ⟨rfl, -⟩
  rw [show (t.rename ρ).credentialVersion = t.credentialVersion from rfl]
  split_ifs
  · exact .done hQ
  · exact inStep_bind (veiled_tokens hE (.blacklist t.secret) fun _ _ _ =>
      inStep_bind (veiled_log _ (.fail (hE _))))

theorem veiled_findAccount (email : String) {Q : Phase → Option User → Option User → Prop}
    (hQ : ∀ u?, (∀ u, u? = some u → u ∈ d.records) → Q ⟨false, false⟩ u? u?) :
    (findAccount cfg email).InStep (.veiled o ρ d) E Q ⟨false, false⟩ (findAccount cfg email) := by
  unfold findAccount
  cases EmailAddress.ofText email with
  | error e => exact .done (hQ none fun u hu => by cases hu)
  | ok address =>
    refine veiled_users hE (.findByEmail address) ?_
    rintro _ u? ⟨rfl, hu⟩
    exact hQ u? hu

/-- The account is not written, or with the digest that it has. -/
theorem veiled_markVerified (u : User) (t : Instant) {Q : Phase → User → User → Prop}
    (hQ : ∀ p v v', v.Like v' → Q p v v') :
    (markVerified cfg u t).InStep (.veiled o ρ d) E Q ⟨false, false⟩ (markVerified cfg u t) := by
  unfold markVerified
  split_ifs
  · exact .done (hQ _ _ _ ⟨_, rfl⟩)
  · refine inStep_mapFailure (veiled_tryUsers (.update ⟨_, rfl⟩) fun v v' h => hQ _ v v' h) ?_
    rintro e _ rfl
    exact hE _

end

theorem veiled_nextVersion (version : Int) {Q : Phase → Int → Int → Prop}
    (hQ : ∀ v, Q p v v) :
    (nextVersion version).InStep (.veiled o ρ d) E Q p (nextVersion version) := by
  unfold nextVersion
  split_ifs
  · exact .done (hQ _)
  · exact .crash

/-- The hasher is asked for the digest of a known account. -/
theorem veiled_verify {password password' : String} (h : o.Confuses d password password') {u : User}
    (hu : u ∈ d.records) {Q : Phase → Bool → Bool → Prop} (hQ : ∀ b, Q ⟨false, p.wrote⟩ b b) :
    (verify password (some u.passwordHash)).InStep (.veiled o ρ d) E Q p
      (verify password' (some u.passwordHash)) := by
  refine .ask (.verify h hu) fun b b' hb => ?_
  obtain rfl : b = b' := hb
  exact .done (hQ b)

/-- What a match without a digest comes to does not matter. -/
theorem veiled_verifyDecoy (password password' : String) {Q : Phase → Bool → Bool → Prop}
    (hQ : ∀ b b', Q ⟨false, p.wrote⟩ b b') :
    (verify password none).InStep (.veiled o ρ d) E Q p (verify password' none) :=
  .ask (.verifyDecoy password password') fun b b' _ => .done (hQ b b')

theorem veiled_deliver (id : UserId) (m : Mail) (secret : String) {Q : Phase → Unit → Unit → Prop}
    (hQ : Q ⟨false, p.wrote⟩ () ()) :
    (deliver cfg id m).InStep (.veiled o ρ d) E Q p
      (deliver cfg id { m with secret := secret }) := by
  refine .ask (.send cfg.mailLimit m secret) fun r r' hr => ?_
  obtain rfl : r = r' := hr
  cases mailError? cfg.mailLimit r with
  | none => exact .done hQ
  | some e => exact veiled_log _ hQ

theorem veiled_sendVerification (hE : ∀ e, E e e) (u : User) (t : Instant)
    {Q : Phase → Unit → Unit → Prop} (hQ : Q ⟨false, w⟩ () ()) :
    (sendVerification cfg u t).InStep (.veiled o ρ d) E Q ⟨false, w⟩ (sendVerification cfg u t) :=
  inStep_bind (veiled_storeToken hE _ _ _ _ fun _ =>
    inStep_bind (veiled_deliver _ _ _ (veiled_log _ hQ)))

end

/-! ### Operations -/

variable {cfg : Settings} {o : Surroundings} {ρ : String → String} {d : UserStore}

theorem veiled_register {form form' : Registration.Form} (h : form.Disguised o d form') :
    (register cfg form).InStep (.veiled o ρ d) AuthError.Veiled (fun _ _ _ => True) ⟨false, false⟩
      (register cfg form') := by
  have hsame : ∀ e, AuthError.Veiled e e := fun _ => .same
  refine inStep_bind (inStep_ofExcept (h.validate.mono (fun _ _ h => h) ?_))
  rintro valid _ rfl
  refine inStep_bind (veiled_users hsame (.existsByEmail valid.email) ?_)
  rintro taken _ rfl
  split_ifs
  · exact .fail .same
  refine inStep_bind (veiled_hash hsame h.confuses fun digest digest' => ?_)
  refine inStep_bind (veiled_now fun t => inStep_bind (veiled_draw_identifier hsame fun id => ?_))
  have hfirst : form'.firstName = form.firstName := by rw [h.rest]
  have hlast : form'.lastName = form.lastName := by rw [h.rest]
  rw [hfirst, hlast]
  refine inStep_bind (inStep_mapFailure (veiled_tryUsers (.create ⟨digest', rfl⟩) ?_) ?_)
  · rintro created _ ⟨digest'', rfl⟩
    refine inStep_bind (veiled_log _ (inStep_bind (veiled_deliver _ _ _ (inStep_bind ?_))))
    -- the error of a link that is not sent is logged, and has to be the same
    refine inStep_attempt (veiled_sendVerification (fun _ => rfl) created t ?_) ?_
    · exact .done trivial
    · rintro p e _ rfl
      exact inStep_bind (veiled_log _ (.done trivial))
  · rintro e _ rfl
    exact .same

theorem veiled_login (email : String) {password password' : String}
    (h : o.Confuses d password password') :
    (login cfg email password).InStep (.veiled o ρ d) AuthError.Veiled (fun _ _ _ => True)
      ⟨false, false⟩ (login cfg email password') := by
  have hsame : ∀ e, AuthError.Veiled e e := fun _ => .same
  refine inStep_bind (veiled_findAccount hsame email fun u? hu? => ?_)
  cases u? with
  | none =>
    exact inStep_bind (veiled_verifyDecoy _ _ fun _ _ => inStep_bind (veiled_log _ (.fail .same)))
  | some u =>
    refine inStep_bind (veiled_verify h (hu? u rfl) fun matched => ?_)
    split_ifs
    · refine inStep_bind (veiled_now fun t => inStep_bind (veiled_issue hsame u t fun access => ?_))
      refine inStep_bind (veiled_storeToken hsame u .refresh refreshSeconds t fun token => ?_)
      exact inStep_bind (veiled_log _ (.done trivial))
    · exact inStep_bind (veiled_log _ (.fail .same))
    · exact inStep_bind (veiled_log _ (.fail .same))

theorem veiled_logout (secret : String) :
    (logout cfg secret).InStep (.veiled o ρ d) AuthError.Veiled (fun _ _ _ => True)
      ⟨false, false⟩ (logout cfg (ρ secret)) :=
  inStep_bind (veiled_tokens (fun _ => .same) (.blacklist secret) fun _ _ _ => veiled_log _ trivial)

theorem veiled_refresh (secret : String) :
    (refresh cfg secret).InStep (.veiled o ρ d) AuthError.Veiled (fun _ _ _ => True)
      ⟨false, false⟩ (refresh cfg (ρ secret)) := by
  have hsame : ∀ e, AuthError.Veiled e e := fun _ => .same
  refine inStep_bind (veiled_now fun t => inStep_bind (veiled_findToken hsame _ _ fun token => ?_))
  refine inStep_bind (veiled_checkAlive hsame token t ?_)
  refine inStep_bind (veiled_users hsame (.findById token.userId) ?_)
  rintro _ u? ⟨rfl, -⟩
  refine inStep_bind (veiled_ofOption hsame _ fun u _ => ?_)
  rw [show (token.rename ρ).credentialVersion = token.credentialVersion from rfl]
  split_ifs
  · exact .fail .same
  · exact inStep_bind (veiled_log _ (.fail .same))
  · refine inStep_bind (veiled_issue hsame u t fun access => ?_)
    refine inStep_bind (veiled_revoke hsame token ?_)
    refine inStep_bind (veiled_storeToken hsame u .refresh refreshSeconds t fun successor => ?_)
    exact inStep_bind (veiled_ensureCurrent hsame u successor
      (inStep_bind (veiled_log _ (.done trivial))))
  · exact inStep_bind (veiled_issue hsame u t fun access => .done trivial)

theorem veiled_validate {token token' : String} (h : Untold token token') {p : Phase}
    {Q : Phase → Jwt.Identity → Jwt.Identity → Prop} (hQ : ∀ x, Q ⟨false, p.wrote⟩ x x) :
    (validate token).InStep (.veiled o ρ d) AuthError.Veiled Q p (validate token') := by
  refine inStep_bind (veiled_now fun t => .ask (.parse t h) fun r r' hr => ?_)
  obtain rfl : r = r' := hr
  exact inStep_ofExcept (.refl (fun _ => .same) hQ _)

theorem veiled_changePassword (id : UserId) {old old' new new' : String}
    (hold : o.Confuses d old old') (hnew : o.Confuses d new new') :
    (changePassword cfg id old new).InStep (.veiled o ρ d) AuthError.Veiled (fun _ _ _ => True)
      ⟨false, false⟩ (changePassword cfg id old' new') := by
  have hsame : ∀ e, AuthError.Veiled e e := fun _ => .same
  refine inStep_bind (veiled_users hsame (.findById id) ?_)
  rintro _ u? ⟨rfl, hu?⟩
  refine inStep_bind (veiled_ofOption hsame _ fun u hu => ?_)
  refine inStep_bind (veiled_verify hold (hu? u hu) fun matched => ?_)
  split_ifs
  · cases hw : Password.weakness? new with
    | some x =>
      cases hw' : Password.weakness? new' with
      | some x' => exact .fail (.entry trivial trivial)
      | none =>
        rw [hnew.strength.2 hw'] at hw
        cases hw
    | none =>
      rw [hnew.strength.1 hw]
      refine inStep_bind (veiled_hash hsame hnew fun digest digest' => ?_)
      refine inStep_bind (veiled_nextVersion _ fun version => inStep_bind (veiled_now fun t => ?_))
      refine inStep_bind (inStep_mapFailure (veiled_tryUsers (.update ⟨digest', rfl⟩) ?_) ?_)
      · rintro stored _ ⟨digest'', rfl⟩
        exact inStep_bind (veiled_tokens hsame (.deleteAllForUser stored.id) fun revoked _ h =>
          h ▸ veiled_log _ trivial)
      · rintro e _ rfl
        exact .same
  · exact .fail .same

theorem veiled_verifyEmail (secret : String) :
    (verifyEmail cfg secret).InStep (.veiled o ρ d) AuthError.Veiled (fun _ _ _ => True)
      ⟨false, false⟩ (verifyEmail cfg (ρ secret)) := by
  have hsame : ∀ e, AuthError.Veiled e e := fun _ => .same
  refine inStep_bind (veiled_now fun t => inStep_bind (veiled_findToken hsame _ _ fun token => ?_))
  refine inStep_bind (veiled_checkAlive hsame token t (inStep_bind (veiled_revoke hsame token ?_)))
  refine inStep_bind (veiled_users hsame (.findById token.userId) ?_)
  rintro _ u? ⟨rfl, -⟩
  refine inStep_bind (veiled_ofOption hsame _ fun u _ => ?_)
  refine inStep_bind (veiled_markVerified hsame u t ?_)
  rintro p v _ ⟨digest, rfl⟩
  exact inStep_bind (veiled_log _ (.done trivial))

theorem veiled_resendVerification (email : String) :
    (resendVerification cfg email).InStep (.veiled o ρ d) AuthError.Veiled (fun _ _ _ => True)
      ⟨false, false⟩ (resendVerification cfg email) := by
  have hsame : ∀ e, AuthError.Veiled e e := fun _ => .same
  unfold resendVerification
  cases EmailAddress.ofText email with
  | error e => exact .fail .same
  | ok address =>
    refine inStep_bind (veiled_users hsame (.findByEmail address) ?_)
    rintro _ u? ⟨rfl, -⟩
    cases u?.filter isPending with
    | none => exact veiled_log _ trivial
    | some u => exact inStep_bind (veiled_now fun t => veiled_sendVerification hsame u t trivial)

end Service

theorem veiled_sweepOnce {o : Surroundings} {ρ : String → String} {d : UserStore} (limit : Span) :
    (sweepOnce limit).InStep (.veiled o ρ d) Eq (fun _ _ _ => True) ⟨false, false⟩
      (sweepOnce limit) := by
  refine .ask (.same trivial) fun t t' ht => ?_
  obtain rfl : t = t' := ht
  refine .ask (.tokens limit (.sweepExpired t)) fun r r' hr => ?_
  cases hr with
  | none => exact .fail rfl
  | some hr =>
    cases hr with
    | ok _ => exact .done trivial
    | error h => exact .fail (congrArg _ h)

/-! ## Calls -/

/-- A call, and the same call in disguise. -/
inductive Call.Disguised (o : Surroundings) (ρ : String → String) (d : UserStore) :
    Call → Call → Prop
  | register {form form'} : form.Disguised o d form' →
      Disguised o ρ d (.register form) (.register form')
  | login (email) {password password'} : o.Confuses d password password' →
      Disguised o ρ d (.login email password) (.login email password')
  | logout (secret) : Disguised o ρ d (.logout secret) (.logout (ρ secret))
  | refresh (secret) : Disguised o ρ d (.refresh secret) (.refresh (ρ secret))
  | validate {token token'} : Untold token token' →
      Disguised o ρ d (.validate token) (.validate token')
  | changePassword (id) {old old' new new'} : o.Confuses d old old' → o.Confuses d new new' →
      Disguised o ρ d (.changePassword id old new) (.changePassword id old' new')
  | verifyEmail (secret) : Disguised o ρ d (.verifyEmail secret) (.verifyEmail (ρ secret))
  | resendVerification (email) : Disguised o ρ d (.resendVerification email)
      (.resendVerification email)
  | sweep (limit) : Disguised o ρ d (.sweep limit) (.sweep limit)

/-- **A call and the same call in disguise have exchanges that go together one by one.** -/
theorem Call.Disguised.together {o : Surroundings} {ρ : String → String} {d : UserStore}
    {c c' : Call} (h : c.Disguised o ρ d c') (cfg : Settings)
    (hkept : (Accord.veiled o ρ d).Kept (Scene.Disguised ρ d) (Scene.next o)
      (Scene.nextRenamed o ρ))
    {s : Scene} {s' : Scene × Bool} (hs : Scene.Disguised ρ d ⟨false, false⟩ s s') :
    List.Forall₂ (Accord.veiled o ρ d).Together ((c.flow cfg).record (Scene.next o) s)
      ((c'.flow cfg).record (Scene.nextRenamed o ρ) s') := by
  -- the operation is named in full, so that no flow is unfolded to find it
  cases h with
  | register hform =>
    have hstep := @Service.veiled_register cfg o ρ d _ _ hform
    exact (hstep.run hkept hs).1
  | login email hpassword =>
    have hstep := @Service.veiled_login cfg o ρ d email _ _ hpassword
    exact (hstep.run hkept hs).1
  | logout secret =>
    have hstep := @Service.veiled_logout cfg o ρ d secret
    exact (hstep.run hkept hs).1
  | refresh secret =>
    have hstep := @Service.veiled_refresh cfg o ρ d secret
    exact (hstep.run hkept hs).1
  | validate htoken =>
    have hstep := @Service.veiled_validate o ρ d _ _ htoken ⟨false, false⟩ (fun _ _ _ => True)
      fun _ => trivial
    exact (hstep.run hkept hs).1
  | changePassword id hold hnew =>
    have hstep := @Service.veiled_changePassword cfg o ρ d id _ _ _ _ hold hnew
    exact (hstep.run hkept hs).1
  | verifyEmail secret =>
    have hstep := @Service.veiled_verifyEmail cfg o ρ d secret
    exact (hstep.run hkept hs).1
  | resendVerification email =>
    have hstep := @Service.veiled_resendVerification cfg o ρ d email
    exact (hstep.run hkept hs).1
  | sweep limit =>
    have hstep := @veiled_sweepOnce o ρ d limit
    exact (hstep.run hkept hs).1

end Gatehouse
