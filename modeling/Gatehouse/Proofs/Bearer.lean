/-
  Gatehouse — routes that act for the bearer of an access token.

  Two routes look at the `Authorization` header before all else. Unless the token in it is accepted
  they answer nothing but that; otherwise one of them tells what the token says, and the other
  changes the password of the user that the token names, and of nobody else.

  * `Http.bearerToken_iff`: the token that is found in the headers is the one that a request bears;
  * `Jwt.Signer.refuses_decode`: a token that is not accepted is the bearer's fault;
  * `Stores.Confined.serve`, `Service.changePassword_concerns`: what a change of the password may
    touch, question by question;
  * `Http.acts_for_bearer`: what the two routes do.
-/
import Gatehouse.Proofs.AccessTokens
import Gatehouse.Proofs.Calm
import Gatehouse.Proofs.Handling
import Gatehouse.Proofs.Normalization

namespace Gatehouse

/-! ## The token in the headers -/

namespace Http

theorem behind?_iff {p cs rest : List Char} : behind? p cs = some rest ↔ cs = p ++ rest := by
  induction p generalizing cs with
  | nil =>
    unfold behind?
    rw [Option.some_inj, List.nil_append]
  | cons c p ih =>
    cases cs with
    | nil => simp [behind?]
    | cons d cs =>
      unfold behind?
      rw [List.cons_append, List.cons.injEq]
      by_cases h : c = d
      · rw [if_pos h, ih]
        simp [h]
      · rw [if_neg h]
        simp [Ne.symm h]

/-- The first `Authorization` header of the request is readable, and says `Bearer ` and then the
    token, up to blanks around it. -/
def Request.Bears (r : Request) (token : String) : Prop :=
  ∃ before h after rest, r.headers = before ++ h :: after ∧
    (∀ x ∈ before, x.name.toLower ≠ "authorization") ∧ h.name.toLower = "authorization" ∧
    (∀ c ∈ h.value.toList, isVisible c = true) ∧
    h.value.toList = "Bearer ".toList ++ rest ∧
    token.toList = Text.trimChars rest ∧ token ≠ ""

/-- The first header with a name, if it is readable. -/
theorem header?_iff {headers : List Header} {name value : String} :
    header? headers name = some value ↔
      ∃ before h after, headers = before ++ h :: after ∧
        (∀ x ∈ before, x.name.toLower ≠ name) ∧ h.name.toLower = name ∧
        h.value = value ∧ ∀ c ∈ value.toList, isVisible c = true := by
  unfold header?
  rw [Option.filter_eq_some_iff, Option.map_eq_some_iff, List.all_eq_true]
  constructor
  · rintro ⟨⟨h, hfind, hvalue⟩, hvisible⟩
    obtain ⟨hname, before, after, hheaders, hbefore⟩ := List.find?_eq_some_iff_append.1 hfind
    refine ⟨before, h, after, hheaders, ?_, by simpa using hname, hvalue, hvisible⟩
    intro x hx
    simpa using hbefore x hx
  · rintro ⟨before, h, after, hheaders, hbefore, hname, hvalue, hvisible⟩
    refine ⟨⟨h, ?_, hvalue⟩, hvisible⟩
    refine List.find?_eq_some_iff_append.2 ⟨by simpa using hname, before, after, hheaders, ?_⟩
    intro x hx
    simpa using hbefore x hx

/-- What is left of a value behind `Bearer `, without blanks around it. -/
theorem bearerToken_eq_some_iff {headers : List Header} {token : String} :
    bearerToken headers = some token ↔
      ∃ value rest, header? headers "authorization" = some value ∧
        value.toList = "Bearer ".toList ++ rest ∧ token.toList = Text.trimChars rest ∧
        token ≠ "" := by
  unfold bearerToken
  simp only [Option.bind_eq_bind, Option.bind_eq_some_iff, behind?_iff, ← exists_and_left]
  refine exists_congr fun value => exists_congr fun rest => and_congr_right fun _ =>
    and_congr_right fun _ => ?_
  rw [Option.ite_none_left_eq_some, Option.some_inj, List.isEmpty_iff]
  constructor
  · rintro ⟨hne, rfl⟩
    refine ⟨String.toList_ofList, ?_⟩
    intro hempty
    exact hne (by rw [← String.toList_ofList (l := Text.trimChars rest), hempty]; rfl)
  · rintro ⟨htoken, hne⟩
    rw [← htoken]
    exact ⟨fun hempty => hne (String.toList_inj.1 hempty), String.ofList_toList⟩

/-- **The token that is found in the headers is the one that the request bears.** -/
theorem bearerToken_iff {r : Request} {token : String} :
    bearerToken r.headers = some token ↔ r.Bears token := by
  rw [bearerToken_eq_some_iff]
  constructor
  · rintro ⟨value, rest, hheader, hrest⟩
    obtain ⟨before, h, after, hheaders, hbefore, hname, rfl, hvisible⟩ := header?_iff.1 hheader
    exact ⟨before, h, after, rest, hheaders, hbefore, hname, hvisible, hrest⟩
  · rintro ⟨before, h, after, rest, hheaders, hbefore, hname, hvisible, hrest⟩
    have hheader : header? r.headers "authorization" = some h.value :=
      header?_iff.2 ⟨before, h, after, hheaders, hbefore, hname, rfl, hvisible⟩
    exact ⟨h.value, rest, hheader, hrest⟩

end Http

/-! ## Tokens that are not accepted -/

namespace Jwt

/-- The result is not that a token could not be written. -/
def Refuses {α : Type} (x : Except Error α) : Prop :=
  ∀ reason, x ≠ .error (.encodingFailed reason)

theorem refuses_ok {α : Type} (a : α) : Refuses (.ok a) := by
  intro reason h
  cases h

theorem refuses_error {α : Type} {e : Error} (h : ∀ reason, e ≠ .encodingFailed reason) :
    Refuses (.error e : Except Error α) := by
  rintro reason ⟨⟩
  exact h reason rfl

theorem refuses_bind {α β : Type} {x : Except Error α} {f : α → Except Error β} (hx : Refuses x)
    (hf : ∀ a, Refuses (f a)) : Refuses (x >>= f) := by
  cases x with
  | ok a => exact hf a
  | error e => exact refuses_error fun reason he => hx reason (congrArg _ he)

theorem refuses_mapError {ε α : Type} (x : Except ε α) (how : ε → Malformation) :
    Refuses (x.mapError fun e => (how e).error) := by
  cases x with
  | ok a => exact refuses_ok a
  | error e => exact refuses_error fun reason he => by cases he

/-- A check that throws, and what comes after it. -/
theorem refuses_check {α : Type} {p : Prop} [Decidable p] {e : Error} {f : Unit → Except Error α}
    (he : ∀ reason, e ≠ .encodingFailed reason) (hf : Refuses (f ())) :
    Refuses (if p then throw e >>= f else f ()) := by
  split_ifs
  · exact refuses_error he
  · exact hf

namespace Signer

variable (s : Signer) (token : String) (now : Instant)

theorem refuses_open : Refuses (s.open? token) := by
  unfold open?
  split
  · split
    · refine refuses_bind (refuses_mapError _ _) fun header => ?_
      refine refuses_bind (refuses_mapError _ _) fun name => ?_
      dsimp only
      refine refuses_check (fun reason he => by cases he) ?_
      refine refuses_check (fun reason he => by cases he) ?_
      refine refuses_bind (refuses_mapError _ _) fun bytes => ?_
      refine refuses_bind (refuses_mapError _ _) fun claims => ?_
      exact refuses_bind (refuses_mapError _ _) fun expiry => refuses_ok _
    · exact refuses_error fun reason he => by cases he
  · exact refuses_error fun reason he => by cases he

/-- A token that is not accepted is not accepted for what it is. -/
theorem refuses_decode : Refuses (s.decode token now) := by
  unfold decode
  refine refuses_bind (refuses_open s token) fun opened => ?_
  dsimp only
  refine refuses_check (fun reason he => by cases he) ?_
  refine refuses_check (fun reason he => by cases he) ?_
  refine refuses_check (fun reason he => by cases he) ?_
  refine refuses_check (fun reason he => by cases he) ?_
  exact refuses_ok _

end Signer

end Jwt

/-- Access tokens are checked by the signer. -/
def Surroundings.Decodes (o : Surroundings) (signer : Jwt.Signer) : Prop :=
  ∀ n token t, o.reply n (.parse token t) =
    (signer.identify token t).mapError Jwt.Error.toAccessTokenError

/-! ## Changes that concern one user -/

/-- Nothing has changed but the record of one user, and no token is gone but of that user. -/
structure Stores.Confined (id : UserId) (d after : Stores) : Prop where
  ids : after.users.records.map (·.id) = d.users.records.map (·.id)
  users : after.users.records.filter (·.id ≠ id) = d.users.records.filter (·.id ≠ id)
  fewer : after.tokens.records.Sublist d.tokens.records
  tokens : after.tokens.records.filter (·.userId ≠ id) = d.tokens.records.filter (·.userId ≠ id)

/-- The question may change the record of one user and drop the tokens of that user, and changes
    nothing else that is stored. -/
def Ask.Concerns (id : UserId) : Ask → Prop
  | .users _ (.create _) => False
  | .users _ (.update u) => u.id = id
  | .tokens _ (.create _) => False
  | .tokens _ (.blacklist _) => False
  | .tokens _ (.revokeIfActive _) => False
  | .tokens _ (.deleteAllForUser i) => i = id
  | .tokens _ (.sweepExpired _) => False
  | _ => True

namespace Stores.Confined

variable {id : UserId} {d d' d'' : Stores}

theorem refl (id : UserId) (d : Stores) : d.Confined id d := ⟨rfl, rfl, List.Sublist.refl _, rfl⟩

theorem trans (h : d.Confined id d') (h' : d'.Confined id d'') : d.Confined id d'' where
  ids := h'.ids.trans h.ids
  users := h'.users.trans h.users
  fewer := h'.fewer.trans h.fewer
  tokens := h'.tokens.trans h.tokens

theorem replace {u : User} (hu : u.id = id) (d : Stores) :
    d.Confined id { d with users := d.users.replace u } where
  ids := by
    unfold UserStore.replace
    rw [List.map_map]
    refine List.map_congr_left fun v _ => ?_
    by_cases h : v.id = u.id
    · simp [h]
    · simp [h]
  users := by
    unfold UserStore.replace
    induction d.users.records with
    | nil => rfl
    | cons v records ih =>
      rw [List.map_cons, List.filter_cons, List.filter_cons, ih]
      by_cases h : v.id = u.id
      · simp [h, hu]
      · simp [h]
  fewer := List.Sublist.refl _
  tokens := rfl

theorem dropAll (id : UserId) (d : Stores) :
    d.Confined id { d with tokens := d.tokens.dropAll (TokenStore.isOwnedBy id) } where
  ids := rfl
  users := rfl
  fewer := List.filter_sublist
  tokens := by
    unfold TokenStore.dropAll
    rw [List.filter_filter]
    refine List.filter_congr fun t _ => ?_
    by_cases h : t.userId = id
    · simp [h]
    · simp [TokenStore.isOwnedBy, h]

theorem performUsers {limit : Span} {c : UserCall} (hq : (Ask.users limit c).Concerns id)
    (d : Stores) : d.Confined id { d with users := (d.users.perform c).2 } := by
  cases c with
  | create u => exact hq.elim
  | update u =>
    unfold UserStore.perform UserStore.committed
    dsimp only
    split
    · rename_i after hupdate
      obtain ⟨-, rfl⟩ := UserStore.update_ok hupdate
      exact replace hq d
    · exact refl id d
  | _ => exact refl id d

theorem performTokens {limit : Span} {c : TokenCall} (hq : (Ask.tokens limit c).Concerns id)
    (d : Stores) : d.Confined id { d with tokens := (d.tokens.perform c).2 } := by
  cases c with
  | deleteAllForUser i =>
    cases hq
    exact dropAll id d
  | findBySecret secret => exact refl id d
  | _ => exact hq.elim

/-- What a question changes concerns the user that the question concerns. -/
theorem serve {q : Ask} (hq : q.Concerns id) (o : Surroundings) (n : Nat) (d : Stores) :
    d.Confined id (d.serve o n q).2.2 := by
  cases q with
  | users limit c =>
    show d.Confined id (if _ then _ else _)
    split_ifs
    · exact performUsers hq d
    · exact refl id d
  | tokens limit c =>
    show d.Confined id (if _ then _ else _)
    split_ifs
    · exact performTokens hq d
    · exact refl id d
  | _ => exact refl id d

end Stores.Confined

namespace Service

open Gatehouse.Flow

/-- **A change of the password touches the record and the tokens of the one user.** -/
theorem changePassword_concerns (cfg : Settings) (id : UserId) (old new : String) (h : History) :
    Meets (fun _ q => q.Concerns id) (fun _ _ => True) h (changePassword cfg id old new) := by
  refine meets_bind (meets_users trivial fun u? hu => ?_)
  refine meets_bind (meets_ofOption fun u hu' => ?_)
  subst hu'
  have hid : u.id = id := hu
  refine meets_bind (meets_verify trivial fun good => ?_)
  split_ifs
  · cases Password.weakness? new with
    | some w => exact .fail
    | none =>
      refine meets_bind (meets_hash trivial fun digest => ?_)
      refine meets_bind (meets_nextVersion ?_)
      refine meets_bind (meets_now trivial fun now => ?_)
      refine meets_bind (meets_mapFailure (meets_tryUsers hid fun v hv => ?_))
      -- the store hands back the record it was given
      have hv : v.id = id := (congrArg User.id hv).trans hid
      refine meets_bind (meets_tokens hv fun revoked _ => ?_)
      exact meets_log trivial trivial
  · exact .fail

end Service

/-! ## The two routes -/

/-- The time of day that is read for a request that comes next, once it is written to the log. -/
def Scene.clock (o : Surroundings) (s : Scene) : Instant := o.reply (s.moment + 1) .now

/-- What the claims say of their bearer. -/
def Jwt.Claims.identity (c : Jwt.Claims) : Jwt.Identity where
  userId := c.sub
  email := c.email
  userName := c.userName
  expiresAt := c.expiresAt

namespace Http

open Gatehouse.Flow

variable {cfg : Settings} {o : Surroundings} {signer : Jwt.Signer} {r : Request} {s : Scene}
  {next : Jwt.Identity → Flow Empty Response} {Ψ : Ending Empty Response → Scene → Prop}

/-- The signer accepts the token that the request bears. -/
def Request.Presents (r : Request) (signer : Jwt.Signer) (now : Instant) (claims : Jwt.Claims) :
    Prop :=
  ∃ token, r.Bears token ∧ signer.decode token now = .ok claims

/-- A token is checked at the time of day. -/
theorem ensures_validate (ho : o.Decodes signer) {token : String}
    {Ψ : Ending AuthError Jwt.Identity → Scene → Prop}
    (ha : ∀ claims (s' : Scene), signer.decode token (o.reply s.moment .now) = .ok claims →
      s'.toStores = s.toStores → Ψ (.done claims.identity) s')
    (he : ∀ e (s' : Scene), signer.decode token (o.reply s.moment .now) = .error e →
      s'.toStores = s.toStores → Ψ (.failed e.toAccessTokenError.toAuthError) s') :
    (Service.validate token).Ensures o s Ψ := by
  refine ensures_bind (Service.ensures_now ?_)
  have hreply := ho (s.moment + 1) token (o.reply s.moment .now)
  unfold Jwt.Signer.identify at hreply
  unfold Ensures
  simp only [Flow.run, Scene.next, Stores.serve]
  generalize o.reply (s.moment + 1) (.parse token (o.reply s.moment .now)) = reply at hreply ⊢
  subst hreply
  cases hdecode : signer.decode token (o.reply s.moment .now) with
  | ok claims => exact ha claims _ hdecode rfl
  | error e => exact he e _ hdecode rfl

theorem status_of_refused {e : Jwt.Error} (h : ∀ reason, e ≠ .encodingFailed reason) :
    (Refusal.ofAuth e.toAccessTokenError.toAuthError).response.status = 401 := by
  cases e with
  | encodingFailed reason => exact absurd rfl (h reason)
  | _ => rfl

theorem Request.Presents.unique {now : Instant} {claims claims' : Jwt.Claims}
    (h : r.Presents signer now claims) (h' : r.Presents signer now claims') : claims' = claims := by
  obtain ⟨token, hbears, hdecode⟩ := h
  obtain ⟨token', hbears', hdecode'⟩ := h'
  cases (bearerToken_iff.2 hbears).symm.trans (bearerToken_iff.2 hbears')
  exact Except.ok.inj (hdecode'.symm.trans hdecode)

/-- **Without a token that is accepted the answer is 401, and nothing is done; with such a token
    the route goes on for its bearer.** -/
theorem ensures_authenticated (ho : o.Decodes signer)
    (haway : (∀ claims, ¬ r.Presents signer (o.reply s.moment .now) claims) →
      ∀ (p : Response) (s' : Scene), p.status = 401 → s'.toStores = s.toStores → Ψ (.done p) s')
    (hin : ∀ claims, r.Presents signer (o.reply s.moment .now) claims →
      ∀ s' : Scene, s'.toStores = s.toStores → (next claims.identity).Ensures o s' Ψ) :
    (authenticated r next).Ensures o s Ψ := by
  unfold authenticated
  cases hbearer : bearerToken r.headers with
  | none =>
    refine haway ?_ _ s rfl rfl
    rintro claims ⟨token, hbears, -⟩
    rw [bearerToken_iff.2 hbears] at hbearer
    cases hbearer
  | some token =>
    have hbears := bearerToken_iff.1 hbearer
    refine ensures_bind (ensures_attempt (ensures_validate ho ?_ ?_))
    · intro claims s' hdecode hs'
      exact hin claims ⟨token, hbears, hdecode⟩ s' hs'
    · intro e s' hdecode hs'
      refine ensures_refuse fun s'' hs'' => haway ?_ _ s'' ?_ (hs''.trans hs')
      · rintro claims ⟨token', hbears', hdecode'⟩
        cases hbearer.symm.trans (bearerToken_iff.2 hbears')
        cases hdecode.symm.trans hdecode'
      · refine status_of_refused fun reason he => ?_
        exact signer.refuses_decode token _ reason (he ▸ hdecode)

/-- Changing the password answers somehow, and touches nothing but what is the caller's. -/
theorem ensures_changePassword (caller : Jwt.Identity) :
    (changePassword cfg r caller).Ensures o s fun _ s' =>
      s.toStores.Confined ⟨caller.userId⟩ s'.toStores := by
  have hmeets : (changePassword cfg r caller).Meets (fun _ q => q.Concerns ⟨caller.userId⟩)
      (fun _ _ => True) [] := by
    refine meets_withBody (fun entry => ?_) fun _ => trivial
    refine meets_respondWith (Service.changePassword_concerns cfg _ _ _ _) (fun _ => trivial) ?_
    intro h e
    exact meets_refuse (fun _ => trivial) trivial
  refine (hmeets.run (I := fun s' : Scene => s.toStores.Confined ⟨caller.userId⟩ s'.toStores) ?_
    (.refl _ _)).1
  intro q s' hq hs'
  exact ⟨Scene.fits_next o q s', hs'.trans (Stores.Confined.serve hq o s'.moment s'.toStores)⟩

/-- A route that asks for a token before all else, and what it does for the bearer. -/
theorem ensures_protected (ho : o.Decodes signer) (hmethod : r.method ≠ "OPTIONS") {route : Route}
    (hroute : Route.ofPath? r.path = some route)
    (hguarded : guarded cfg r route = authenticated r next)
    {Φ : Jwt.Claims → Ending Empty Response → Scene → Prop}
    (hin : ∀ claims (s' : Scene), s'.toStores = s.toStores →
      (next claims.identity).Ensures o s' fun e s'' =>
        match e with
        | .done p => Φ claims (.done (p.onRoute route r.method).forAnyOrigin)
            { s'' with moment := s''.moment + 1 }
        | .failed e => Φ claims (.failed e) s''
        | .crashed x => Φ claims (.crashed x) s'') :
    (respond cfg r).Ensures o s fun e s' =>
      ((∀ claims, ¬ r.Presents signer (s.clock o) claims) →
        (∃ p, e = .done p ∧ p.status = 401) ∧ s'.toStores = s.toStores) ∧
      ∀ claims, r.Presents signer (s.clock o) claims → Φ claims e s' := by
  refine ensures_respond hmethod hroute ?_
  rw [hguarded]
  refine ensures_authenticated ho ?_ ?_
  · intro hnone p s' hp hs'
    refine ⟨fun _ => ⟨⟨_, rfl, hp⟩, hs'⟩, ?_⟩
    intro claims hclaims
    exact absurd hclaims (hnone claims)
  · intro claims hclaims s' hs'
    have honly : ∀ {e : Ending Empty Response} {s' : Scene}, Φ claims e s' →
        ∀ claims', r.Presents signer (s.clock o) claims' → Φ claims' e s' := by
      intro e s' hΦ claims' hclaims'
      rwa [Request.Presents.unique hclaims hclaims']
    refine (hin claims s' hs').mono ?_
    intro e s'' hΦ
    cases e with
    | done p => exact ⟨fun hnone => absurd hclaims (hnone claims), honly hΦ⟩
    | failed e => cases e
    | crashed x => exact ⟨fun hnone => absurd hclaims (hnone claims), honly hΦ⟩

/-- What is done for a bearer with these claims: the one route tells exactly what they say, and the
    other touches nothing but what is their user's. -/
def ActsFor (claims : Jwt.Claims) (r : Request) (d : Stores) (e : Ending Empty Response)
    (after : Stores) : Prop :=
  (r.path = "/api/auth/me" → after = d ∧ ∃ p, e = .done p ∧ p.status = 200 ∧
    p.body = (wrap 200 (.object [("user_id", .text claims.sub), ("email", .text claims.email),
      ("user_name", .text claims.userName),
      ("expires_at", .text claims.expiresAt.text)])).render) ∧
  (r.path = "/api/auth/password" → d.Confined ⟨claims.sub⟩ after)

/-- **Two routes act for the bearer of an access token alone.** Unless the first `Authorization`
    header is readable and bears a token that the signer accepts at that time, the answer is 401 and
    the stores are as they were, whatever the body. With such a token `GET /api/auth/me` tells
    exactly what the token says, and `POST /api/auth/password` changes no record and drops no tokens
    but those of the user whom the token names. -/
theorem acts_for_bearer (cfg : Settings) {o : Surroundings} {signer : Jwt.Signer}
    (ho : o.Decodes signer) (s : Scene) (r : Request)
    (hroute : r.method = "GET" ∧ r.path = "/api/auth/me" ∨
      r.method = "POST" ∧ r.path = "/api/auth/password") :
    let outcome := (respond cfg r).run (Scene.next o) s
    ((∀ claims, ¬ r.Presents signer (s.clock o) claims) →
      (∃ p, outcome.1 = .done p ∧ p.status = 401) ∧ outcome.2.toStores = s.toStores) ∧
    ∀ claims, r.Presents signer (s.clock o) claims →
      ActsFor claims r s.toStores outcome.1 outcome.2.toStores := by
  intro outcome
  rcases hroute with ⟨hmethod, hpath⟩ | ⟨hmethod, hpath⟩
  · have hguarded : guarded cfg r .me = authenticated r fun caller => me caller := by
      unfold guarded
      rw [hmethod]
      rfl
    refine ensures_protected (Φ := fun claims e s' => ActsFor claims r s.toStores e s'.toStores) ho
      (by rw [hmethod]; decide) (by rw [hpath]; rfl) hguarded ?_
    intro claims s' hs'
    refine ⟨fun _ => ⟨hs', _, rfl, rfl, ?_⟩, ?_⟩
    · rw [hmethod]
      rfl
    · intro hpassword
      rw [hpath] at hpassword
      exact absurd hpassword (by decide)
  · have hguarded : guarded cfg r .password =
        authenticated r fun caller => changePassword cfg r caller := by
      unfold guarded
      rw [hmethod]
      rfl
    refine ensures_protected (Φ := fun claims e s' => ActsFor claims r s.toStores e s'.toStores) ho
      (by rw [hmethod]; decide) (by rw [hpath]; rfl) hguarded ?_
    intro claims s' hs'
    refine (ensures_changePassword claims.identity).mono ?_
    intro e s'' hconfined
    rw [hs'] at hconfined
    have hacts : ∀ e, ActsFor claims r s.toStores e s''.toStores := by
      intro e
      refine ⟨?_, fun _ => hconfined⟩
      intro hme
      rw [hpath] at hme
      exact absurd hme (by decide)
    cases e with
    | done p => exact hacts _
    | failed e => cases e
    | crashed x => exact hacts _

/-- The letters of a token are no blanks, and can stand in a header. -/
theorem plain_symbol : ∀ n < 64, isVisible (Base64.Alphabet.urlSafe.symbol n) = true ∧
    Text.isBlank (Base64.Alphabet.urlSafe.symbol n) = false := by decide

theorem plain_of_mem_sign {signer : Jwt.Signer} {claims : Jwt.Claims} {c : Char}
    (hc : c ∈ (signer.sign claims).toList) : isVisible c = true ∧ Text.isBlank c = false := by
  have hletter : ∀ {bytes : List UInt8}, c ∈ Jwt.base64 bytes →
      isVisible c = true ∧ Text.isBlank c = false := by
    intro bytes hc
    obtain ⟨n, hn, rfl⟩ := Base64.mem_encode _ hc
    exact plain_symbol n hn
  have hdot : isVisible '.' = true ∧ Text.isBlank '.' = false := by decide
  unfold Jwt.Signer.sign Jwt.Signer.signedPart at hc
  simp only [String.toList_ofList, List.mem_append, List.mem_cons] at hc
  rcases hc with (hc | rfl | hc) | rfl | hc
  · exact hletter hc
  · exact hdot
  · exact hletter hc
  · exact hdot
  · exact hletter hc

/-- A token that was signed can be borne as it is. -/
theorem bears_sign (signer : Jwt.Signer) (claims : Jwt.Claims) (method target : String)
    (peer : Option Address) (body : List UInt8) :
    Request.Bears ⟨method, target, [⟨"Authorization", "Bearer " ++ signer.sign claims⟩], peer, body⟩
      (signer.sign claims) := by
  have hname : "Authorization".toLower = "authorization" := by decide +kernel
  have hscheme : "Bearer ".toList.all isVisible = true := by decide
  refine ⟨[], _, [], (signer.sign claims).toList, rfl, by simp, hname, ?_, ?_, ?_, ?_⟩
  · intro c hc
    rw [String.toList_append, List.mem_append] at hc
    rcases hc with hc | hc
    · exact List.all_eq_true.1 hscheme c hc
    · exact (plain_of_mem_sign hc).1
  · exact String.toList_append
  · refine (Text.Trimmed.trimChars_eq ⟨?_, ?_⟩).symm
    · intro c hc
      exact (plain_of_mem_sign (List.mem_of_mem_head? hc)).2
    · intro c hc
      exact (plain_of_mem_sign (List.mem_of_mem_getLast? hc)).2
  · intro hempty
    have := congrArg String.length hempty
    simp [Jwt.Signer.sign] at this

/-- The clerk checks access tokens, at the second 899. -/
def attended : Surroundings where
  reply
    | _, .now => ⟨899, 0⟩
    | _, .parse token t => (Jwt.Signer.clerk.identify token t).mapError Jwt.Error.toAccessTokenError
    | n, q => Surroundings.plain.reply n q
  fate _ := .served

/-- The clerk's own token is told back; behind another first header it is not even looked at. -/
theorem acts_for_bearer_badge :
    let token := "Bearer " ++ Jwt.Signer.clerk.sign Jwt.Signer.badge
    let s : Scene := { adasStores with moment := 0 }
    let me : Request := ⟨"GET", "/api/auth/me?full", [⟨"Authorization", token⟩], none, []⟩
    let other : Request := ⟨"POST", "/api/auth/password",
      [⟨"authorization", "Basic YTpi"⟩, ⟨"Authorization", token⟩], none, [0x7B]⟩
    attended.Decodes Jwt.Signer.clerk ∧
      (∃ p, ((respond {} me).run (Scene.next attended) s).1 = .done p ∧ p.status = 200 ∧
        p.body = "\x7b\"status_code\":200,\"data\":\x7b\"user_id\":\"u1\"," ++
          "\"email\":\"a@example.com\",\"user_name\":\"A\u00e9\\n\"," ++
          "\"expires_at\":\"1970-01-01T00:15:00Z\"\x7d\x7d") ∧
      ∃ p, ((respond {} other).run (Scene.next attended) s).1 = .done p ∧ p.status = 401 := by
  intro token s me other
  have hdecodes : attended.Decodes Jwt.Signer.clerk := fun _ _ _ => rfl
  have hpresents : me.Presents Jwt.Signer.clerk (s.clock attended) Jwt.Signer.badge := by
    refine ⟨_, bears_sign _ _ _ _ _ _, ?_⟩
    rw [Jwt.Signer.decode_sign _ _ (by decide) (by decide)]
    rfl
  have hnone : bearerToken other.headers = none := by decide +kernel
  obtain ⟨-, hin⟩ := acts_for_bearer {} hdecodes s me (.inl ⟨rfl, by decide⟩)
  obtain ⟨haway, -⟩ := acts_for_bearer {} hdecodes s other (.inr ⟨rfl, by decide⟩)
  obtain ⟨-, p, hp, hstatus, hbody⟩ := (hin _ hpresents).1 (by decide)
  refine ⟨hdecodes, ⟨p, hp, hstatus, hbody.trans (by decide)⟩, (haway ?_).1⟩
  rintro claims ⟨_, hbears, -⟩
  rw [bearerToken_iff.2 hbears] at hnone
  cases hnone

end Http

end Gatehouse
