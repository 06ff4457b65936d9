/-
  Gatehouse — what a request to log out ends.

  Whoever logs out names a secret in the body of the request, or bears one in its `Authorization`
  header. The header counts whenever the body does not name a secret, whatever the body is: an empty
  one, one that is no JSON, one of another record, or one that is announced as something else.

  * `Http.names_body`: an empty body names no secret;
  * `Http.logoutSecret?_iff`: which secret is to end;
  * `Http.logsOut`: how a request to log out is answered, and what it leaves;
  * `Http.logout_ignores_header_iff`: the header has no part in it exactly if the body names a
    secret, or the header bears none.
-/
import Gatehouse.Proofs.Bearer
import Gatehouse.Proofs.Resending

namespace Gatehouse

/-! ## Ending a session -/

namespace Stores

/-- The stores with the tokens of a secret revoked. -/
def revoking (d : Stores) (secret : String) : Stores :=
  { d with tokens := d.tokens.blacklist secret }

/-- No token of the secret is left that is not revoked. -/
theorem revoked_of_revoking {d : Stores} {secret : String} {t : Token}
    (ht : t ∈ (d.revoking secret).tokens.records) (hsecret : t.secret = secret) :
    t.revoked = true := by
  obtain ⟨u, -, rfl⟩ := TokenStore.mem_blacklist.1 ht
  have hu : u.secret = secret := hsecret
  simp [hu]

end Stores

namespace Service

open Gatehouse.Flow

/-- Logging out revokes the secret, as long as the store of tokens works; else it fails. -/
theorem ensures_logout {cfg : Settings} {o : Surroundings} {s : Scene} {secret : String}
    {Ψ : Ending AuthError Unit → Scene → Prop}
    (hd : o.fate s.moment = .served →
      ∀ s' : Scene, s'.toStores = s.toStores.revoking secret → Ψ (.done ()) s')
    (hf : o.fate s.moment ≠ .served →
      ∀ e (s' : Scene), s'.toStores = s.toStores ∨ s'.toStores = s.toStores.revoking secret →
        Ψ (.failed e) s') :
    (logout cfg secret).Ensures o s Ψ := by
  refine ensures_bind (ensures_mapFailure ?_)
  unfold tryTokens Ensures
  cases hfate : o.fate s.moment with
  | served =>
    simp only [Flow.run, Scene.next, Stores.serve, TokenStore.perform, hfate, Fate.settle]
    exact ensures_log (hd hfate _ rfl)
  | lost error carriedOut =>
    have hlost := hf fun hserved => by
      rw [hfate] at hserved
      cases hserved
    simp only [Flow.run, Scene.next, Stores.serve, TokenStore.perform, hfate, Fate.settle]
    -- the caller sees an error whether or not the store has revoked the secret
    cases error <;> cases carriedOut
    · exact hlost _ _ (.inl rfl)
    · exact hlost _ _ (.inr rfl)
    · exact hlost _ _ (.inl rfl)
    · exact hlost _ _ (.inr rfl)

end Service

namespace Http

/-! ## The secret that is to end -/

/-- The body of the request is read, and names the secret that is to end. -/
def Request.Names (r : Request) (secret : String) : Prop :=
  readBody logoutRecord.read r = .ok secret

/-- The secret is the one in the body, or the one in the header of a request whose body names
    none. -/
def Request.Ends (r : Request) (secret : String) : Prop :=
  r.Names secret ∨ (∀ other, ¬ r.Names other) ∧ r.Bears secret

/-- A body that names a secret is not empty. -/
theorem names_body {r : Request} {secret : String} (h : r.Names secret) : r.body ≠ [] := by
  intro hempty
  have hnone : (Json.readFront logoutRecord.read []).toOption = none := by decide
  unfold Request.Names readBody at h
  rw [hempty] at h
  split_ifs at h
  cases hread : Json.readFront logoutRecord.read [] with
  | error e =>
    rw [hread] at h
    cases h
  | ok x =>
    rw [hread] at hnone
    cases hnone

theorem logoutSecret?_iff {r : Request} {secret : String} :
    logoutSecret? r = some secret ↔ r.Ends secret := by
  unfold logoutSecret? Request.Ends Request.Names
  cases readBody logoutRecord.read r with
  | ok named => simp
  | error e => simp [bearerToken_iff]

/-! ## Without the header -/

/-- The request without its `Authorization` headers. -/
def Request.anonymous (r : Request) : Request :=
  { r with headers := r.headers.filter fun h => h.name.toLower ≠ "authorization" }

/-- The other headers are found as before. -/
theorem header?_anonymous (r : Request) {name : String} (hname : name ≠ "authorization") :
    header? r.anonymous.headers name = header? r.headers name := by
  have hfind : r.anonymous.headers.find? (·.name.toLower == name) =
      r.headers.find? (·.name.toLower == name) := by
    unfold Request.anonymous
    rw [List.find?_filter]
    congr 1
    funext h
    by_cases hn : h.name.toLower = name
    · simp [hn, hname]
    · simp [hn]
  unfold header?
  rw [hfind]

theorem readBody_anonymous {α : Type} (read : Json.Reader α) (r : Request) :
    readBody read r.anonymous = readBody read r := by
  unfold readBody
  rw [header?_anonymous r (by decide)]
  rfl

theorem not_bears_anonymous (r : Request) (token : String) : ¬ r.anonymous.Bears token := by
  rintro ⟨before, h, after, -, hheaders, -, hname, -⟩
  have hmem : h ∈ r.anonymous.headers := by rw [hheaders]; simp
  have hother := (List.mem_filter.1 hmem).2
  simp [hname] at hother

/-- Without the header the same secret is to end, if the body names one or no token is borne; else
    none is. -/
theorem logoutSecret?_anonymous (r : Request) :
    logoutSecret? r.anonymous = logoutSecret? r ↔
      (∃ secret, r.Names secret) ∨ ∀ token, ¬ r.Bears token := by
  have hnone : bearerToken r.anonymous.headers = none :=
    Option.eq_none_iff_forall_ne_some.2 fun token h =>
      not_bears_anonymous r token (bearerToken_iff.1 h)
  have hbears : (∀ token, ¬ r.Bears token) ↔ bearerToken r.headers = none := by
    simp only [Option.eq_none_iff_forall_ne_some, ne_eq, bearerToken_iff]
  rw [hbears]
  unfold logoutSecret? Request.Names
  rw [readBody_anonymous, hnone]
  cases readBody logoutRecord.read r with
  | ok named => simp
  | error e => simp [eq_comm]

/-! ## The answer -/

/-- The response to a request that is served in a scene, and what is stored then. -/
def served (cfg : Settings) (o : Surroundings) (s : Scene) (r : Request) :
    Ending Empty Response × Stores :=
  (((respond cfg r).run (Scene.next o) s).1, ((respond cfg r).run (Scene.next o) s).2.toStores)

/-- The response to whoever is logged out. -/
def loggedOut : Response := ((noticed "Logged out").onRoute .logout "POST").forAnyOrigin

/-- The response to whoever names no secret. -/
def nothingNamed : Response :=
  ((Refusal.badRequest "Missing refresh token").response.onRoute .logout "POST").forAnyOrigin

/-- A request to log out. -/
structure AsksOut (r : Request) : Prop where
  method : r.method = "POST"
  path : r.path = Route.logout.path

/-- How a request to log out is answered, and what it leaves: the secret that is to end is revoked,
    unless the store of tokens does not work or there is no such secret. -/
inductive LogsOut (o : Surroundings) (s : Scene) (r : Request) :
    Ending Empty Response → Stores → Prop
  | loggedOut {secret} : r.Ends secret → o.fate (s.moment + 1) = .served →
      LogsOut o s r (.done loggedOut) (s.toStores.revoking secret)
  | failed {secret p d} : r.Ends secret → o.fate (s.moment + 1) ≠ .served → p.status ≠ 200 →
      p.status ≠ 400 → d = s.toStores ∨ d = s.toStores.revoking secret →
      LogsOut o s r (.done p) d
  | nothingNamed : (∀ secret, ¬ r.Ends secret) → LogsOut o s r (.done nothingNamed) s.toStores

/-- No refusal of an operation has the status of a bad request. -/
theorem status_ofAuth_ne_bad (e : AuthError) : (Refusal.ofAuth e).response.status ≠ 400 := by
  show (Refusal.ofAuth e).status ≠ 400
  cases e <;> simp [Refusal.ofAuth, Refusal.status]

section

open Gatehouse.Flow

variable {cfg : Settings} {o : Surroundings} {s : Scene} {r r' : Request}

/-- **Each request to log out is answered in one of these ways.** -/
theorem logsOut (cfg : Settings) (o : Surroundings) (s : Scene) (hr : AsksOut r) :
    LogsOut o s r (served cfg o s r).1 (served cfg o s r).2 := by
  have hroute : Route.ofPath? r.path = some .logout := by rw [hr.path, Route.ofPath?_path]
  have hguarded : guarded cfg r .logout = logout cfg r := by
    unfold guarded
    rw [hr.method]
    rfl
  have hanswer : (respond cfg r).Ensures o s fun e s' => LogsOut o s r e s'.toStores := by
    refine ensures_respond (by rw [hr.method]; decide) hroute ?_
    rw [hguarded, hr.method]
    unfold logout
    cases hsecret : logoutSecret? r with
    | none =>
      refine ensures_done (.nothingNamed fun secret hends => ?_)
      cases hsecret.symm.trans (logoutSecret?_iff.2 hends)
    | some secret =>
      have hends := logoutSecret?_iff.1 hsecret
      refine ensures_respondWith (Service.ensures_logout ?_ ?_)
      · intro hfate s' hs'
        show LogsOut o s r (.done loggedOut) s'.toStores
        rw [hs']
        exact .loggedOut hends hfate
      · intro hfate e s' hs'
        refine ensures_refuse fun s'' hs'' => ?_
        exact .failed hends hfate (status_ofAuth_ne e) (status_ofAuth_ne_bad e) (hs'' ▸ hs')
  exact hanswer

/-- The secret that is to end is revoked while the store of tokens works. -/
theorem served_loggedOut (cfg : Settings) (hr : AsksOut r) {secret : String}
    (hends : r.Ends secret) (hfate : o.fate (s.moment + 1) = .served) :
    served cfg o s r = (.done loggedOut, s.toStores.revoking secret) := by
  have hlogs := logsOut cfg o s hr
  generalize served cfg o s r = x at hlogs ⊢
  obtain ⟨e, d⟩ := x
  cases hlogs with
  | loggedOut hends' _ =>
    cases (logoutSecret?_iff.2 hends).symm.trans (logoutSecret?_iff.2 hends')
    rfl
  | failed _ hlost => exact absurd hfate hlost
  | nothingNamed hnone => exact absurd hends (hnone secret)

/-- Where there is no secret to end, the request is rejected. -/
theorem served_nothingNamed (cfg : Settings) (o : Surroundings) (s : Scene) (hr : AsksOut r)
    (hnone : ∀ secret, ¬ r.Ends secret) :
    served cfg o s r = (.done nothingNamed, s.toStores) := by
  have hlogs := logsOut cfg o s hr
  generalize served cfg o s r = x at hlogs ⊢
  obtain ⟨e, d⟩ := x
  cases hlogs with
  | loggedOut hends _ => exact absurd hends (hnone _)
  | failed hends => exact absurd hends (hnone _)
  | nothingNamed _ => rfl

/-- A request to log out is answered by the secret that is to end alone. -/
theorem respond_of_secret (hr : AsksOut r) (hmethod : r'.method = r.method)
    (htarget : r'.target = r.target) (hsecret : logoutSecret? r' = logoutSecret? r) :
    respond cfg r' = respond cfg r := by
  have hroute : Route.ofPath? (pathOf r.target) = some .logout := by
    rw [show pathOf r.target = r.path from rfl, hr.path, Route.ofPath?_path]
  have hguarded : guarded cfg r' .logout = guarded cfg r .logout := by
    simp only [guarded, logout, hmethod, hsecret]
  simp only [respond, Request.path, htarget, hmethod, hroute, routed, hguarded]

theorem AsksOut.anonymous (hr : AsksOut r) : AsksOut r.anonymous := ⟨hr.method, hr.path⟩

/-- Without the header there is no secret to end, unless the body names one. -/
theorem not_ends_anonymous (hunnamed : ∀ secret, ¬ r.Names secret) (secret : String) :
    ¬ r.anonymous.Ends secret := by
  rintro (hnames | ⟨-, hbears⟩)
  · exact hunnamed secret (by rwa [Request.Names, readBody_anonymous] at hnames)
  · exact not_bears_anonymous r secret hbears

end

/-- **The header has no part in logging out exactly if the body names a secret, or the header bears
    none.** In any surroundings and with any stores, a request to log out gets the same response and
    leaves the same stores without its `Authorization` headers in these two cases and in no other,
    whatever else the body is. A success revokes the secret in the body, and the one in the header
    where the body names none; where neither does, the request is rejected and changes nothing. -/
theorem logout_ignores_header_iff (cfg : Settings) (o : Surroundings) (s : Scene) {r : Request}
    (hr : AsksOut r) :
    (served cfg o s r.anonymous = served cfg o s r ↔
      (∃ secret, r.Names secret) ∨ ∀ token, ¬ r.Bears token) ∧
    (∀ p, (served cfg o s r).1 = .done p → p.status = 200 → ∃ secret, r.Ends secret ∧
      (served cfg o s r).2 = s.toStores.revoking secret ∧
      ∀ t ∈ (served cfg o s r).2.tokens.records, t.secret = secret → t.revoked = true) ∧
    ((∀ secret, ¬ r.Ends secret) →
      served cfg o s r = (.done nothingNamed, s.toStores)) := by
  have hlogs := logsOut cfg o s hr
  refine ⟨⟨fun hsame => ?_, fun h => ?_⟩, ?_, served_nothingNamed cfg o s hr⟩
  · by_contra hheeded
    simp only [not_or, not_exists, not_forall, not_not] at hheeded
    obtain ⟨hunnamed, token, hbears⟩ := hheeded
    -- without the header the request is rejected, and with it there is a secret to end
    rw [← hsame, served_nothingNamed cfg o s hr.anonymous (not_ends_anonymous hunnamed)] at hlogs
    cases hlogs with
    | failed _ _ _ hbad => exact hbad rfl
    | nothingNamed hnone => exact hnone token (.inr ⟨hunnamed, hbears⟩)
  · have hflow : respond cfg r.anonymous = respond cfg r :=
      respond_of_secret hr rfl rfl ((logoutSecret?_anonymous r).2 h)
    rw [served, hflow, ← served]
  · intro p hp hstatus
    generalize served cfg o s r = x at hlogs hp ⊢
    obtain ⟨e, d⟩ := x
    cases hlogs with
    | loggedOut hends _ =>
      exact ⟨_, hends, rfl, fun t ht hsecret => Stores.revoked_of_revoking ht hsecret⟩
    | failed _ _ hsuccess _ =>
      cases hp
      exact absurd hstatus hsuccess
    | nothingNamed _ =>
      cases hp
      cases hstatus

/-- A request to log out with a body and a session in the header. -/
def leaving (body : String) : Request :=
  ⟨"POST", Route.logout.path,
    [⟨"Content-Type", "application/json"⟩, ⟨"Authorization", "Bearer session"⟩], none,
    body.toUTF8.toList⟩

/-- A body that names a secret by another name. -/
def slip : Request := leaving "\x7b\"token\":\"link\"\x7d"

theorem asksOut_leaving (body : String) : AsksOut (leaving body) := by
  refine ⟨rfl, ?_⟩
  show pathOf Route.logout.path = Route.logout.path
  decide

theorem bears_leaving (body : String) : (leaving body).Bears "session" := by
  refine bearerToken_iff.1 ?_
  show bearerToken [⟨"Content-Type", "application/json"⟩, ⟨"Authorization", "Bearer session"⟩] =
    some "session"
  decide +kernel

theorem slip_names_nothing (secret : String) : ¬ slip.Names secret := by
  intro hnames
  have hnone : (readBody logoutRecord.read slip).toOption = none := by decide +kernel
  rw [Request.Names] at hnames
  rw [hnames] at hnone
  cases hnone

/-- The header plays no part beside a body that names a secret, and it does beside a slip. -/
theorem logout_ignores_header_iff_leaving :
    let s : Scene := { adasStores with moment := 0 }
    let r := leaving "\x7b\"refresh_token\":\"link\"\x7d"
    AsksOut r ∧ served {} .plain s r.anonymous = served {} .plain s r ∧
      served {} .plain s slip.anonymous ≠ served {} .plain s slip := by
  intro s r
  have hr : AsksOut r := asksOut_leaving _
  have hnames : r.Names "link" := ok_of_toOption (by decide +kernel)
  refine ⟨hr, ((logout_ignores_header_iff {} .plain s hr).1).2 (.inl ⟨_, hnames⟩), fun hsame => ?_⟩
  obtain ⟨secret, hnames⟩ | hnone :=
    ((logout_ignores_header_iff {} .plain s (asksOut_leaving _)).1).1 hsame
  · exact slip_names_nothing secret hnames
  · exact hnone _ (bears_leaving _)

/-- **A slip ends the session in the header.** With a body that is not empty and names no secret,
    the session is revoked and the answer is a success; without the header the request is rejected
    and nothing changes. -/
theorem slip_ends_session :
    let s : Scene := { adasStores with moment := 0 }
    slip.body ≠ [] ∧ (∀ secret, ¬ slip.Names secret) ∧
      served {} .plain s slip = (.done loggedOut, adasStores.revoking "session") ∧
      served {} .plain s slip.anonymous = (.done nothingNamed, adasStores) ∧
      loggedOut ≠ nothingNamed ∧ adasStores.revoking "session" ≠ adasStores := by
  intro s
  have hends : slip.Ends "session" := .inr ⟨slip_names_nothing, bears_leaving _⟩
  refine ⟨by decide +kernel, slip_names_nothing,
    served_loggedOut {} (asksOut_leaving _) hends rfl,
    served_nothingNamed {} .plain s (asksOut_leaving _).anonymous
      (not_ends_anonymous slip_names_nothing), ?_, ?_⟩
  · intro hsame
    cases congrArg Response.status hsame
  · intro hsame
    have htokens : (adasStores.revoking "session").tokens ≠ adasStores.tokens := by decide
    exact htokens (congrArg Stores.tokens hsame)

end Http

end Gatehouse
