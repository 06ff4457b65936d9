/-
  Gatehouse — secrets stay out of the log.

  A run is repeated with other secrets: other passwords that the hasher and the rules of strength
  take for the first ones, and other names for tokens. The log of the second run is that of the
  first, line by line. Over HTTP a body has a length as well: one that grows past the limit is
  answered otherwise, and that is logged.

  * `Http.Request.Disguised`: what a request is in disguise;
  * `Http.inStep_respond`: both requests are handled in step, and answered with one status;
  * `Http.log_keeps_secrets`: the log tells no secret from another;
  * `Http.log_tells_length`: it does tell how long a password is that fills a body.
-/
import Gatehouse.Proofs.Bodies
import Gatehouse.Proofs.Disguise
import Mathlib.Logic.Equiv.Basic

namespace Gatehouse

/-! ## The log -/

/-- The lines of the log that come with an exchange. A mail is written down by its sender. -/
def Exchange.events (sender : String) : Exchange → List Event
  | ⟨.log e, _⟩ => [e]
  | ⟨.send _ m, _⟩ => [.mailDelivered sender m.address m.name m.kind]
  | _ => []

/-- The log of a flow that is run to its end. -/
def Flow.lines {ε α σ : Type} (sender : String) (m : Flow ε α)
    (handler : (q : Ask) → σ → q.Reply × σ) (s : σ) : List Event :=
  (m.record handler s).flatMap (·.events sender)

section

variable {o : Surroundings} {ρ : String → String} {d : UserStore}

/-- No line has a secret in it. -/
theorem Exchange.events_of_together {x x' : Exchange}
    (h : (Accord.veiled o ρ d).Together x x') (sender : String) :
    x'.events sender = x.events sender := by
  obtain ⟨q, r⟩ := x
  obtain ⟨q', r'⟩ := x'
  obtain ⟨p, R, hpair, -⟩ := h
  cases hpair with
  | same hq =>
    cases q with
    | log e => rfl
    | send l m => exact hq.elim
    | _ => rfl
  | _ => rfl

/-- Exchanges that go together one by one leave the same log. -/
theorem History.events_of_together {h h' : History}
    (hh : List.Forall₂ (Accord.veiled o ρ d).Together h h') (sender : String) :
    h'.flatMap (·.events sender) = h.flatMap (·.events sender) := by
  induction hh with
  | nil => rfl
  | cons hx _ ih => rw [List.flatMap_cons, List.flatMap_cons, Exchange.events_of_together hx, ih]

end

/-! ## Requests in disguise -/

namespace Http

open Gatehouse.Flow

/-- What is entered for a route, and the same in disguise. Whoever logs out without a body that is
    read enters the token in the header. -/
def Route.Disguised (o : Surroundings) (ρ : String → String) (d : UserStore) (r r' : Request) :
    Route → Prop
  | .register =>
    Reworded (Secretly ["password", "confirm_password"] (o.Confuses d)) formRecord r r' ∧
      ∀ form form', readBody formRecord.read r = .ok form →
        readBody formRecord.read r' = .ok form' →
        (form.password = form.confirmation ↔ form'.password = form'.confirmation)
  | .login => Reworded (Secretly ["password"] (o.Confuses d)) loginRecord r r'
  | .resendVerification => Reworded (Secretly [] Eq) resendRecord r r'
  | .refresh => Reworded (Secretly ["refresh_token"] fun t t' => t' = ρ t) refreshRecord r r'
  | .logout => Reworded (Secretly ["refresh_token"] fun t t' => t' = ρ t) logoutRecord r r' ∧
      ((∀ secret, readBody logoutRecord.read r ≠ .ok secret) →
        bearerToken r'.headers = (bearerToken r.headers).map ρ)
  | .verifyEmail => Reworded (Secretly ["token"] fun t t' => t' = ρ t) verifyRecord r r'
  | .password => Option.Rel Untold (bearerToken r.headers) (bearerToken r'.headers) ∧
      Reworded (Secretly ["old_password", "new_password"] (o.Confuses d)) passwordRecord r r'
  | .me => Option.Rel Untold (bearerToken r.headers) (bearerToken r'.headers)

/-- The requests are the same, but for the secrets in the body or in the bearer header. -/
structure Request.Disguised (o : Surroundings) (ρ : String → String) (d : UserStore)
    (r r' : Request) : Prop where
  method : r'.method = r.method
  target : r'.target = r.target
  client : clientKey r'.headers r'.peer = clientKey r.headers r.peer
  announced : header? r'.headers "content-type" = header? r.headers "content-type"
  secrets : ∀ route, Route.ofPath? r.path = some route → route.Disguised o ρ d r r'

/-- None of both bodies, or both, are longer than the limit. -/
def SameSize (r r' : Request) : Prop := bodyLimit < r'.body.length ↔ bodyLimit < r.body.length

/-! ## Bodies in disguise -/

section

variable {o : Surroundings} {ρ : String → String} {d : UserStore} {r r' : Request}

theorem readAlike_form (h : Reworded (Secretly ["password", "confirm_password"] (o.Confuses d))
      formRecord r r')
    (hconfirmed : ∀ form form', readBody formRecord.read r = .ok form →
      readBody formRecord.read r' = .ok form' →
      (form.password = form.confirmation ↔ form'.password = form'.confirmation))
    (hjson : header? r'.headers "content-type" = header? r.headers "content-type")
    (hsize : SameSize r r') : ReadAlike formRecord.read (·.Disguised o d ·) r r' := by
  have hblank : ∀ name, Secretly ["password", "confirm_password"] (o.Confuses d) name "" "" := by
    intro name
    unfold Secretly
    split_ifs
    · exact .refl o d ""
    · rfl
  refine (h.readAlike (respects_form hblank) hjson hsize).mono ?_
  intro form form' hread hread' halike
  refine ⟨?_, halike.password, hconfirmed form form' hread hread'⟩
  obtain ⟨email, userName, password, confirmation, firstName, lastName⟩ := form'
  obtain rfl : email = form.email := halike.email
  obtain rfl : userName = form.userName := halike.userName
  obtain rfl : firstName = form.firstName := halike.firstName
  obtain rfl : lastName = form.lastName := halike.lastName
  rfl

theorem logoutSecret_renamed (h : ReadAlike logoutRecord.read (fun t t' => t' = ρ t) r r')
    (hbearer : (∀ secret, readBody logoutRecord.read r ≠ .ok secret) →
      bearerToken r'.headers = (bearerToken r.headers).map ρ) :
    logoutSecret? r' = (logoutSecret? r).map ρ := by
  unfold logoutSecret?
  unfold ReadAlike at h
  generalize readBody logoutRecord.read r = x at h hbearer ⊢
  generalize readBody logoutRecord.read r' = x' at h ⊢
  cases h with
  | ok h => exact congrArg some h
  | error => exact hbearer nofun

end

/-! ## Handlers -/

/-- Two responses of one status, in whichever phase. -/
def SameStatus (_ : Phase) (p p' : Response) : Prop := p.status = p'.status

section

variable {cfg : Settings} {o : Surroundings} {ρ : String → String} {d : UserStore} {p : Phase}
  {r r' : Request} {α : Type}

/-- A complaint about what was entered is not logged. -/
theorem refuse_ofEntry {e : AuthError} (h : e.IsOfEntry) :
    refuse e = .done (Refusal.ofAuth e).response ∧ (Refusal.ofAuth e).response.status = 422 := by
  cases e with
  | weakPassword reason => exact ⟨rfl, rfl⟩
  | validationFailed fields => exact ⟨rfl, rfl⟩
  | _ => exact h.elim

theorem inStep_refuse {e e' : AuthError} (h : AuthError.Veiled e e') :
    (refuse e).InStep (.veiled o ρ d) Eq SameStatus p (refuse e') := by
  cases h with
  | same =>
    unfold refuse
    cases Refusal.event? e with
    | none => exact .done rfl
    | some event => exact inStep_bind (Service.veiled_log _ (.done rfl))
  | entry h h' =>
    obtain ⟨hrefuse, hstatus⟩ := refuse_ofEntry h
    obtain ⟨hrefuse', hstatus'⟩ := refuse_ofEntry h'
    rw [hrefuse, hrefuse']
    exact .done (hstatus.trans hstatus'.symm)

theorem inStep_refuseVerification {e e' : AuthError} (h : AuthError.Veiled e e') :
    (refuseVerification e).InStep (.veiled o ρ d) Eq SameStatus p (refuseVerification e') := by
  cases h with
  | same =>
    unfold refuseVerification
    split
    · exact inStep_bind (Service.veiled_log _ (.done rfl))
    · exact inStep_bind (Service.veiled_log _ (.done rfl))
    · exact inStep_bind (Service.veiled_log _ (.done rfl))
    · exact inStep_refuse .same
  | entry h h' =>
    have hplain : ∀ {e : AuthError}, e.IsOfEntry → refuseVerification e = refuse e := by
      intro e h
      cases e with
      | weakPassword reason => rfl
      | validationFailed fields => rfl
      | _ => exact h.elim
    rw [hplain h, hplain h']
    exact inStep_refuse (.entry h h')

theorem inStep_respondWith {refuse : AuthError → Flow Empty Response} {succeed : α → Response}
    {operation operation' : Flow AuthError α} (status : Nat)
    (hm : operation.InStep (.veiled o ρ d) AuthError.Veiled (fun _ _ _ => True) p operation')
    (hsucceed : ∀ a, (succeed a).status = status)
    (hrefuse : ∀ p e e', AuthError.Veiled e e' →
      (refuse e).InStep (.veiled o ρ d) Eq SameStatus p (refuse e')) :
    (respondWith refuse succeed operation).InStep (.veiled o ρ d) Eq SameStatus p
      (respondWith refuse succeed operation') :=
  inStep_bind (inStep_attempt
    (hm.mono fun _ a a' _ => .done ((hsucceed a).trans (hsucceed a').symm)) hrefuse)

/-- The handler of an operation that refuses as most do. -/
theorem inStep_operation {succeed : α → Response} {operation operation' : Flow AuthError α}
    (status : Nat)
    (hm : operation.InStep (.veiled o ρ d) AuthError.Veiled (fun _ _ _ => True) p operation')
    (hsucceed : ∀ a, (succeed a).status = status) :
    (respondWith refuse succeed operation).InStep (.veiled o ρ d) Eq SameStatus p
      (respondWith refuse succeed operation') :=
  inStep_respondWith status hm hsucceed fun _ _ _ => inStep_refuse

theorem inStep_withBody {read : Json.Reader α} {S : α → α → Prop} (h : ReadAlike read S r r')
    {f f' : α → Flow Empty Response}
    (hf : ∀ a a', S a a' → (f a).InStep (.veiled o ρ d) Eq SameStatus p (f' a')) :
    (withBody read r f).InStep (.veiled o ρ d) Eq SameStatus p (withBody read r' f') := by
  unfold withBody
  unfold ReadAlike at h
  generalize readBody read r = x at h ⊢
  generalize readBody read r' = x' at h ⊢
  cases h with
  | ok h => exact hf _ _ h
  | error h => exact .done h

theorem inStep_withinBudget (h : clientKey r'.headers r'.peer = clientKey r.headers r.peer)
    {m m' : Flow Empty Response}
    (hm : m.InStep (.veiled o ρ d) Eq SameStatus ⟨false, p.wrote⟩ m') :
    (withinBudget r m).InStep (.veiled o ρ d) Eq SameStatus p (withinBudget r' m') := by
  unfold withinBudget
  rw [h]
  refine .ask (.same trivial) fun admitted admitted' hr => ?_
  obtain rfl : admitted = admitted' := hr
  cases admitted with
  | true => exact hm
  | false => exact inStep_bind (Service.veiled_log _ (.done rfl))

theorem inStep_authenticated
    (h : Option.Rel Untold (bearerToken r.headers) (bearerToken r'.headers))
    {f f' : Jwt.Identity → Flow Empty Response}
    (hf : ∀ x, (f x).InStep (.veiled o ρ d) Eq SameStatus ⟨false, p.wrote⟩ (f' x)) :
    (authenticated r f).InStep (.veiled o ρ d) Eq SameStatus p (authenticated r' f') := by
  unfold authenticated
  generalize bearerToken r.headers = token? at h ⊢
  generalize bearerToken r'.headers = token?' at h ⊢
  cases h with
  | none => exact .done rfl
  | some h =>
    exact inStep_bind (inStep_attempt (Service.veiled_validate h hf)
      fun _ _ _ he => inStep_refuse he)

theorem inStep_onMethod {route : Route} (h : r'.method = r.method) {m m' : Flow Empty Response}
    (hm : m.InStep (.veiled o ρ d) Eq SameStatus p m') :
    (if route.accepts r.method then m else .done (emptyResponse 405) : Flow Empty Response).InStep
      (.veiled o ρ d) Eq SameStatus p
      (if route.accepts r'.method then m' else .done (emptyResponse 405)) := by
  rw [h]
  split_ifs
  · exact hm
  · exact .done rfl

theorem inStep_logout (h : logoutSecret? r' = (logoutSecret? r).map ρ) :
    (logout cfg r).InStep (.veiled o ρ d) Eq SameStatus ⟨false, false⟩ (logout cfg r') := by
  unfold logout
  rw [h]
  cases logoutSecret? r with
  | none => exact .done rfl
  | some secret => exact inStep_operation 200 (Service.veiled_logout secret) fun _ => rfl

/-- A request and the same request in disguise pass the guard of their route in step. -/
theorem inStep_guarded (hr : r.Disguised o ρ d r') (hsize : SameSize r r') {route : Route}
    (h : route.Disguised o ρ d r r') :
    (guarded cfg r route).InStep (.veiled o ρ d) Eq SameStatus ⟨false, false⟩
      (guarded cfg r' route) := by
  have oneText : ∀ {title name S}, Reworded (Secretly [name] S) (oneText title name) r r' →
      ReadAlike (oneText title name).read (Secretly [name] S name) r r' := fun h =>
    h.readAlike (respects_oneText _ _) hr.announced hsize
  have twoTexts : ∀ {title first second names S},
      Reworded (Secretly names S) (twoTexts title first second) r r' →
      ReadAlike (twoTexts title first second).read
        (fun x x' => Secretly names S first x.1 x'.1 ∧ Secretly names S second x.2 x'.2) r r' :=
    fun h => h.readAlike (respects_twoTexts _ _ _) hr.announced hsize
  cases route with
  | register =>
    have hform := readAlike_form h.1 h.2 hr.announced hsize
    refine inStep_withinBudget hr.client (inStep_onMethod hr.method (inStep_withBody hform ?_))
    intro form form' hform
    exact inStep_operation 201 (Service.veiled_register hform) fun _ => rfl
  | login =>
    refine inStep_withinBudget hr.client (inStep_onMethod hr.method
      (inStep_withBody (twoTexts h) ?_))
    rintro ⟨email, password⟩ ⟨email', password'⟩ ⟨hemail, hpassword⟩
    obtain rfl : email' = email := hemail
    exact inStep_operation 200 (Service.veiled_login _ hpassword) fun _ => rfl
  | resendVerification =>
    have hemail := h.readAlike (respects_oneText _ _) hr.announced hsize
    refine inStep_withinBudget hr.client (inStep_onMethod hr.method (inStep_withBody hemail ?_))
    intro email email' hsame
    obtain rfl : email' = email := hsame
    exact inStep_operation 200 (Service.veiled_resendVerification _) fun _ => rfl
  | refresh =>
    refine inStep_onMethod hr.method (inStep_withBody (oneText h) ?_)
    intro secret secret' hsecret
    obtain rfl : secret' = ρ secret := hsecret
    exact inStep_operation 200 (Service.veiled_refresh secret) fun _ => rfl
  | logout =>
    exact inStep_onMethod hr.method (inStep_logout (logoutSecret_renamed (oneText h.1) h.2))
  | verifyEmail =>
    refine inStep_onMethod hr.method (inStep_withBody (oneText h) ?_)
    intro secret secret' hsecret
    obtain rfl : secret' = ρ secret := hsecret
    exact inStep_respondWith 200 (Service.veiled_verifyEmail secret) (fun _ => rfl)
      fun _ _ _ => inStep_refuseVerification
  | password =>
    obtain ⟨htoken, hbody⟩ := h
    refine inStep_authenticated htoken fun caller => ?_
    refine inStep_onMethod hr.method (inStep_withBody (twoTexts hbody) ?_)
    rintro ⟨old, new⟩ ⟨old', new'⟩ ⟨hold, hnew⟩
    exact inStep_operation 200 (Service.veiled_changePassword _ hold hnew) fun _ => rfl
  | me => exact inStep_authenticated h fun caller => inStep_onMethod hr.method (.done rfl)

theorem inStep_routed (hr : r.Disguised o ρ d r') (hsize : SameSize r r') :
    (routed cfg r (Route.ofPath? r.path)).InStep (.veiled o ρ d) Eq SameStatus ⟨false, false⟩
      (routed cfg r' (Route.ofPath? r.path)) := by
  cases hroute : Route.ofPath? r.path with
  | none => exact .done rfl
  | some route =>
    refine inStep_bind ((inStep_guarded hr hsize (hr.secrets route hroute)).mono ?_)
    intro p x x' hstatus
    exact .done hstatus

/-- **A request and the same request in disguise are handled in step, and answered with one
    status.** -/
theorem inStep_respond (hr : r.Disguised o ρ d r') (hsize : SameSize r r') :
    (respond cfg r).InStep (.veiled o ρ d) Eq SameStatus ⟨false, false⟩ (respond cfg r') := by
  have hpath : r'.path = r.path := by rw [Request.path, hr.target, Request.path]
  unfold respond
  rw [hr.method, hr.target, hpath]
  split_ifs
  · exact .done rfl
  refine inStep_bind (Service.veiled_log _ (inStep_bind ((inStep_routed hr hsize).mono ?_)))
  intro p x x' hstatus
  rw [show x.status = x'.status from hstatus]
  exact inStep_bind (Service.veiled_log _ (.done hstatus))

end

/-! ## The log of a run in disguise -/

/-- **The log keeps secrets.** The sender of mail writes every mail down, and access tokens are
    checked by a signer. In every scene a call leaves the same log as it does in disguise, with the
    tokens of the store and the secrets that are drawn renamed; and so does a request, unless it
    grows past the limit in disguise, or shrinks to it. -/
theorem log_keeps_secrets (cfg : Settings) (sender : String) {o : Surroundings}
    {ρ : String → String} {signer : Jwt.Signer} (hρ : Function.Injective ρ) (htraces : o.Traces)
    (hdecodes : o.Decodes signer) (s : Scene) :
    (∀ {c c' : Call}, c.Disguised o ρ s.users c' →
      (c'.flow cfg).lines sender (Scene.nextRenamed o ρ) (s.rename ρ, false) =
        (c.flow cfg).lines sender (Scene.next o) s) ∧
    ∀ {r r' : Request}, r.Disguised o ρ s.users r' → SameSize r r' →
      (respond cfg r').lines sender (Scene.nextRenamed o ρ) (s.rename ρ, false) =
        (respond cfg r).lines sender (Scene.next o) s := by
  have hkept := Surroundings.kept_veiled (d := s.users) hρ htraces hdecodes
  have hs : Scene.Disguised ρ s.users ⟨false, false⟩ s (s.rename ρ, false) :=
    ⟨rfl, rfl, fun _ => ⟨rfl, rfl⟩, rfl⟩
  constructor
  · intro c c' hc
    exact History.events_of_together (hc.together cfg hkept hs) sender
  · intro r r' hr hsize
    have hstep := @inStep_respond cfg o ρ s.users r r' hr hsize
    exact History.events_of_together (hstep.run hkept hs).1 sender

/-- Written requests are the same but for the secrets if their bodies are. -/
theorem disguised_writing {o : Surroundings} {ρ : String → String} {d : UserStore} {route : Route}
    {ms ms' : List (String × Json.Doc)}
    (h : route.Disguised o ρ d (writing route ms) (writing route ms')) :
    (writing route ms).Disguised o ρ d (writing route ms') := by
  refine ⟨rfl, rfl, rfl, rfl, fun route' hroute => ?_⟩
  obtain rfl : route = route' := Option.some.inj ((ofPath?_writing route ms).symm.trans hroute)
  exact h

/-- The clerk checks access tokens, and all else is well. -/
def minded : Surroundings where
  reply
    | _, .parse token t => (Jwt.Signer.clerk.identify token t).mapError Jwt.Error.toAccessTokenError
    | n, q => Surroundings.plain.reply n q
  fate _ := .served

theorem minded_traces : minded.Traces := fun _ _ _ => rfl

theorem minded_decodes : minded.Decodes Jwt.Signer.clerk := fun _ _ _ => rfl

/-- Passwords that are not the one of the only account are taken for each other, if both are strong
    or both are weak. -/
theorem confuses_wrong {password password' : String} (h : password ≠ "Old-pass-1")
    (h' : password' ≠ "Old-pass-1")
    (hstrength : Password.weakness? password = none ↔ Password.weakness? password' = none) :
    minded.Confuses adasStores.users password password' := by
  refine ⟨fun _ => .ok trivial, fun _ u hu => ?_, hstrength⟩
  obtain rfl := List.mem_singleton.1 hu
  have hwrong : ∀ {entered : String}, entered ≠ "Old-pass-1" →
      (digestOf "Old-pass-1" == digestOf entered) = false := by
    intro entered hne
    rw [← Bool.not_eq_true, beq_iff_eq, digestOf, digestOf, String.append_right_inj]
    exact hne.symm
  exact (hwrong h).trans (hwrong h').symm

/-- A wrong password is logged like another one; and a refresh token that is traded, like one of
    another name. -/
theorem log_keeps_secrets_session :
    let ρ : String → String := Equiv.swap "session" "another_session-2"
    let s : Scene := { adasStores with moment := 0 }
    let r := writing .refresh [("refresh_token", .text "session")]
    let r' := writing .refresh [("refresh_token", .text "another_session-2")]
    (Service.login {} "ada@example.org" "0ther!Pass").lines "noreply"
        (Scene.nextRenamed minded ρ) (s.rename ρ, false) = [.passwordMismatch ada.id] ∧
      r.Disguised minded ρ s.users r' ∧ SameSize r r' ∧
      (respond {} r').lines "noreply" (Scene.nextRenamed minded ρ) (s.rename ρ, false) =
        [.requestStarted "POST" "/api/auth/refresh", .tokenRotated ada.id,
          .requestCompleted 200] := by
  intro ρ s r r'
  obtain ⟨hcall, hrequest⟩ := log_keeps_secrets {} "noreply"
    (Equiv.swap "session" "another_session-2").injective minded_traces minded_decodes s
  have hlogin : (Call.login "ada@example.org" "Wr0ng!Pass").Disguised minded ρ s.users
      (.login "ada@example.org" "0ther!Pass") :=
    .login _ (confuses_wrong (by decide) (by decide) (by decide))
  have hrenamed : "another_session-2" = ρ "session" := (Equiv.swap_apply_left _ _).symm
  have hdisguised : r.Disguised minded ρ s.users r' :=
    disguised_writing (reworded_writing _ (.cons ⟨rfl, Json.alike_written hrenamed⟩ .nil))
  have hsize : SameSize r r' := by
    unfold SameSize
    decide +kernel
  refine ⟨(hcall hlogin).trans ?_, hdisguised, hsize, (hrequest hdisguised hsize).trans ?_⟩
  · decide
  · decide +kernel

/-! ## Bodies that are too long -/

section

variable {cfg : Settings} {r : Request}

/-- A request to log in is handled within the attempt budget, between two lines of the log. -/
theorem respond_login (hmethod : r.method = "POST")
    (hroute : Route.ofPath? r.path = some .login) {m : Flow Empty Response} (hm : login cfg r = m) :
    respond cfg r = (do
      .log (.requestStarted "POST" (uriOf r.target))
      let p ← withinBudget r m
      .log (.requestCompleted p.status)
      return (p.onRoute .login "POST").forAnyOrigin) := by
  have hguarded : guarded cfg r .login = withinBudget r m := by
    unfold guarded
    rw [hm, hmethod]
    rfl
  unfold respond
  rw [if_neg (by rw [hmethod]; decide), hroute, hmethod]
  simp only [routed, hguarded, hmethod, bind_assoc, pure_bind]
  rfl

theorem login_of_ok {email password : String}
    (h : readBody loginRecord.read r = .ok (email, password)) :
    login cfg r = respondWith refuse (fun l => (Success.mk 200 l).response loginDoc)
      (Service.login cfg email password) := by
  unfold login withBody
  rw [h]

theorem login_of_error {e : Rejection} (h : readBody loginRecord.read r = .error e) :
    login cfg r = .done e.response := by
  unfold login withBody
  rw [h]

end

/-- A password of one letter, again and again. -/
def monotone (n : Nat) : String := String.ofList (List.replicate n 'a')

theorem length_monotone (n : Nat) : (monotone n).length = n := by
  simp [monotone]

/-- A request to log in with such a password. -/
def droning (n : Nat) : Request :=
  writing .login [("email", .text "ada@example.org"), ("password", .text (monotone n))]

theorem length_droning (n : Nat) : (droning n).body.length = n + 41 := by
  have hletter : Jwt.bytesOf (Json.writeChar 'a') = [Json.ascii 'a'] := by decide +kernel
  have hletters : Jwt.bytesOf ((monotone n).toList.flatMap Json.writeChar) =
      List.replicate n (Json.ascii 'a') := by
    rw [monotone, String.toList_ofList]
    induction n with
    | zero => exact Jwt.bytesOf_nil
    | succ n ih =>
      rw [List.replicate_succ, List.flatMap_cons, Jwt.bytesOf_append, ih, hletter]
      rfl
  have haddress : (Jwt.bytesOf ("ada@example.org".toList.flatMap Json.writeChar)).length = 15 := by
    decide +kernel
  have hemail : (Jwt.bytesOf ("email".toList.flatMap Json.writeChar)).length = 5 := by
    decide +kernel
  have hpassword : (Jwt.bytesOf ("password".toList.flatMap Json.writeChar)).length = 8 := by
    decide +kernel
  show (Jwt.bytesOf (Json.write (.object _))).length = n + 41
  rw [Json.Record.bytesOf_writeObject]
  simp only [Json.Record.writtenMembers, Json.Record.bytesOf_writeText, hletters, haddress, hemail,
    hpassword, Json.write, Json.comma, List.length_cons, List.length_append, List.length_replicate,
    List.length_nil]
  omega

/-- Such requests are the same but for the password. -/
theorem reworded_droning {S : String → String → Prop} {m n : Nat}
    (h : S (monotone m) (monotone n)) :
    Reworded (Secretly ["password"] S) loginRecord (droning m) (droning n) := by
  have hemail : Json.MemberAlike (Secretly ["password"] S)
      ("email", Jwt.bytesOf (Json.write (.text "ada@example.org")))
      ("email", Jwt.bytesOf (Json.write (.text "ada@example.org"))) := ⟨rfl, Json.alike_written rfl⟩
  exact reworded_writing _ (.cons hemail (.cons ⟨rfl, Json.alike_written h⟩ .nil))

/-- Within the limit the password is read, as is the one without a letter. -/
theorem readBody_droning {n : Nat} (hn : n + 41 ≤ bodyLimit) :
    readBody loginRecord.read (droning n) = .ok ("ada@example.org", monotone n) := by
  have hempty : (readBody loginRecord.read (droning 0)).toOption =
      some ("ada@example.org", "") := by
    decide +kernel
  have hsize : SameSize (droning 0) (droning n) := by
    rw [SameSize, length_droning, length_droning]
    omega
  have halike := (reworded_droning (S := fun _ t => t = monotone n) (m := 0) rfl).readAlike
    (respects_twoTexts _ _ _) rfl hsize
  unfold ReadAlike at halike
  generalize readBody loginRecord.read (droning 0) = x at halike hempty
  generalize readBody loginRecord.read (droning n) = x' at halike ⊢
  cases halike with
  | error => cases hempty
  | @ok a a' h =>
    obtain ⟨email, password⟩ := a'
    obtain rfl : a = ("ada@example.org", "") := Option.some.inj hempty
    obtain rfl : email = "ada@example.org" := h.1
    obtain rfl : password = monotone n := h.2
    rfl

theorem respond_droning {n : Nat} {m : Flow Empty Response} (hm : login {} (droning n) = m) :
    respond {} (droning n) = (do
      .log (.requestStarted "POST" (uriOf Route.login.path))
      let p ← withinBudget (droning n) m
      .log (.requestCompleted p.status)
      return (p.onRoute .login "POST").forAnyOrigin) :=
  respond_login rfl (ofPath?_writing _ _) hm

/-- Passwords that are too long are taken for each other. -/
theorem confuses_monotone {m n : Nat} (hm : Password.most < m) (hn : Password.most < n) :
    minded.Confuses adasStores.users (monotone m) (monotone n) := by
  have hlength : ∀ {n : Nat}, Password.most < n → (monotone n).length ≠ "Old-pass-1".length := by
    intro n hn
    rw [length_monotone, show "Old-pass-1".length = 10 from rfl]
    unfold Password.most at hn
    omega
  have hweak : ∀ {n : Nat}, Password.most < n → Password.weakness? (monotone n) ≠ none := by
    intro n hn h
    obtain ⟨-, hle, -⟩ := Password.weakness?_eq_none_iff.1 h
    rw [length_monotone] at hle
    omega
  exact confuses_wrong (fun h => hlength hm (congrArg _ h)) (fun h => hlength hn (congrArg _ h))
    ⟨fun h => absurd h (hweak hm), fun h => absurd h (hweak hn)⟩

/-- A body that is too long is rejected without a look at it. -/
theorem lines_droning {n : Nat} (hn : bodyLimit < n + 41) {s : Scene} :
    (respond {} (droning n)).lines "noreply" (Scene.nextRenamed minded id) (s, false) =
      [.requestStarted "POST" (uriOf Route.login.path), .requestCompleted 413] := by
  have hread : readBody loginRecord.read (droning n) = .error .tooLarge := by
    unfold readBody
    rw [droning, isJson_writing, if_neg (by simp)]
    exact if_pos (by rwa [← droning, length_droning])
  rw [respond_droning (login_of_error hread)]
  rfl

/-- **The log tells how long a body is.** The hasher takes two passwords for each other, and both
    are too long; one of them makes the body too long as well. -/
theorem log_tells_length :
    let s : Scene := { adasStores with moment := 0 }
    (droning 200).Disguised minded id s.users (droning 2097152) ∧
      (respond {} (droning 2097152)).lines "noreply" (Scene.nextRenamed minded id)
          (s.rename id, false) ≠
        (respond {} (droning 200)).lines "noreply" (Scene.next minded) s := by
  intro s
  refine ⟨disguised_writing (reworded_droning (confuses_monotone (by decide) (by decide))), ?_⟩
  have hshort : (respond {} (droning 200)).lines "noreply" (Scene.next minded) s =
      [.requestStarted "POST" (uriOf Route.login.path), .passwordMismatch ada.id,
        .requestCompleted 401] := by
    rw [respond_droning (login_of_ok (readBody_droning (by decide)))]
    decide +kernel
  rw [hshort, lines_droning (by decide)]
  decide

end Http

end Gatehouse
