/-
  Gatehouse — how a request is handled.

  Around every route stand two lines of the log and the headers; a guard comes before the handler,
  and the handler reads the body before it calls an operation. `run_respond` takes the log and the
  headers off. What is left is told by rules for the parts of handlers, in the way of
  `Flow.Meets`: what they ask, and with which status they answer.

  * `Flow.Meets.run`: what the questions of a flow keep is kept by the flow;
  * `Http.run_respond`: the response to a request is the response of its route, with headers;
  * `Http.ensures_respond`: the same, for a request that is served alone in a scene;
  * `Http.lenient_guarded`: past the attempt budget no route asks for it, and none answers that it
    is used up.
-/
import Gatehouse.Http.Router
import Gatehouse.Proofs.Calm

namespace Gatehouse

/-! ## Runs of flows -/

namespace Flow

variable {ε α σ : Type} {P : Ask → Prop} {Q : α → Prop} {m : Flow ε α} {h : History}

/-- What a flow asks whatever happened before, it asks in any history. -/
theorem Meets.forget {Φ : History → Ask → Prop} {Ψ : History → α → Prop} (hm : Meets Φ Ψ h m)
    (hΦ : ∀ h q, Φ h q → P q) (h' : History) :
    Meets (fun _ q => P q) (fun _ _ => True) h' m := by
  induction hm generalizing h' with
  | done _ => exact .done trivial
  | fail => exact .fail
  | crash => exact .crash
  | ask hq _ ih =>
    refine .ask (hΦ _ _ hq) ?_
    intro r hr
    exact ih r hr _

/-- What every question of a flow keeps holds after the flow as well. -/
theorem Meets.run (hm : Meets (fun _ q => P q) (fun _ a => Q a) h m)
    {handler : (q : Ask) → σ → q.Reply × σ} {I : σ → Prop}
    (hkeep : ∀ q s, P q → I s → q.Fits (handler q s).1 ∧ I (handler q s).2) {s : σ} (hs : I s) :
    I (m.run handler s).2 ∧ ∀ a, (m.run handler s).1 = .done a → Q a := by
  induction hm generalizing s with
  | done hQ =>
    refine ⟨hs, ?_⟩
    intro a ha
    cases ha
    exact hQ
  | fail =>
    refine ⟨hs, ?_⟩
    intro a ha
    cases ha
  | crash =>
    refine ⟨hs, ?_⟩
    intro a ha
    cases ha
  | ask hq _ ih =>
    obtain ⟨hfits, hkept⟩ := hkeep _ s hq hs
    exact ih _ hfits hkept

theorem Ensures.mono {o : Surroundings} {s : Scene} {Ψ Ψ' : Ending ε α → Scene → Prop}
    (hm : m.Ensures o s Ψ) (hΨ : ∀ e s', Ψ e s' → Ψ' e s') : m.Ensures o s Ψ' := hΨ _ _ hm

end Flow

/-- What is replied in a scene fits the question. -/
theorem Scene.fits_next (o : Surroundings) (q : Ask) (s : Scene) : q.Fits (s.next o q).1 :=
  (Stores.replies_serve o s.moment s.toStores q).fits

namespace Http

/-! ## Routes -/

theorem Route.ofPath?_path (route : Route) : Route.ofPath? route.path = some route := by
  cases route <;> rfl

theorem Route.path_of_ofPath? {path : String} {route : Route}
    (h : Route.ofPath? path = some route) : route.path = path := by
  have := List.find?_some h
  simpa using this

/-- The routes that share the attempt budget. -/
def Route.limited : Route → Bool
  | register | login | resendVerification => true
  | _ => false

/-- A result can be found out without looking at errors. -/
theorem ok_of_toOption {ε α : Type} {r : Except ε α} {a : α} (h : r.toOption = some a) :
    r = .ok a := by
  cases r with
  | ok b => exact congrArg _ (Option.some.inj h)
  | error e => cases h

/-! ## Around a route -/

/-- The status of a response that was given. -/
def status? : Ending Empty Response → Option Nat
  | .done p => some p.status
  | _ => none

section

variable {cfg : Settings} {r : Request} {σ : Type} {handler : (q : Ask) → σ → q.Reply × σ} {s : σ}

/-- Log the start of a request. -/
def started (handler : (q : Ask) → σ → q.Reply × σ) (r : Request) (s : σ) : σ :=
  (handler (.log (.requestStarted r.method (uriOf r.target))) s).2

/-- Complete the ending of a route: log the status, and add the headers. -/
def completed (handler : (q : Ask) → σ → q.Reply × σ) (dress : Response → Response) :
    Ending Empty Response × σ → Ending Empty Response × σ
  | (.done p, s) =>
    (.done (dress p).forAnyOrigin, (handler (.log (.requestCompleted (dress p).status)) s).2)
  | (.crashed x, s) => (.crashed x, s)

/-- **A request is answered as its route answers it, between two lines of the log.** -/
theorem run_respond (hmethod : r.method ≠ "OPTIONS") {route : Route}
    (hroute : Route.ofPath? r.path = some route) :
    (respond cfg r).run handler s =
      completed handler (·.onRoute route r.method)
        ((guarded cfg r route).run handler (started handler r s)) := by
  have hrespond : respond cfg r = (do
      .log (.requestStarted r.method (uriOf r.target))
      let p ← guarded cfg r route
      .log (.requestCompleted p.status)
      return (p.onRoute route r.method).forAnyOrigin) := by
    unfold respond
    rw [if_neg hmethod, hroute]
    simp only [routed, bind_assoc, pure_bind]
    rfl
  rw [hrespond]
  show ((guarded cfg r route) >>= _).run handler (started handler r s) = _
  rw [Flow.run_bind]
  generalize (guarded cfg r route).run handler (started handler r s) = ending
  obtain ⟨e, s'⟩ := ending
  cases e with
  | done p => rfl
  | failed e => cases e
  | crashed x => rfl

/-- A path without a route. -/
theorem run_respond_none (hmethod : r.method ≠ "OPTIONS") (hroute : Route.ofPath? r.path = none) :
    (respond cfg r).run handler s =
      completed handler id
        (.done { emptyResponse 404 with headers := [lengthHeader ""] }, started handler r s) := by
  unfold respond
  rw [if_neg hmethod, hroute]
  rfl

/-- Whoever is within the attempt budget goes on, and everyone else is turned away. -/
theorem run_withinBudget (m : Flow Empty Response) :
    (withinBudget r m).run handler s =
      match handler (.permit (clientKey r.headers r.peer)) s with
      | (true, s) => m.run handler s
      | (false, s) =>
        (.done (Refusal.tooMany "Too many attempts, try again later").response,
          (handler (.log (.limitExceeded (clientKey r.headers r.peer))) s).2) := by
  unfold withinBudget
  rw [Flow.run]
  generalize handler (.permit (clientKey r.headers r.peer)) s = reply
  obtain ⟨admitted, s'⟩ := reply
  cases admitted with
  | true => rfl
  | false => rfl

end

/-! ## In a scene -/

section

open Gatehouse.Flow

variable {cfg : Settings} {o : Surroundings} {r : Request} {s : Scene} {α : Type}

/-- A request is served as its route serves it, one exchange later. -/
theorem ensures_respond (hmethod : r.method ≠ "OPTIONS") {route : Route}
    (hroute : Route.ofPath? r.path = some route) {Ψ : Ending Empty Response → Scene → Prop}
    (h : (guarded cfg r route).Ensures o { s with moment := s.moment + 1 } fun e s' =>
      match e with
      | .done p =>
        Ψ (.done (p.onRoute route r.method).forAnyOrigin) { s' with moment := s'.moment + 1 }
      | .failed e => Ψ (.failed e) s'
      | .crashed x => Ψ (.crashed x) s') : (respond cfg r).Ensures o s Ψ := by
  unfold Ensures at h ⊢
  rw [run_respond hmethod hroute]
  have hstarted : started (Scene.next o) r s = { s with moment := s.moment + 1 } := rfl
  rw [hstarted]
  generalize (guarded cfg r route).run (Scene.next o) { s with moment := s.moment + 1 } = x at h ⊢
  obtain ⟨e, s'⟩ := x
  cases e with
  | done p => exact h
  | failed e => cases e
  | crashed x => exact h

/-- A refusal leaves the stores alone. -/
theorem ensures_refuse {e : AuthError} {Ψ : Ending Empty Response → Scene → Prop}
    (h : ∀ s' : Scene, s'.toStores = s.toStores → Ψ (.done (Refusal.ofAuth e).response) s') :
    (refuse e).Ensures o s Ψ := by
  unfold refuse
  cases Refusal.event? e with
  | none => exact ensures_done (h s rfl)
  | some event => exact ensures_bind (Service.ensures_log (ensures_done (h _ rfl)))

/-- An operation is answered as it ends. -/
theorem ensures_respondWith {refuse : AuthError → Flow Empty Response} {succeed : α → Response}
    {operation : Flow AuthError α} {Ψ : Ending Empty Response → Scene → Prop}
    (h : operation.Ensures o s fun e s' =>
      match e with
      | .done a => Ψ (.done (succeed a)) s'
      | .failed e => (refuse e).Ensures o s' Ψ
      | .crashed x => Ψ (.crashed x) s') :
    (respondWith refuse succeed operation).Ensures o s Ψ := by
  refine ensures_bind (ensures_attempt (h.mono ?_))
  intro e s' he
  cases e with
  | done a => exact he
  | failed e => exact he
  | crashed x => exact he

end

/-! ## Parts of handlers -/

section

open Gatehouse.Flow

variable {P : Ask → Prop} {Q : Response → Prop} {h : History} {α : Type}

theorem meets_refuse (hlog : ∀ e, P (.log e)) {e : AuthError} (hQ : Q (Refusal.ofAuth e).response) :
    Meets (fun _ q => P q) (fun _ p => Q p) h (refuse e) := by
  unfold refuse
  cases Refusal.event? e with
  | none => exact .done hQ
  | some event => exact meets_bind (meets_log (hlog event) (.done hQ))

theorem meets_refuseVerification (hlog : ∀ e, P (.log e)) {e : AuthError}
    (hQ : Q (Refusal.ofAuth e).response)
    (hbad : Q (Refusal.badRequest "Invalid or expired verification token").response) :
    Meets (fun _ q => P q) (fun _ p => Q p) h (refuseVerification e) := by
  unfold refuseVerification
  split
  · exact meets_bind (meets_log (hlog _) (.done hbad))
  · exact meets_bind (meets_log (hlog _) (.done hbad))
  · exact meets_bind (meets_log (hlog _) (.done hbad))
  · exact meets_refuse hlog hQ

theorem meets_respondWith {refuse : AuthError → Flow Empty Response} {succeed : α → Response}
    {operation : Flow AuthError α}
    (hm : Meets (fun _ q => P q) (fun _ _ => True) h operation) (hsucceed : ∀ a, Q (succeed a))
    (hrefuse : ∀ h e, Meets (fun _ q => P q) (fun _ p => Q p) h (refuse e)) :
    Meets (fun _ q => P q) (fun _ p => Q p) h (respondWith refuse succeed operation) := by
  refine meets_bind (meets_attempt (hm.mono ?_) ?_)
  · intro h a _
    exact .done (hsucceed a)
  · intro h e
    exact hrefuse h e

theorem meets_withBody {read : Json.Reader α} {r : Request} {f : α → Flow Empty Response}
    (hf : ∀ a, Meets (fun _ q => P q) (fun _ p => Q p) h (f a))
    (hrejected : ∀ e : Rejection, Q e.response) :
    Meets (fun _ q => P q) (fun _ p => Q p) h (withBody read r f) := by
  unfold withBody
  cases readBody read r with
  | ok a => exact hf a
  | error e => exact .done (hrejected e)

end

/-! ## Past the attempt budget -/

/-- The response does not say that there were too many attempts. -/
def Patient (p : Response) : Prop := p.status ≠ 429

/-- The question is not for the attempt budget. -/
def Unmetered : Ask → Prop
  | .permit _ => False
  | _ => True

/-- The flow does not ask for the attempt budget, and does not answer that it is used up. -/
def Lenient (m : Flow Empty Response) : Prop :=
  ∀ h, m.Meets (fun _ q => Unmetered q) (fun _ p => Patient p) h

theorem patient_ofAuth (e : AuthError) : Patient (Refusal.ofAuth e).response := by
  show (Refusal.ofAuth e).status ≠ 429
  cases e <;> simp [Refusal.ofAuth, Refusal.status]

theorem patient_rejected (e : Rejection) : Patient e.response := by
  cases e with
  | notJson => simp [Patient, Rejection.response, plainResponse]
  | tooLarge => simp [Patient, Rejection.response, plainResponse]
  | badJson e input =>
    simp only [Patient, Rejection.response]
    split_ifs
    · simp [plainResponse]
    · simp [plainResponse]

theorem patient_refusal {e : Refusal} (h : e.status ≠ 429) : Patient e.response := h

theorem patient_success {α : Type} {doc : α → Json.Doc} {status : Nat} (h : status ≠ 429)
    (data : α) : Patient ((Success.mk status data).response doc) := h

/-- No operation asks for the attempt budget. -/
theorem unmetered_flow (cfg : Settings) (c : Call) (h : History) :
    (c.flow cfg).Meets (fun _ q => Unmetered q) (fun _ _ => True) h := by
  refine (c.meets cfg).forget ?_ h
  intro h q hq
  cases q with
  | permit client => exact hq
  | _ => trivial

section

variable {cfg : Settings} {r : Request} {α : Type}

theorem lenient_respondWith {succeed : α → Response} {operation : Flow AuthError α}
    (hm : ∀ h, operation.Meets (fun _ q => Unmetered q) (fun _ _ => True) h)
    (hsucceed : ∀ a, Patient (succeed a)) : Lenient (respondWith refuse succeed operation) :=
  fun h => meets_respondWith (hm h) hsucceed fun _ e =>
    meets_refuse (fun _ => trivial) (patient_ofAuth e)

theorem lenient_withBody {read : Json.Reader α} {f : α → Flow Empty Response}
    (hf : ∀ a, Lenient (f a)) : Lenient (withBody read r f) :=
  fun h => meets_withBody (fun a => hf a h) patient_rejected

theorem lenient_done {p : Response} (h : Patient p) : Lenient (.done p) := fun _ => .done h

theorem lenient_register : Lenient (register cfg r) :=
  lenient_withBody fun form =>
    lenient_respondWith (unmetered_flow cfg (.register form)) fun _ => patient_success (by decide) _

theorem lenient_login : Lenient (login cfg r) :=
  lenient_withBody fun entry =>
    lenient_respondWith (unmetered_flow cfg (.login entry.1 entry.2)) fun _ =>
      patient_success (by decide) _

theorem lenient_resendVerification : Lenient (resendVerification cfg r) :=
  lenient_withBody fun email =>
    lenient_respondWith (unmetered_flow cfg (.resendVerification email)) fun _ =>
      patient_success (by decide) _

theorem lenient_refresh : Lenient (refresh cfg r) :=
  lenient_withBody fun secret =>
    lenient_respondWith (unmetered_flow cfg (.refresh secret)) fun _ =>
      patient_success (by decide) _

theorem lenient_logout : Lenient (logout cfg r) := by
  unfold logout
  cases logoutSecret? r with
  | none => exact lenient_done (patient_refusal (by decide))
  | some secret =>
    exact lenient_respondWith (unmetered_flow cfg (.logout secret)) fun _ =>
      patient_success (by decide) _

theorem lenient_verifyEmail : Lenient (verifyEmail cfg r) := by
  refine lenient_withBody fun secret h => ?_
  refine meets_respondWith (unmetered_flow cfg (.verifyEmail secret) h) ?_ ?_
  · intro p
    exact patient_success (by decide) _
  · intro h e
    exact meets_refuseVerification (fun _ => trivial) (patient_ofAuth e)
      (patient_refusal (by decide))

theorem lenient_changePassword {caller : Jwt.Identity} : Lenient (changePassword cfg r caller) :=
  lenient_withBody fun entry =>
    lenient_respondWith (unmetered_flow cfg (.changePassword ⟨caller.userId⟩ entry.1 entry.2))
      fun _ => patient_success (by decide) _

theorem lenient_authenticated {next : Jwt.Identity → Flow Empty Response}
    (hnext : ∀ identity, Lenient (next identity)) : Lenient (authenticated r next) := by
  intro h
  unfold authenticated
  cases bearerToken r.headers with
  | none => exact .done (patient_refusal (by decide))
  | some token =>
    refine Flow.meets_bind (Flow.meets_attempt ((unmetered_flow {} (.validate token) h).mono ?_) ?_)
    · intro h identity _
      exact hnext identity h
    · intro h e
      exact meets_refuse (fun _ => trivial) (patient_ofAuth e)

theorem lenient_onMethod {p : Prop} [Decidable p] {next : Flow Empty Response}
    (hnext : Lenient next) : Lenient (if p then next else .done (emptyResponse 405)) := by
  split_ifs
  · exact hnext
  · exact lenient_done (by simp [Patient, emptyResponse])

/-- **Past the attempt budget no route asks for it, and none answers that it is used up.** -/
theorem lenient_guarded (cfg : Settings) (r : Request) (route : Route) :
    if route.limited then ∃ next, Lenient next ∧ guarded cfg r route = withinBudget r next
    else Lenient (guarded cfg r route) := by
  cases route with
  | register => exact ⟨_, lenient_onMethod lenient_register, rfl⟩
  | login => exact ⟨_, lenient_onMethod lenient_login, rfl⟩
  | resendVerification => exact ⟨_, lenient_onMethod lenient_resendVerification, rfl⟩
  | refresh => exact lenient_onMethod lenient_refresh
  | logout => exact lenient_onMethod lenient_logout
  | verifyEmail => exact lenient_onMethod lenient_verifyEmail
  | password =>
    exact lenient_authenticated fun _ => lenient_onMethod lenient_changePassword
  | me =>
    exact lenient_authenticated fun _ =>
      lenient_onMethod (lenient_done (patient_success (by decide) _))

end

end Http

end Gatehouse
