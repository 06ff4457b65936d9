/-
  Gatehouse — the attempt budget of the routes.

  Three routes share one limiter. A `Desk` is the service behind it: the limiter is asked at the
  reading at which a request comes, and all else is answered by the surroundings of the service,
  whatever they are. Requests are served one after another.

  * `Desk.serve_limited`: a request to one of the three routes is one attempt, and nothing but the
    limiter decides whether it is turned away;
  * `Desk.serve_other`: any other request leaves the limiter as it is, and is not turned away;
  * `Desk.limiter_after`: so the limiter has seen the requests to the three routes, and no others;
  * `Desk.turns_away_exactly`: which requests are turned away.
-/
import Gatehouse.Proofs.Handling
import Gatehouse.Proofs.Outages
import Gatehouse.Proofs.Window

namespace Gatehouse

/-- The question is for what stands behind the attempt budget: for the service, or its stores. -/
def Ask.inward : Ask → Bool
  | .permit _ => false
  | .log _ => false
  | _ => true

namespace Http

/-! ## Requests in a row -/

/-- A request, and when it comes. -/
structure Visit where
  request : Request
  reading : Reading

namespace Visit

/-- Who makes the request. -/
def client (v : Visit) : String := clientKey v.request.headers v.request.peer

/-- The attempt that is made with a request. -/
def attempt (v : Visit) : Attempt := ⟨v.client, v.reading⟩

/-- The request goes to one of the three routes that share the budget. -/
def limited (v : Visit) : Bool :=
  [Route.register, .login, .resendVerification].any fun route => route.path == v.request.path

/-- The earlier visit `w` takes up room in the window of `v`. -/
def weighsOn (window : Span) (v w : Visit) : Bool :=
  w.limited && w.client == v.client && v.reading.nanos - w.reading.nanos < window.nanos

/-- The requests come in the order of their readings. -/
def Steady (visits : List Visit) : Prop :=
  visits.Pairwise fun v w => v.reading.nanos ≤ w.reading.nanos

instance (visits : List Visit) : Decidable (Steady visits) :=
  inferInstanceAs (Decidable (List.Pairwise _ _))

theorem limited_iff {v : Visit} : v.limited = true ↔
    ∃ route : Route, route.limited = true ∧ Route.ofPath? v.request.path = some route := by
  constructor
  · intro hv
    obtain ⟨route, hmem, hpath⟩ := List.any_eq_true.1 hv
    have hpath : route.path = v.request.path := by simpa using hpath
    refine ⟨route, ?_, ?_⟩
    · simp only [List.mem_cons, List.not_mem_nil, or_false] at hmem
      rcases hmem with rfl | rfl | rfl <;> rfl
    · rw [← hpath, Route.ofPath?_path]
  · rintro ⟨route, hroute, hpath⟩
    have := Route.path_of_ofPath? hpath
    refine List.any_eq_true.2 ⟨route, ?_, by simpa using this⟩
    cases route <;> simp [Route.limited] at hroute ⊢

/-- The attempts that are made with requests to the three routes. -/
def attempts (visits : List Visit) : List Attempt := (visits.filter (·.limited)).map attempt

theorem attempts_cons_limited {v : Visit} (hv : v.limited = true) (visits : List Visit) :
    attempts (v :: visits) = v.attempt :: attempts visits := by
  simp [attempts, hv]

theorem attempts_cons_other {v : Visit} (hv : v.limited = false) (visits : List Visit) :
    attempts (v :: visits) = attempts visits := by
  simp [attempts, hv]

theorem attempts_append_limited {v : Visit} (hv : v.limited = true) (visits : List Visit) :
    attempts (visits ++ [v]) = attempts visits ++ [v.attempt] := by
  simp [attempts, hv]

theorem Steady.attempts {visits : List Visit} (h : Steady visits) :
    Limiter.Steady (attempts visits) :=
  List.pairwise_map.2 (h.filter _)

/-- Of the attempts of earlier visits, those take up room that are recent and of the client. -/
theorem length_recent (l : Limiter) (v : Visit) (visits : List Visit) :
    ((l.recent v.attempt (attempts visits)).filter (·.client == v.attempt.client)).length =
      (visits.filter (weighsOn l.window v)).length := by
  unfold Limiter.recent attempts
  rw [List.filter_map, List.filter_map, List.length_map, List.filter_filter, List.filter_filter]
  congr 1
  refine List.filter_congr fun w _ => ?_
  unfold weighsOn
  cases w.limited with
  | false => simp
  | true => rw [Bool.and_true, Bool.true_and]; rfl

end Visit

/-- The service behind its attempt budget. -/
structure Desk where
  limiter : Limiter
  scene : Scene

namespace Desk

/-- Answer a question: the limiter is asked at a reading of its clock, everything else is replied
    in the scene. -/
def next (o : Surroundings) (reading : Reading) : (q : Ask) → Desk → q.Reply × Desk
  | .permit client, d =>
    let (admitted, limiter) := d.limiter.check client reading.nanos
    (admitted, { d with limiter })
  | q, d =>
    let (reply, scene) := d.scene.next o q
    (reply, { d with scene })

/-- Serve a request: the response, and the desk afterwards. -/
def serve (cfg : Settings) (o : Surroundings) (d : Desk) (v : Visit) :
    Ending Empty Response × Desk :=
  (respond cfg v.request).run (next o v.reading) d

/-- What is asked while a request is served. -/
def exchanges (cfg : Settings) (o : Surroundings) (d : Desk) (v : Visit) : History :=
  (respond cfg v.request).record (next o v.reading) d

/-- The request is turned away. -/
def turnsAway (cfg : Settings) (o : Surroundings) (d : Desk) (v : Visit) : Bool :=
  status? (d.serve cfg o v).1 == some 429

/-- The desk after some requests. -/
def after (cfg : Settings) (o : Surroundings) (d : Desk) (visits : List Visit) : Desk :=
  visits.foldl (fun d v => (d.serve cfg o v).2) d

/-- The requests, of some that are served in order, that are not turned away. -/
def received (cfg : Settings) (o : Surroundings) : Desk → List Visit → List Visit
  | _, [] => []
  | d, v :: visits =>
    if d.turnsAway cfg o v then received cfg o (d.serve cfg o v).2 visits
    else v :: received cfg o (d.serve cfg o v).2 visits

section

variable {cfg : Settings} {o : Surroundings} {d : Desk} {v : Visit} {t : Reading}

/-! ## One request -/

theorem fits_next (o : Surroundings) (t : Reading) (q : Ask) (d : Desk) :
    q.Fits (d.next o t q).1 := by
  cases q with
  | permit client => trivial
  | _ => exact Scene.fits_next o _ d.scene

/-- Past the budget the limiter is left alone, and no one is turned away. -/
theorem run_lenient {m : Flow Empty Response} (hm : Lenient m) (d : Desk) :
    (m.run (next o t) d).2.limiter = d.limiter ∧ status? (m.run (next o t) d).1 ≠ some 429 := by
  have hkeep : ∀ (q : Ask) (d' : Desk), Unmetered q → d'.limiter = d.limiter →
      q.Fits (d'.next o t q).1 ∧ (d'.next o t q).2.limiter = d.limiter := by
    intro q d' hq hd'
    refine ⟨fits_next o t q d', ?_⟩
    cases q with
    | permit client => exact hq.elim
    | _ => exact hd'
  obtain ⟨hlimiter, hpatient⟩ := (hm []).run hkeep rfl
  refine ⟨hlimiter, ?_⟩
  cases hend : (m.run (next o t) d).1 with
  | done p =>
    intro hstatus
    exact hpatient p hend (Option.some.inj hstatus)
  | failed e => cases e
  | crashed x => simp [status?]

/-- The log and the headers change neither the limiter nor the status. -/
theorem completed_fst (route : Route) (method : String) (x : Ending Empty Response × Desk) :
    status? (completed (next o t) (·.onRoute route method) x).1 = status? x.1 ∧
      (completed (next o t) (·.onRoute route method) x).2.limiter = x.2.limiter := by
  obtain ⟨e, d'⟩ := x
  cases e with
  | done p => exact ⟨rfl, rfl⟩
  | failed e => cases e
  | crashed x => exact ⟨rfl, rfl⟩

theorem serve_limited (cfg : Settings) (o : Surroundings) (hmethod : v.request.method ≠ "OPTIONS")
    (hv : v.limited = true) (d : Desk) :
    (d.serve cfg o v).2.limiter = d.limiter.next v.attempt ∧
      d.turnsAway cfg o v = !d.limiter.admits v.attempt := by
  obtain ⟨route, hroute, hpath⟩ := Visit.limited_iff.1 hv
  have hguarded := lenient_guarded cfg v.request route
  rw [if_pos hroute] at hguarded
  obtain ⟨m, hm, hguarded⟩ := hguarded
  have hstarted : (started (next o v.reading) v.request d).limiter = d.limiter := rfl
  unfold turnsAway serve
  rw [run_respond hmethod hpath, (completed_fst _ _ _).1, (completed_fst _ _ _).2, hguarded,
    run_withinBudget]
  simp only [next, hstarted]
  unfold Limiter.next Limiter.admits Visit.attempt Visit.client
  generalize d.limiter.check (clientKey v.request.headers v.request.peer) v.reading.nanos = checked
  obtain ⟨admitted, limiter⟩ := checked
  cases admitted with
  | true =>
    obtain ⟨hlimiter, hstatus⟩ := run_lenient (o := o) (t := v.reading) hm
      { started (next o v.reading) v.request d with limiter }
    refine ⟨hlimiter, ?_⟩
    simpa using hstatus
  | false => exact ⟨rfl, rfl⟩

theorem serve_other (cfg : Settings) (o : Surroundings) (hmethod : v.request.method ≠ "OPTIONS")
    (hv : v.limited = false) (d : Desk) :
    (d.serve cfg o v).2.limiter = d.limiter ∧ d.turnsAway cfg o v = false := by
  unfold turnsAway serve
  cases hpath : Route.ofPath? v.request.path with
  | none =>
    rw [run_respond_none hmethod hpath]
    exact ⟨rfl, rfl⟩
  | some route =>
    have hroute : ¬ route.limited = true := by
      intro hroute
      rw [Visit.limited_iff.2 ⟨route, hroute, hpath⟩] at hv
      cases hv
    have hguarded := lenient_guarded cfg v.request route
    rw [if_neg hroute] at hguarded
    obtain ⟨hlimiter, hstatus⟩ := run_lenient (o := o) (t := v.reading) hguarded
      (started (next o v.reading) v.request d)
    rw [run_respond hmethod hpath, (completed_fst _ _ _).1, (completed_fst _ _ _).2]
    refine ⟨hlimiter, ?_⟩
    simpa using hstatus

/-- What is asked for a request to one of the three routes: only the log is written when it is not
    admitted. -/
theorem respond_limited (cfg : Settings) (hmethod : v.request.method ≠ "OPTIONS")
    (hv : v.limited = true) :
    ∃ k, (respond cfg v.request) =
        .ask (.log (.requestStarted v.request.method (uriOf v.request.target))) (fun _ =>
          .ask (.permit v.client) k) ∧
      ∃ p, k false = .ask (.log (.limitExceeded v.client)) fun _ =>
        .ask (.log (.requestCompleted 429)) fun _ => .done p := by
  obtain ⟨route, hroute, hpath⟩ := Visit.limited_iff.1 hv
  have hguarded := lenient_guarded cfg v.request route
  rw [if_pos hroute] at hguarded
  obtain ⟨m, -, hguarded⟩ := hguarded
  unfold respond
  rw [if_neg hmethod, hpath]
  simp only [routed, hguarded, withinBudget]
  exact ⟨_, rfl, _, rfl⟩

/-- Whoever is turned away has reached neither the service nor its stores. -/
theorem untouched_of_turnsAway (hmethod : v.request.method ≠ "OPTIONS") {d : Desk}
    (haway : d.turnsAway cfg o v = true) :
    (∀ x ∈ d.exchanges cfg o v, x.ask.inward = false) ∧
      (d.serve cfg o v).2.scene.toStores = d.scene.toStores := by
  cases hlimited : v.limited with
  | false =>
    rw [(serve_other cfg o hmethod hlimited d).2] at haway
    cases haway
  | true =>
    obtain ⟨k, hrespond, p, hk⟩ := respond_limited cfg hmethod hlimited
    rw [(serve_limited cfg o hmethod hlimited d).2, Bool.not_eq_true'] at haway
    have hdenied : (d.limiter.check v.client v.reading.nanos).1 = false := haway
    unfold exchanges serve
    rw [hrespond]
    simp only [Flow.record, Flow.run, next, hdenied, hk]
    refine ⟨?_, rfl⟩
    intro x hx
    simp only [List.mem_cons, List.not_mem_nil, or_false] at hx
    rcases hx with rfl | rfl | rfl | rfl
    · rfl
    · rfl
    · rfl
    · rfl

/-! ## Many requests -/

theorem limiter_after (d : Desk) {visits : List Visit}
    (hmethod : ∀ v ∈ visits, v.request.method ≠ "OPTIONS") :
    (d.after cfg o visits).limiter = d.limiter.after (Visit.attempts visits) := by
  induction visits generalizing d with
  | nil => rfl
  | cons v visits ih =>
    obtain ⟨hv, hvisits⟩ := List.forall_mem_cons.1 hmethod
    have hafter : d.after cfg o (v :: visits) = (d.serve cfg o v).2.after cfg o visits := rfl
    rw [hafter, ih _ hvisits]
    cases hlimited : v.limited with
    | true =>
      rw [(serve_limited cfg o hv hlimited d).1, Visit.attempts_cons_limited hlimited]
      rfl
    | false => rw [(serve_other cfg o hv hlimited d).1, Visit.attempts_cons_other hlimited]

theorem attempts_received (d : Desk) {visits : List Visit}
    (hmethod : ∀ v ∈ visits, v.request.method ≠ "OPTIONS") :
    Visit.attempts (d.received cfg o visits) = d.limiter.admitted (Visit.attempts visits) := by
  induction visits generalizing d with
  | nil => rfl
  | cons v visits ih =>
    obtain ⟨hv, hvisits⟩ := List.forall_mem_cons.1 hmethod
    have hrest := ih (d.serve cfg o v).2 hvisits
    unfold received
    cases hlimited : v.limited with
    | true =>
      obtain ⟨hlimiter, haway⟩ := serve_limited cfg o hv hlimited d
      rw [hlimiter] at hrest
      rw [haway, Visit.attempts_cons_limited hlimited, Limiter.admitted]
      cases hadmits : d.limiter.admits v.attempt with
      | true =>
        rw [← hrest]
        exact Visit.attempts_cons_limited hlimited _
      | false => exact hrest
    | false =>
      obtain ⟨hlimiter, haway⟩ := serve_other cfg o hv hlimited d
      rw [hlimiter] at hrest
      rw [haway, Visit.attempts_cons_other hlimited, ← hrest]
      exact Visit.attempts_cons_other hlimited _

/-- What decides about the next request: the attempts before it, whatever else was served. -/
theorem turnsAway_after (l : Limiter) (s : Scene) {visits : List Visit}
    (hmethod : ∀ w ∈ visits ++ [v], w.request.method ≠ "OPTIONS") :
    (after cfg o ⟨l, s⟩ visits).turnsAway cfg o v =
      (v.limited && !(l.after (Visit.attempts visits)).admits v.attempt) := by
  obtain ⟨hvisits, hv⟩ := List.forall_mem_append.1 hmethod
  have hv := hv v (List.mem_singleton_self v)
  cases hlimited : v.limited with
  | true => rw [(serve_limited cfg o hv hlimited _).2, limiter_after _ hvisits, Bool.true_and]
  | false => rw [(serve_other cfg o hv hlimited _).2, Bool.false_and]

end

/-- **Three routes share the attempt budget, and nothing else touches it.** Of `POST` requests that
    come one after another, one to the three routes is turned away if and only if at least `most`
    earlier ones of its client to these routes were not turned away less than a window before it;
    then neither the service nor a store is reached. A request to another route is never turned
    away, and whether a request is turned away does not hang on such requests, on the settings or on
    the surroundings. -/
theorem turns_away_exactly (cfg : Settings) (o : Surroundings) {most : Nat} (hmost : 0 < most)
    (window : Span) (s : Scene) (visits : List Visit) (v : Visit)
    (hposts : ∀ w ∈ visits ++ [v], w.request.method = "POST")
    (hsteady : Visit.Steady (visits ++ [v])) :
    let d : Desk := ⟨⟨most, window, []⟩, s⟩
    let now := d.after cfg o visits
    (v.limited = true → (now.turnsAway cfg o v = true ↔
        most ≤ ((d.received cfg o visits).filter (v.weighsOn window)).length)) ∧
      (now.turnsAway cfg o v = true →
        (∀ x ∈ now.exchanges cfg o v, x.ask.inward = false) ∧
          (now.serve cfg o v).2.scene.toStores = now.scene.toStores) ∧
      (v.limited = false → now.turnsAway cfg o v = false) ∧
      ∀ (cfg' : Settings) (o' : Surroundings) (s' : Scene) (visits' : List Visit),
        (∀ w ∈ visits', w.request.method = "POST") →
        visits'.filter (·.limited) = visits.filter (·.limited) →
        (after cfg' o' ⟨⟨most, window, []⟩, s'⟩ visits').turnsAway cfg' o' v =
          now.turnsAway cfg o v := by
  have hoptions : ∀ w : Visit, w.request.method = "POST" → w.request.method ≠ "OPTIONS" := by
    intro w hw
    rw [hw]
    decide
  have hmethod : ∀ w ∈ visits ++ [v], w.request.method ≠ "OPTIONS" :=
    fun w hw => hoptions w (hposts w hw)
  obtain ⟨hvisits, hv⟩ := List.forall_mem_append.1 hmethod
  have hv := hv v (List.mem_singleton_self v)
  intro d now
  have haway : now.turnsAway cfg o v =
      (v.limited && !(d.limiter.after (Visit.attempts visits)).admits v.attempt) :=
    turnsAway_after _ s hmethod
  refine ⟨?_, untouched_of_turnsAway hv, ?_, ?_⟩
  · intro hlimited
    have hattempts : Limiter.Steady (Visit.attempts visits ++ [v.attempt]) := by
      have := hsteady.attempts
      rwa [Visit.attempts_append_limited hlimited] at this
    have hadmits := Limiter.admits_after_iff window hmost hattempts
    rw [← attempts_received d hvisits, Visit.length_recent] at hadmits
    rw [haway, hlimited, Bool.true_and, Bool.not_eq_true', ← Bool.not_eq_true, hadmits, not_lt]
  · intro hlimited
    rw [haway, hlimited, Bool.false_and]
  · intro cfg' o' s' visits' hposts' hsame
    have hmethod' : ∀ w ∈ visits' ++ [v], w.request.method ≠ "OPTIONS" := by
      rw [List.forall_mem_append]
      exact ⟨fun w hw => hoptions w (hposts' w hw), by simpa using hv⟩
    have hattempts : Visit.attempts visits' = Visit.attempts visits := by
      unfold Visit.attempts
      rw [hsame]
    rw [haway, turnsAway_after _ s' hmethod', hattempts]

/-- A body that is not announced, a logout, and a login with a body that is no JSON, all from one
    address behind different headers. -/
def knocks : List Visit :=
  [⟨⟨"POST", "/api/auth/register?from=mail", [⟨"X-Forwarded-For", "10.0.0.7, 10.0.0.1"⟩], none, []⟩,
      .ofNanos 0⟩,
    ⟨⟨"POST", "/api/auth/logout", [], some (.v4 [10, 0, 0, 7]), []⟩, .ofNanos 20000000000⟩,
    ⟨⟨"POST", "/api/auth/login",
        [⟨"x-real-ip", "10.0.0.7"⟩, ⟨"Content-Type", "application/json"⟩], none, [0x7B]⟩,
      .ofNanos 20000000000⟩]

/-- A further request is turned away within a minute of the first, and received after it. -/
theorem turns_away_exactly_knocks :
    let third (nanos : Nat) : Visit :=
      ⟨⟨"POST", "/api/auth/resend-verification", [], some (.v4 [10, 0, 0, 7]), []⟩,
        .ofNanos nanos⟩
    let now := after {} .plain ⟨⟨2, .ofSeconds 60, []⟩, ⟨adasStores, 0, [], []⟩⟩ knocks
    (∀ w ∈ knocks ++ [third 59999999999], w.request.method = "POST") ∧
      Visit.Steady (knocks ++ [third 59999999999]) ∧
      now.turnsAway {} .plain (third 59999999999) = true ∧
      now.turnsAway {} .plain (third 60000000000) = false := by
  intro third now
  have hmost : 0 < 2 := by decide
  have hposts : ∀ nanos, ∀ w ∈ knocks ++ [third nanos], w.request.method = "POST" := by
    intro nanos w hw
    simp only [knocks, List.cons_append, List.nil_append, List.mem_cons, List.not_mem_nil,
      or_false] at hw
    rcases hw with rfl | rfl | rfl | rfl <;> rfl
  have hsteady : Visit.Steady (knocks ++ [third 59999999999]) := by decide
  have hsteady' : Visit.Steady (knocks ++ [third 60000000000]) := by decide
  refine ⟨hposts _, hsteady, ?_, ?_⟩
  · refine ((turns_away_exactly {} .plain hmost _ _ knocks _ (hposts _) hsteady).1
      (by decide +kernel)).2 ?_
    decide +kernel
  · rw [Bool.eq_false_iff]
    refine mt ((turns_away_exactly {} .plain hmost _ _ knocks _ (hposts _) hsteady').1
      (by decide +kernel)).1 ?_
    decide +kernel

end Desk

end Http

end Gatehouse
