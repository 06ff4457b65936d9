/-
  Gatehouse — calls that take turns.

  Any number of calls go on at the same stores. A `Step` is the arrival of a call, or the
  turn of one call: it has its next question answered, and nothing else happens in between.
  A store call is one atomic step. It may be answered, or it may be lost (`Served.lost`):
  the caller then sees an error or no answer at all, whether the store has carried the call
  out or not. What the clock, the hasher, the generator of secrets, the codec of access
  tokens and the sender of mail reply is not restricted.

  A `State` keeps a log of all exchanges, each with its caller and with whether a store has
  carried it out. Statements about the order of events are statements about the log.

  * `Runs.leads`: a call has become what its own exchanges in the log lead to;
  * `Runs.split`: behind each entry of the log is a reachable state in which it happened;
  * `Runs.invariant`: what holds at first and is kept by every exchange holds throughout.
-/
import Gatehouse.Proofs.Exchange
import Gatehouse.Service.Operations
import Gatehouse.Service.Sweeper
import Mathlib.Logic.Relation
import Mathlib.Data.List.Infix

namespace Gatehouse

/-! ## Calls -/

/-- What can be called: an operation of the service, or a sweep. -/
inductive Call
  | register (form : Registration.Form)
  | login (email password : String)
  | logout (secret : String)
  | refresh (secret : String)
  | validate (token : String)
  | changePassword (id : UserId) (old new : String)
  | verifyEmail (secret : String)
  | resendVerification (email : String)
  | sweep (limit : Span)
deriving DecidableEq

namespace Call

/-- What a call returns. -/
abbrev Value : Call → Type
  | register _ => Profile
  | login _ _ => Login
  | logout _ => Unit
  | refresh _ => TokenPair
  | validate _ => Jwt.Identity
  | changePassword .. => Unit
  | verifyEmail _ => Profile
  | resendVerification _ => Unit
  | sweep _ => Nat

/-- How a call fails. -/
abbrev Failure : Call → Type
  | sweep _ => SweepError
  | _ => AuthError

/-- What is done for a call. -/
def flow (cfg : Settings) : (c : Call) → Flow c.Failure c.Value
  | register form => Service.register cfg form
  | login email password => Service.login cfg email password
  | logout secret => Service.logout cfg secret
  | refresh secret => Service.refresh cfg secret
  | validate token => Service.validate token
  | changePassword id old new => Service.changePassword cfg id old new
  | verifyEmail secret => Service.verifyEmail cfg secret
  | resendVerification email => Service.resendVerification cfg email
  | sweep limit => sweepOnce limit

end Call

/-! ## States -/

/-- Both stores. -/
structure Stores where
  users : UserStore
  tokens : TokenStore

/-- A call, and what is left to do for it. -/
structure Task where
  call : Call
  rest : Flow call.Failure call.Value

/-- An exchange of one of the calls. -/
structure Entry where
  caller : Nat
  call : Call
  exchange : Exchange
  /-- A store has carried the call out without an error. -/
  took : Bool

/-- The exchanges of one caller. -/
def historyOf (i : Nat) (log : List Entry) : History :=
  log.filterMap fun e => if e.caller = i then some e.exchange else none

/-- The stores, the calls in the order of their arrival, and all exchanges so far. -/
structure State extends Stores where
  tasks : List Task
  log : List Entry

namespace State

/-- No call has arrived yet. -/
def start (d : Stores) : State := { d with tasks := [], log := [] }

/-- A call has returned a value. -/
def Returned (s : State) (i : Nat) (c : Call) (v : c.Value) : Prop :=
  s.tasks[i]? = some ⟨c, .done v⟩

end State

/-! ## Steps -/

/-- What becomes of a store call with a given result: what its caller sees, and whether the
    store has carried it out. -/
inductive Served {α : Type} (result : Except StoreError α) :
    Option (Except StoreError α) → Bool → Prop
  | answered : Served result (some result) result.isOk
  | lost {reply took} : (∀ a, reply ≠ some (.ok a)) → (took = true → result.isOk = true) →
      Served result reply took

/-- The stores may reply this to a question, and are then as in `after`. -/
def Stores.Replies (d : Stores) : (q : Ask) → q.Reply → Bool → Stores → Prop
  | .users _ c, r, took, after =>
    Served (d.users.perform c).1 r took ∧
      after = if took then { d with users := (d.users.perform c).2 } else d
  | .tokens _ c, r, took, after =>
    Served (d.tokens.perform c).1 r took ∧
      after = if took then { d with tokens := (d.tokens.perform c).2 } else d
  | _, _, took, after => took = false ∧ after = d

/-- The exchange of an entry can come next, and leaves the stores as in `after`. -/
def State.Admits (s : State) (e : Entry) (after : Stores) : Prop :=
  (∃ k, s.tasks[e.caller]? = some ⟨e.call, .ask e.exchange.ask k⟩) ∧
    s.Replies e.exchange.ask e.exchange.reply e.took after

/-- One step: a call arrives, or a call has its next question answered. -/
inductive Step (cfg : Settings) : State → State → Prop
  | arrive {s : State} (c : Call) :
      Step cfg s { s with tasks := s.tasks ++ [⟨c, c.flow cfg⟩] }
  | turn {s : State} {i c q k r took after} : s.tasks[i]? = some ⟨c, .ask q k⟩ →
      s.Replies q r took after →
      Step cfg s { after with
        tasks := s.tasks.set i ⟨c, k r⟩, log := s.log ++ [⟨i, c, ⟨q, r⟩, took⟩] }

/-- Any number of steps. -/
abbrev Steps (cfg : Settings) : State → State → Prop := Relation.ReflTransGen (Step cfg)

/-- The state is reached from the stores, before any call. -/
abbrev Runs (cfg : Settings) (d : Stores) (s : State) : Prop := Steps cfg (.start d) s

variable {cfg : Settings} {d : Stores} {s s' : State}

/-! ## Replies -/

theorem UserStore.findById_eq {u : UserStore} {id : UserId} {v : User}
    (h : u.findById id = some v) : v ∈ u.records ∧ v.id = id :=
  ⟨List.mem_of_find?_eq_some h, by simpa using List.find?_some h⟩

theorem UserStore.findByEmail_eq {u : UserStore} {email : EmailAddress} {v : User}
    (h : u.findByEmail email = some v) : v ∈ u.records ∧ v.email = email :=
  ⟨List.mem_of_find?_eq_some h, by simpa using List.find?_some h⟩

theorem TokenStore.findBySecret_eq {u : TokenStore} {secret : String} {t : Token}
    (h : u.findBySecret secret = some t) : t ∈ u.records ∧ t.secret = secret :=
  ⟨List.mem_of_find?_eq_some h, by simpa using List.find?_some h⟩

/-- A store call that is answered with a value was carried out, and the value is the
    store's. -/
theorem Served.ok {α : Type} {result : Except StoreError α} {a : α} {took : Bool}
    (h : Served result (some (.ok a)) took) : result = .ok a ∧ took = true := by
  generalize hr : some (Except.ok a) = reply at h
  cases h with
  | answered => cases hr; exact ⟨rfl, rfl⟩
  | lost hl => exact absurd hr.symm (hl a)

/-- A store call that is carried out has a value for a result. -/
theorem Served.isOk {α : Type} {result : Except StoreError α} {reply}
    (h : Served result reply true) : result.isOk = true := by
  generalize ht : true = took at h
  cases h with
  | answered => rfl
  | lost _ hl => subst ht; exact hl rfl

/-- What the stores reply fits the question. -/
theorem Stores.Replies.fits {q : Ask} {r : q.Reply} {took after}
    (h : d.Replies q r took after) : q.Fits r := by
  unfold Ask.Fits
  split
  · exact (UserStore.findById_eq (Except.ok.inj h.1.ok.1)).2
  · exact (UserStore.findByEmail_eq (Except.ok.inj h.1.ok.1)).2
  · rename_i u v
    have h' := h.1.ok.1
    simp only [UserStore.perform, UserStore.committed] at h'
    split at h'
    · exact (Except.ok.inj h').symm
    · cases h'
  · rename_i u v
    have h' := h.1.ok.1
    simp only [UserStore.perform, UserStore.committed] at h'
    split at h'
    · exact (Except.ok.inj h').symm
    · cases h'
  · exact (TokenStore.findBySecret_eq (Except.ok.inj h.1.ok.1)).2
  · trivial

/-! ## The log -/

/-- What was at a place of a list, such as a log, is there when more has been added. -/
theorem getElem?_append_of_some {α : Type} {log log' : List α} {n : Nat} {e : α}
    (h : log[n]? = some e) : (log ++ log')[n]? = some e := by
  rw [List.getElem?_append_left (List.getElem?_eq_some_iff.1 h).1, h]

@[simp]
theorem historyOf_nil (i : Nat) : historyOf i [] = [] := rfl

@[simp]
theorem historyOf_append (i : Nat) (l l' : List Entry) :
    historyOf i (l ++ l') = historyOf i l ++ historyOf i l' := by simp [historyOf]

theorem mem_historyOf {i : Nat} {log : List Entry} {x : Exchange} :
    x ∈ historyOf i log ↔ ∃ e ∈ log, e.caller = i ∧ e.exchange = x := by
  simp [historyOf]

/-- What the exchanges of a caller show, the log shows at some moment. -/
theorem mem_view {β : Type} {f : Exchange → Option β} {i : Nat} {log : List Entry} {x : β} :
    x ∈ (historyOf i log).filterMap f ↔
      ∃ (n : Nat) (e : Entry), log[n]? = some e ∧ e.caller = i ∧ f e.exchange = some x := by
  simp only [List.mem_filterMap, mem_historyOf]
  constructor
  · rintro ⟨_, ⟨e, he, hi, rfl⟩, hx⟩
    obtain ⟨n, hn⟩ := List.mem_iff_getElem?.1 he
    exact ⟨n, e, hn, hi, hx⟩
  · rintro ⟨n, e, hn, hi, hx⟩
    exact ⟨_, ⟨e, List.mem_iff_getElem?.2 ⟨n, hn⟩, hi, rfl⟩, hx⟩

/-- The one thing that the exchanges of a caller show. -/
theorem view_one {β : Type} {f : Exchange → Option β} {i : Nat} {log : List Entry} {x : β}
    (h : (historyOf i log).filterMap f = [x]) :
    ∃ (n : Nat) (e : Entry), log[n]? = some e ∧ e.caller = i ∧ f e.exchange = some x :=
  mem_view.1 (h ▸ List.mem_singleton_self x)

theorem mem_view_take {β : Type} {f : Exchange → Option β} {i p : Nat} {log : List Entry} {x : β} :
    x ∈ (historyOf i (log.take p)).filterMap f ↔
      ∃ (n : Nat) (e : Entry), n < p ∧ log[n]? = some e ∧ e.caller = i ∧
        f e.exchange = some x := by
  rw [mem_view]
  refine exists_congr fun n => exists_congr fun e => ?_
  rw [List.getElem?_take, Option.ite_none_right_eq_some, and_assoc]

theorem Step.log_prefix (h : Step cfg s s') : s.log <+: s'.log := by
  cases h with
  | arrive => exact List.prefix_rfl
  | turn => exact List.prefix_append _ _

theorem Steps.log_prefix (h : Steps cfg s s') : s.log <+: s'.log := by
  induction h with
  | refl => exact List.prefix_rfl
  | tail _ hs ih => exact ih.trans hs.log_prefix

namespace Runs

/-- The caller of an entry is a call that has arrived. -/
theorem arrived (h : Runs cfg d s) {e : Entry} (he : e ∈ s.log) :
    ∃ m, s.tasks[e.caller]? = some ⟨e.call, m⟩ := by
  induction h with
  | refl => cases he
  | @tail s₁ s₂ _ hs ih =>
    cases hs with
    | arrive c' =>
      obtain ⟨m, hm⟩ := ih he
      exact ⟨m, by rw [List.getElem?_append_left (List.getElem?_eq_some_iff.1 hm).1, hm]⟩
    | @turn j c' q k r took after hj hr =>
      have hlt := (List.getElem?_eq_some_iff.1 hj).1
      rcases List.mem_append.1 he with he | he
      · obtain ⟨m, hm⟩ := ih he
        by_cases hij : j = e.caller
        · subst hij
          rw [hj] at hm; cases hm
          exact ⟨k r, List.getElem?_set_self hlt⟩
        · exact ⟨m, by rw [List.getElem?_set_ne hij, hm]⟩
      · rw [List.mem_singleton.1 he]
        exact ⟨k r, List.getElem?_set_self hlt⟩

theorem call_eq (h : Runs cfg d s) {n i : Nat} {e : Entry} {c : Call} {m}
    (he : s.log[n]? = some e) (hi : e.caller = i) (hc : s.tasks[i]? = some ⟨c, m⟩) :
    e.call = c := by
  obtain ⟨m', hm'⟩ := h.arrived (List.mem_of_getElem? he)
  rw [hi, hc] at hm'
  cases hm'; rfl

theorem call_unique (h : Runs cfg d s) {m n : Nat} {a b : Entry} (ha : s.log[m]? = some a)
    (hb : s.log[n]? = some b) (hab : a.caller = b.caller) : a.call = b.call := by
  obtain ⟨k, hk⟩ := h.arrived (List.mem_of_getElem? hb)
  exact h.call_eq ha hab hk

theorem historyOf_of_le (h : Runs cfg d s) {i : Nat} (hi : s.tasks.length ≤ i) :
    historyOf i s.log = [] := by
  rw [List.eq_nil_iff_forall_not_mem]
  intro x hx
  obtain ⟨e, he, rfl, -⟩ := mem_historyOf.1 hx
  obtain ⟨m, hm⟩ := h.arrived he
  have := (List.getElem?_eq_some_iff.1 hm).1
  omega

/-- A call has become what its exchanges lead to. -/
theorem leads (h : Runs cfg d s) {i : Nat} {c : Call} {m} (hi : s.tasks[i]? = some ⟨c, m⟩) :
    (c.flow cfg).Leads (historyOf i s.log) m := by
  induction h generalizing m with
  | refl => simp [State.start] at hi
  | @tail s₁ s₂ h₁ hs ih =>
    cases hs with
    | arrive c' =>
      by_cases hlt : i < s₁.tasks.length
      · rw [List.getElem?_append_left hlt] at hi; exact ih hi
      · rw [List.getElem?_append_right (by omega), List.getElem?_singleton] at hi
        split_ifs at hi; cases hi
        rw [historyOf_of_le h₁ (by omega)]; exact .refl
    | @turn j c' q k r took after hj hr =>
      by_cases hij : j = i
      · subst hij
        rw [List.getElem?_set_self (List.getElem?_eq_some_iff.1 hj).1] at hi
        cases hi
        simpa [historyOf] using (ih hj).snoc hr.fits
      · rw [List.getElem?_set_ne hij] at hi
        simpa [historyOf, hij] using ih hi

/-- Behind each entry of the log is a reachable state in which the exchange happened. -/
theorem split (h : Runs cfg d s) {l₁ l₂ : List Entry} {e : Entry} (hl : s.log = l₁ ++ e :: l₂) :
    ∃ s₁ s₂, Runs cfg d s₁ ∧ s₁.log = l₁ ∧ s₁.Admits e s₂.toStores ∧ s₂.log = l₁ ++ [e] ∧
      Step cfg s₁ s₂ ∧ Steps cfg s₂ s := by
  induction h generalizing l₂ with
  | refl => simp [State.start] at hl
  | @tail s₁ s₂ h₁ hs ih =>
    have hlast := hs
    cases hs with
    | arrive c' =>
      obtain ⟨t₁, t₂, h1, h2, h3, h4, h5, h6⟩ := ih hl
      exact ⟨t₁, t₂, h1, h2, h3, h4, h5, h6.tail hlast⟩
    | @turn j c' q k r took after hj hr =>
      simp only at hl
      rcases List.eq_nil_or_concat l₂ with rfl | ⟨l, x, rfl⟩
      · obtain ⟨rfl, he⟩ := List.append_inj' hl rfl
        cases he
        exact ⟨s₁, _, h₁, rfl, ⟨⟨k, hj⟩, hr⟩, rfl, hlast, .refl⟩
      · rw [List.concat_eq_append, ← List.cons_append, ← List.append_assoc] at hl
        obtain ⟨hl, -⟩ := List.append_inj' hl rfl
        obtain ⟨t₁, t₂, h1, h2, h3, h4, h5, h6⟩ := ih hl
        exact ⟨t₁, t₂, h1, h2, h3, h4, h5, h6.tail hlast⟩

/-- Behind each moment of the log is a reachable state in which the exchange happened. -/
theorem moment (h : Runs cfg d s) {n : Nat} {e : Entry} (he : s.log[n]? = some e) :
    ∃ s₁ s₂, Runs cfg d s₁ ∧ s₁.log = s.log.take n ∧ s₁.Admits e s₂.toStores ∧
      s₂.log = s.log.take (n + 1) ∧ Step cfg s₁ s₂ ∧ Steps cfg s₂ s := by
  obtain ⟨hn, he⟩ := List.getElem?_eq_some_iff.1 he
  have hl : s.log = s.log.take n ++ e :: s.log.drop (n + 1) := by
    rw [← he, List.cons_getElem_drop_succ, List.take_append_drop]
  obtain ⟨s₁, s₂, h₁, hl₁, ha, hl₂, hs⟩ := h.split hl
  refine ⟨s₁, s₂, h₁, hl₁, ha, ?_, hs⟩
  rw [hl₂, List.take_succ_eq_append_getElem hn, he]

theorem fits (h : Runs cfg d s) {n : Nat} {e : Entry} (he : s.log[n]? = some e) :
    e.exchange.ask.Fits e.exchange.reply := by
  obtain ⟨_, _, -, -, ⟨-, hr⟩, -⟩ := h.moment he
  exact hr.fits

/-- What holds of the stores and the log at first, and is kept by every exchange. -/
theorem invariant {P : Stores → List Entry → Prop} (h₀ : P d [])
    (hstep : ∀ {s e after}, Runs cfg d s → s.Admits e after → P s.toStores s.log →
      P after (s.log ++ [e])) (h : Runs cfg d s) : P s.toStores s.log := by
  induction h with
  | refl => exact h₀
  | @tail s₁ s₂ h₁ hs ih =>
    cases hs with
    | arrive c' => exact ih
    | turn hj hr => exact hstep h₁ ⟨⟨_, hj⟩, hr⟩ ih

end Runs

end Gatehouse
