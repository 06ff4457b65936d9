/-
  Gatehouse — store calls that fail.

  A store call fails if the store reports an error, or if no answer comes in time. Whatever the
  surroundings reply, an operation asks the stores nothing more after that, and answers with an
  error that the call and its failure determine (`Call.refusal`). One failure is passed over: an
  account whose verification token could not be stored is open all the same (`Call.overlooks`).

  * `Flow.Heeds`: what a flow does after a store call has failed, with a rule for each of the ways
    in which flows are put together;
  * `Call.heeds`: what each operation does then;
  * `Call.fault_told`: how a call ends one of whose store calls has failed.
-/
import Gatehouse.Proofs.Retries

namespace Gatehouse

/-! ## Failures of store calls -/

/-- What the caller of a store call takes for its failure: the error of the store, or that no answer
    came in time. -/
def Ask.fault? : (q : Ask) → q.Reply → Option StoreError
  | .users limit c, none => some (.timedOut c.title limit)
  | .users _ _, some (.error e) => some e
  | .tokens limit c, none => some (.timedOut c.title limit)
  | .tokens _ _, some (.error e) => some e
  | _, _ => none

/-- The failure of a store call. -/
def Exchange.fault? (x : Exchange) : Option StoreError := x.ask.fault? x.reply

theorem Ask.Apart.fault_eq_none {q : Ask} (hq : q.Apart) (r : q.Reply) : q.fault? r = none := by
  cases q with
  | users l c => exact hq.elim
  | tokens l c => exact hq.elim
  | _ => rfl

namespace Call

/-- A failure of this store call is passed over: the token that a registration mails to confirm the
    address. -/
def overlooks : Call → Ask → Bool
  | .register _, .tokens _ (.create t) => t.kind == .verification
  | _, _ => false

/-- The error that is answered after a store call has failed: an outage is told as it is, and an
    error that nobody expected is an internal one. Three are expected, as somebody else may have
    written since the record was looked up. -/
def refusal : Call → Ask → StoreError → AuthError
  | .register _, .users _ (.create _), .conflict _ => .emailTaken
  | .changePassword id _ _, .users _ (.update _), .notFound _ => .userNotFound id.text
  | .verifyEmail _, .users _ (.update _), .notFound _ => .invalidToken
  | _, _, .unavailable reason => .storageUnavailable reason
  | _, _, e => .internal e.message

end Call

/-! ## What a flow does after a failure -/

namespace Flow

variable {ε ε' α β σ : Type}

/-- The exchanges of a flow that is run to its end. -/
def record (handler : (q : Ask) → σ → q.Reply × σ) : Flow ε α → σ → History
  | .ask q k, s =>
    let (r, s) := handler q s
    ⟨q, r⟩ :: record handler (k r) s
  | _, _ => []

/-- The flow asks nothing of the stores, and its ending satisfies `P`. -/
inductive Closes (P : Ending ε α → Prop) : Flow ε α → Prop
  | done {a} : P (.done a) → Closes P (.done a)
  | fail {e} : P (.failed e) → Closes P (.fail e)
  | crash {o} : P (.crashed o) → Closes P (.crash o)
  | ask {q k} : q.Apart → (∀ r, Closes P (k r)) → Closes P (.ask q k)

/-- After a store call `q` has failed with an error `e`, the flow asks nothing more of the stores,
    and ends as `T q e` says. -/
inductive Heeds (T : Ask → StoreError → Ending ε α → Prop) : Flow ε α → Prop
  | done {a} : Heeds T (.done a)
  | fail {e} : Heeds T (.fail e)
  | crash {o} : Heeds T (.crash o)
  | ask {q k} : (∀ r, q.fault? r = none → Heeds T (k r)) →
      (∀ r e, q.fault? r = some e → (k r).Closes (T q e)) → Heeds T (.ask q k)

theorem Closes.run {P : Ending ε α → Prop} {m : Flow ε α} (hm : m.Closes P)
    (handler : (q : Ask) → σ → q.Reply × σ) (s : σ) :
    (∀ x ∈ m.record handler s, x.ask.Apart) ∧ P (m.run handler s).1 := by
  induction hm generalizing s with
  | done h => exact ⟨by simp [record], h⟩
  | fail h => exact ⟨by simp [record], h⟩
  | crash h => exact ⟨by simp [record], h⟩
  | @ask q k hq _ ih =>
    obtain ⟨hapart, hend⟩ := ih (handler q s).1 (handler q s).2
    refine ⟨fun x hx => ?_, hend⟩
    rcases List.mem_cons.1 hx with rfl | hx
    · exact hq
    · exact hapart x hx

/-- What a flow heeds holds of every run of it, whoever replies. -/
theorem Heeds.run {T : Ask → StoreError → Ending ε α → Prop} {m : Flow ε α} (hm : m.Heeds T)
    (handler : (q : Ask) → σ → q.Reply × σ) {s : σ} {before after : History} {x : Exchange}
    {e : StoreError} (hx : m.record handler s = before ++ x :: after) (he : x.fault? = some e) :
    (∀ y ∈ after, y.ask.Apart) ∧ T x.ask e (m.run handler s).1 := by
  induction hm generalizing s before with
  | done => simp [record] at hx
  | fail => simp [record] at hx
  | crash => simp [record] at hx
  | @ask q k _ hclose ih =>
    cases before with
    | nil =>
      obtain ⟨rfl, rfl⟩ := List.cons.inj hx
      exact (hclose _ e he).run handler (handler q s).2
    | cons y before =>
      obtain ⟨rfl, hrest⟩ := List.cons.inj hx
      cases hr : q.fault? (handler q s).1 with
      | none => exact ih _ hr hrest
      | some e' =>
        -- the store call that failed was this one, so that `x` is not for a store
        obtain ⟨hapart, -⟩ := (hclose _ e' hr).run handler (handler q s).2
        have hxa : x.ask.Apart :=
          hapart x (hrest ▸ List.mem_append_right before List.mem_cons_self)
        rw [Exchange.fault?, hxa.fault_eq_none] at he
        cases he

/-! ### Rules -/

theorem closes_bind {P : Ending ε β → Prop} {m : Flow ε α} {f : α → Flow ε β}
    (hm : m.Closes fun e =>
      match e with
      | .done a => (f a).Closes P
      | .failed x => P (.failed x)
      | .crashed o => P (.crashed o)) : (m >>= f).Closes P := by
  induction hm with
  | done h => exact h
  | fail h => exact .fail h
  | crash h => exact .crash h
  | ask hq _ ih => exact .ask hq ih

theorem heeds_bind {T : Ask → StoreError → Ending ε β → Prop} {m : Flow ε α} {f : α → Flow ε β}
    (hm : m.Heeds fun q e r =>
      match r with
      | .done a => (f a).Closes (T q e)
      | .failed x => T q e (.failed x)
      | .crashed o => T q e (.crashed o)) (hf : ∀ a, (f a).Heeds T) : (m >>= f).Heeds T := by
  induction hm with
  | done => exact hf _
  | fail => exact .fail
  | crash => exact .crash
  | ask _ hclose ih => exact .ask ih fun r e he => closes_bind (hclose r e he)

theorem closes_mapFailure {P : Ending ε' α → Prop} {g : ε → ε'} {m : Flow ε α}
    (hm : m.Closes fun e =>
      match e with
      | .done a => P (.done a)
      | .failed x => P (.failed (g x))
      | .crashed o => P (.crashed o)) : (m.mapFailure g).Closes P := by
  unfold mapFailure
  induction hm with
  | done h => exact .done h
  | fail h => exact .fail h
  | crash h => exact .crash h
  | ask hq _ ih => exact .ask hq ih

theorem heeds_mapFailure {T : Ask → StoreError → Ending ε' α → Prop} {g : ε → ε'} {m : Flow ε α}
    (hm : m.Heeds fun q e r =>
      match r with
      | .done a => T q e (.done a)
      | .failed x => T q e (.failed (g x))
      | .crashed o => T q e (.crashed o)) : (m.mapFailure g).Heeds T := by
  unfold mapFailure
  induction hm with
  | done => exact .done
  | fail => exact .fail
  | crash => exact .crash
  | ask _ hclose ih => exact .ask ih fun r e he => closes_mapFailure (hclose r e he)

theorem closes_attempt {P : Ending ε' (Except ε α) → Prop} {m : Flow ε α}
    (hm : m.Closes fun e =>
      match e with
      | .done a => P (.done (.ok a))
      | .failed x => P (.done (.error x))
      | .crashed o => P (.crashed o)) : (m.attempt : Flow ε' _).Closes P := by
  induction hm with
  | done h => exact .done h
  | fail h => exact .done h
  | crash h => exact .crash h
  | ask hq _ ih => exact .ask hq ih

theorem heeds_attempt {T : Ask → StoreError → Ending ε' (Except ε α) → Prop} {m : Flow ε α}
    (hm : m.Heeds fun q e r =>
      match r with
      | .done a => T q e (.done (.ok a))
      | .failed x => T q e (.done (.error x))
      | .crashed o => T q e (.crashed o)) : (m.attempt : Flow ε' _).Heeds T := by
  induction hm with
  | done => exact .done
  | fail => exact .done
  | crash => exact .crash
  | ask _ hclose ih => exact .ask ih fun r e he => closes_attempt (hclose r e he)

/-- What asks nothing of the stores has no failure to heed. -/
theorem Apart.heeds {T : Ask → StoreError → Ending ε α → Prop} {m : Flow ε α} (hm : m.Apart) :
    m.Heeds T := by
  induction hm with
  | done => exact .done
  | fail => exact .fail
  | crash => exact .crash
  | ask hq _ ih =>
    refine .ask (fun r _ => ih r) fun r e he => ?_
    rw [hq.fault_eq_none] at he
    cases he

/-- A part that asks nothing of the stores, and what comes after it. -/
theorem heeds_apart_bind {T : Ask → StoreError → Ending ε β → Prop} {m : Flow ε α}
    {f : α → Flow ε β} (hm : m.Apart) (hf : ∀ a, (f a).Heeds T) : (m >>= f).Heeds T :=
  heeds_bind hm.heeds hf

end Flow

/-! ### Parts of operations -/

namespace Service

open Gatehouse.Flow

variable {cfg : Settings}

theorem apart_ofOption {ε α : Type} (e : ε) (a? : Option α) : (ofOption e a?).Apart := by
  cases a? with
  | none => exact .fail
  | some a => exact .done

theorem heeds_tryUsers {c : UserCall} {T : Ask → StoreError → Ending StoreError c.Answer → Prop}
    (h : ∀ e, T (.users cfg.storageLimit c) e (.failed e)) : (tryUsers cfg c).Heeds T := by
  refine .ask (fun r hr => ?_) fun r e he => ?_
  · rcases r with _ | e | a
    · cases hr
    · cases hr
    · exact .done
  · rcases r with _ | e' | a
    · cases he
      exact .fail (h _)
    · cases he
      exact .fail (h _)
    · cases he

theorem heeds_tryTokens {c : TokenCall} {T : Ask → StoreError → Ending StoreError c.Answer → Prop}
    (h : ∀ e, T (.tokens cfg.storageLimit c) e (.failed e)) : (tryTokens cfg c).Heeds T := by
  refine .ask (fun r hr => ?_) fun r e he => ?_
  · rcases r with _ | e | a
    · cases hr
    · cases hr
    · exact .done
  · rcases r with _ | e' | a
    · cases he
      exact .fail (h _)
    · cases he
      exact .fail (h _)
    · cases he

theorem heeds_users {c : UserCall} {T : Ask → StoreError → Ending AuthError c.Answer → Prop}
    (h : ∀ e, T (.users cfg.storageLimit c) e (.failed e.toAuthError)) : (users cfg c).Heeds T :=
  heeds_mapFailure (heeds_tryUsers h)

theorem heeds_tokens {c : TokenCall} {T : Ask → StoreError → Ending AuthError c.Answer → Prop}
    (h : ∀ e, T (.tokens cfg.storageLimit c) e (.failed e.toAuthError)) : (tokens cfg c).Heeds T :=
  heeds_mapFailure (heeds_tryTokens h)

theorem heeds_storeToken {u : User} {kind : TokenKind} {seconds : Nat} {now : Instant}
    {T : Ask → StoreError → Ending AuthError Token → Prop}
    (h : ∀ t e, t.kind = kind →
      T (.tokens cfg.storageLimit (.create t)) e (.failed e.toAuthError)) :
    (storeToken cfg u kind seconds now).Heeds T := by
  refine heeds_apart_bind apart_draw fun id => heeds_apart_bind apart_draw fun secret => ?_
  cases now.addSeconds? seconds with
  | none => exact .crash
  | some expiry =>
    exact heeds_bind (heeds_tokens (c := .create _) fun e => h _ e rfl) fun _ => .done

theorem heeds_sendVerification {u : User} {now : Instant}
    {T : Ask → StoreError → Ending AuthError Unit → Prop}
    (h : ∀ t e, t.kind = .verification →
      T (.tokens cfg.storageLimit (.create t)) e (.failed e.toAuthError)) :
    (sendVerification cfg u now).Heeds T :=
  heeds_bind (heeds_storeToken h) fun _ => ((apart_deliver _ _).bind fun _ => apart_log).heeds

theorem heeds_findToken {kind : TokenKind} {secret : String}
    {T : Ask → StoreError → Ending AuthError Token → Prop}
    (h : ∀ e, T (.tokens cfg.storageLimit (.findBySecret secret)) e (.failed e.toAuthError)) :
    (findToken cfg kind secret).Heeds T :=
  heeds_bind (heeds_tokens h) fun _ => (apart_ofOption _ _).heeds

theorem heeds_revoke {t : Token} {T : Ask → StoreError → Ending AuthError Unit → Prop}
    (h : ∀ e, T (.tokens cfg.storageLimit (.revokeIfActive t.secret)) e (.failed e.toAuthError)) :
    (revoke cfg t).Heeds T := by
  refine heeds_bind (heeds_tokens h) fun active => ?_
  cases active with
  | false => exact .fail
  | true => exact .done

theorem heeds_ensureCurrent {u : User} {t : Token}
    {T : Ask → StoreError → Ending AuthError Unit → Prop}
    (hfind : ∀ e, T (.users cfg.storageLimit (.findById u.id)) e (.failed e.toAuthError))
    (hblack : ∀ e, T (.tokens cfg.storageLimit (.blacklist t.secret)) e (.failed e.toAuthError)) :
    (ensureCurrent cfg u t).Heeds T := by
  refine heeds_bind (heeds_users hfind) fun current => ?_
  split_ifs
  · exact .done
  · exact heeds_bind (heeds_tokens (c := .blacklist _) hblack) fun _ =>
      (apart_log.bind fun _ => .fail).heeds

theorem heeds_findAccount {email : String}
    {T : Ask → StoreError → Ending AuthError (Option User) → Prop}
    (h : ∀ address e,
      T (.users cfg.storageLimit (.findByEmail address)) e (.failed e.toAuthError)) :
    (findAccount cfg email).Heeds T := by
  unfold findAccount
  cases EmailAddress.ofText email with
  | error e => exact .done
  | ok address => exact heeds_users (c := .findByEmail address) (h address)

theorem heeds_markVerified {u : User} {now : Instant}
    {T : Ask → StoreError → Ending AuthError User → Prop}
    (h : ∀ v e, T (.users cfg.storageLimit (.update v)) e (.failed
      (match e with
        | .notFound _ => .invalidToken
        | e => e.toAuthError))) : (markVerified cfg u now).Heeds T := by
  unfold markVerified
  split_ifs
  · exact .done
  · exact heeds_mapFailure (heeds_tryUsers (c := .update _) (h _))

end Service

/-! ## Operations -/

namespace Call

/-- The call ends so after the store call `q` has failed with the error `e`. -/
def Tells (c : Call) (q : Ask) (e : StoreError) (r : Ending c.Failure c.Value) : Prop :=
  if c.overlooks q then ∃ v, r = .done v
  else ∃ x, r = .failed x ∧ c.cause? x = some (c.refusal q e)

theorem tells_failed {c : Call} {q : Ask} {e : StoreError} {x : c.Failure}
    (ho : c.overlooks q = false) (hx : c.cause? x = some (c.refusal q e)) :
    c.Tells q e (.failed x) := by
  rw [Tells, ho]
  exact ⟨x, rfl, hx⟩

end Call

namespace Service

open Gatehouse.Flow

variable (cfg : Settings)

theorem register_heeds (form : Registration.Form) :
    (register cfg form).Heeds (Call.Tells (.register form)) := by
  refine heeds_apart_bind (apart_ofExcept _) fun valid => ?_
  refine heeds_bind (heeds_users (c := .existsByEmail _) fun e => ?_) fun taken => ?_
  · exact Call.tells_failed rfl (by cases e <;> rfl)
  split_ifs
  · exact .fail
  refine heeds_apart_bind (apart_hash _) fun digest => heeds_apart_bind apart_now fun now => ?_
  refine heeds_apart_bind apart_draw fun id => ?_
  refine heeds_bind (heeds_mapFailure (heeds_tryUsers (c := .create _) fun e => ?_)) fun u => ?_
  · exact Call.tells_failed rfl (by cases e <;> rfl)
  refine heeds_apart_bind apart_log fun _ => heeds_apart_bind (apart_deliver _ _) fun _ => ?_
  refine heeds_bind (heeds_attempt (heeds_sendVerification fun t e ht => ?_)) fun sent => ?_
  · have ho : Call.overlooks (.register form) (.tokens cfg.storageLimit (.create t)) = true := by
      simp [Call.overlooks, ht]
    refine .ask trivial fun _ => .done ?_
    rw [Call.Tells, if_pos ho]
    exact ⟨_, rfl⟩
  · split
    · exact .done
    · exact (apart_log.bind fun _ => .done).heeds

theorem login_heeds (email password : String) :
    (login cfg email password).Heeds (Call.Tells (.login email password)) := by
  refine heeds_bind (heeds_findAccount fun address e => ?_) fun u? => ?_
  · exact Call.tells_failed rfl (by cases e <;> rfl)
  cases u? with
  | none =>
    exact ((apart_verify _ _).bind fun _ => apart_log.bind fun _ => .fail).heeds
  | some u =>
    refine heeds_apart_bind (apart_verify _ _) fun matching => ?_
    split_ifs
    · refine heeds_apart_bind apart_now fun now => ?_
      refine heeds_apart_bind (apart_issue _ _) fun access => ?_
      refine heeds_bind (heeds_storeToken fun t e _ => ?_) fun token => ?_
      · exact Call.tells_failed rfl (by cases e <;> rfl)
      · exact (apart_log.bind fun _ => .done).heeds
    · exact (apart_log.bind fun _ => .fail).heeds
    · exact (apart_log.bind fun _ => .fail).heeds

theorem logout_heeds (secret : String) :
    (logout cfg secret).Heeds (Call.Tells (.logout secret)) := by
  refine heeds_bind (heeds_tokens (c := .blacklist _) fun e => ?_) fun _ => apart_log.heeds
  exact Call.tells_failed rfl (by cases e <;> rfl)

theorem refresh_heeds (secret : String) :
    (refresh cfg secret).Heeds (Call.Tells (.refresh secret)) := by
  refine heeds_apart_bind apart_now fun now => ?_
  refine heeds_bind (heeds_findToken fun e => ?_) fun token => ?_
  · exact Call.tells_failed rfl (by cases e <;> rfl)
  refine heeds_apart_bind (apart_checkAlive _ _) fun _ => ?_
  refine heeds_bind (heeds_users (c := .findById _) fun e => ?_) fun u? => ?_
  · exact Call.tells_failed rfl (by cases e <;> rfl)
  refine heeds_apart_bind (apart_ofOption _ _) fun u => ?_
  split_ifs
  · exact .fail
  · exact (apart_log.bind fun _ => .fail).heeds
  · refine heeds_apart_bind (apart_issue _ _) fun access => ?_
    refine heeds_bind (heeds_revoke fun e => ?_) fun _ => ?_
    · exact Call.tells_failed rfl (by cases e <;> rfl)
    refine heeds_bind (heeds_storeToken fun t e _ => ?_) fun successor => ?_
    · exact Call.tells_failed rfl (by cases e <;> rfl)
    refine heeds_bind (heeds_ensureCurrent (fun e => ?_) fun e => ?_) fun _ => ?_
    · exact Call.tells_failed rfl (by cases e <;> rfl)
    · exact Call.tells_failed rfl (by cases e <;> rfl)
    · exact (apart_log.bind fun _ => .done).heeds
  · exact ((apart_issue _ _).bind fun _ => .done).heeds

theorem changePassword_heeds (id : UserId) (old new : String) :
    (changePassword cfg id old new).Heeds (Call.Tells (.changePassword id old new)) := by
  refine heeds_bind (heeds_users (c := .findById _) fun e => ?_) fun u? => ?_
  · exact Call.tells_failed rfl (by cases e <;> rfl)
  refine heeds_apart_bind (apart_ofOption _ _) fun u => ?_
  refine heeds_apart_bind (apart_verify _ _) fun matching => ?_
  split_ifs
  · split
    · exact .fail
    · refine heeds_apart_bind (apart_hash _) fun digest => ?_
      refine heeds_apart_bind (apart_nextVersion _) fun version => ?_
      refine heeds_apart_bind apart_now fun now => ?_
      refine heeds_bind (heeds_mapFailure (heeds_tryUsers (c := .update _) fun e => ?_))
        fun v => ?_
      · exact Call.tells_failed rfl (by cases e <;> rfl)
      refine heeds_bind (heeds_tokens (c := .deleteAllForUser _) fun e => ?_)
        fun _ => apart_log.heeds
      exact Call.tells_failed rfl (by cases e <;> rfl)
  · exact .fail

theorem verifyEmail_heeds (secret : String) :
    (verifyEmail cfg secret).Heeds (Call.Tells (.verifyEmail secret)) := by
  refine heeds_apart_bind apart_now fun now => ?_
  refine heeds_bind (heeds_findToken fun e => ?_) fun token => ?_
  · exact Call.tells_failed rfl (by cases e <;> rfl)
  refine heeds_apart_bind (apart_checkAlive _ _) fun _ => ?_
  refine heeds_bind (heeds_revoke fun e => ?_) fun _ => ?_
  · exact Call.tells_failed rfl (by cases e <;> rfl)
  refine heeds_bind (heeds_users (c := .findById _) fun e => ?_) fun u? => ?_
  · exact Call.tells_failed rfl (by cases e <;> rfl)
  refine heeds_apart_bind (apart_ofOption _ _) fun u => ?_
  refine heeds_bind (heeds_markVerified fun v e => ?_) fun v => ?_
  · exact Call.tells_failed rfl (by cases e <;> rfl)
  · exact (apart_log.bind fun _ => .done).heeds

theorem resendVerification_heeds (email : String) :
    (resendVerification cfg email).Heeds (Call.Tells (.resendVerification email)) := by
  unfold resendVerification
  split
  · exact .fail
  · refine heeds_bind (heeds_users (c := .findByEmail _) fun e => ?_) fun u? => ?_
    · exact Call.tells_failed rfl (by cases e <;> rfl)
    split
    · refine heeds_apart_bind apart_now fun now => heeds_sendVerification fun t e _ => ?_
      exact Call.tells_failed rfl (by cases e <;> rfl)
    · exact apart_log.heeds

end Service

namespace Call

/-- The call is an operation of the service, and not a sweep. -/
def isOperation : Call → Bool
  | .sweep _ => false
  | _ => true

/-- Every operation heeds the failures of its store calls. -/
theorem heeds (cfg : Settings) {c : Call} (hc : c.isOperation = true) :
    (c.flow cfg).Heeds c.Tells := by
  cases c with
  | register form => exact Service.register_heeds cfg form
  | login email password => exact Service.login_heeds cfg email password
  | logout secret => exact Service.logout_heeds cfg secret
  | refresh secret => exact Service.refresh_heeds cfg secret
  | validate token => exact (Service.apart_validate token).heeds
  | changePassword id old new => exact Service.changePassword_heeds cfg id old new
  | verifyEmail secret => exact Service.verifyEmail_heeds cfg secret
  | resendVerification email => exact Service.resendVerification_heeds cfg email
  | sweep limit => cases hc

/-- After a store call of an operation has failed, the operation calls the stores no more, and
    answers with the refusal for that failure; only the failure that it passes over does not keep
    it from returning. This holds whoever replies to its questions, from whatever state. -/
theorem fault_told (cfg : Settings) {c : Call} (hc : c.isOperation = true) {σ : Type}
    (handler : (q : Ask) → σ → q.Reply × σ) (s : σ) {before after : History} {x : Exchange}
    {e : StoreError} (hx : (c.flow cfg).record handler s = before ++ x :: after)
    (he : x.fault? = some e) :
    (∀ y ∈ after, y.ask.Apart) ∧
      if c.overlooks x.ask then ∃ v, ((c.flow cfg).run handler s).1 = .done v
      else ∃ f, ((c.flow cfg).run handler s).1 = .failed f ∧
        c.cause? f = some (c.refusal x.ask e) :=
  (c.heeds cfg hc).run handler hx he

/-- Somebody deletes the account whose password is being changed. -/
theorem fault_told_vanished :
    let c : Call := .changePassword ⟨"ada"⟩ "Old-pass-1" "New-pass-2"
    let handler := Scene.next (Surroundings.plain.losing 4 (some (.notFound "gone")))
    let s : Scene := { adasStores with moment := 0 }
    ∃ before x, (c.flow {}).record handler s = before ++ x :: [] ∧
      x.fault? = some (.notFound "gone") ∧
      ∃ f, ((c.flow {}).run handler s).1 = .failed f ∧ c.cause? f = some (.userNotFound "ada") := by
  intro c handler s
  have hx : (c.flow {}).record handler s =
      ((c.flow {}).record handler s).take 4 ++
        ⟨.users (.ofSeconds 5) (.update (ada.rekeyed (digestOf "New-pass-2") ⟨0, 0⟩)),
          some (.error (.notFound "gone"))⟩ :: [] := rfl
  exact ⟨_, _, hx, rfl, (fault_told {} rfl handler s hx rfl).2⟩

/-- The one store call that fails reports a conflict: the token that confirms the address. The
    registration returns all the same. -/
theorem conflict_overlooked :
    let c : Call := .register adasForm
    let handler := Scene.next (Surroundings.plain.losing 9 (some (.conflict "taken")))
    let s : Scene := { Stores.empty with moment := 0 }
    ((c.flow {}).record handler s).filterMap Exchange.fault? = [.conflict "taken"] ∧
      c.kind? ((c.flow {}).run handler s).1 = some (.ok ()) := by
  decide +kernel

end Call

end Gatehouse
