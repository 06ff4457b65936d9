/-
  Gatehouse — what the stores keep to.

  However calls take turns, and whichever of their store calls are lost, the records in the stores
  keep their form. What a call writes rests on what it was told before (`Ask.Grounded`): the digest
  of a strong password comes from the hasher, a record goes back for one that was looked up, and a
  token is minted for an account that is known and lasts as long as its kind.

  * `Call.grounded`: the one statement about the text of the operations;
  * `Steps.continues`: an account stays, with its identifier, its address and its birthday;
  * `Runs.hashed`: a stored digest is the hasher's, of a strong password;
  * `Runs.created`: a stored token is one that was created, revoked or not, and has an owner;
  * `Runs.sound`: all of this, in every state that is reached from empty stores.
-/
import Gatehouse.Proofs.Normalization
import Gatehouse.Proofs.Staleness

namespace Gatehouse

/-! ## What a caller knows -/

/-- The record that a store has answered with: it was looked up, or added. -/
def Exchange.known? : Exchange → Option User
  | ⟨.users _ (.create u), some (.ok _)⟩ => some u
  | x => x.found?

namespace History

/-- The caller knows the record. -/
def Knows (h : History) (u : User) : Prop := ∃ x ∈ h, x.known? = some u

/-- The digest is what the hasher has made of a strong password. -/
def Digested (h : History) (digest : String) : Prop :=
  ∃ password, Password.weakness? password = none ∧ ⟨.hash password, .ok digest⟩ ∈ h

end History

theorem History.knows_concat {h : History} {x : Exchange} {u : User} (hx : x.known? = some u) :
    (h ++ [x]).Knows u := ⟨x, by simp, hx⟩

theorem History.Knows.append {h l : History} {u : User} (hu : h.Knows u) : (h ++ l).Knows u := by
  obtain ⟨x, hx, hxu⟩ := hu
  exact ⟨x, List.mem_append_left l hx, hxu⟩

/-- How many seconds a token of a kind lasts that is stored. -/
inductive TokenKind.Lasts : TokenKind → Nat → Prop
  | refresh : Lasts .refresh (7 * 24 * 3600)
  | verification : Lasts .verification (24 * 3600)

theorem TokenKind.Lasts.pos {kind : TokenKind} {seconds : Nat} (h : kind.Lasts seconds) :
    0 < seconds := by
  cases h <;> decide

/-- The token expires when its kind says. -/
def Token.Timed (t : Token) : Prop :=
  ∃ seconds, t.kind.Lasts seconds ∧ t.createdAt.addSeconds? seconds = some t.expiresAt

/-- What is written rests on what the caller was told before. -/
def Ask.Grounded (h : History) : Ask → Prop
  | .users _ (.create u) => h.Digested u.passwordHash
  | .users _ (.update v) =>
    (∃ u, h.Knows u ∧ v.passwordHash = u.passwordHash) ∨ h.Digested v.passwordHash
  | .tokens _ (.create t) => t.Timed ∧ ∃ u, h.Knows u ∧ t.userId = u.id
  | _ => True

/-! ## Operations -/

/-- A form is accepted with a strong password. -/
theorem Registration.Form.strong_of_validate {form : Registration.Form} {a : Registration.Accepted}
    (h : form.validate = .ok a) : Password.weakness? form.password = none := by
  unfold validate at h
  split at h
  · split_ifs at h
    split at h
    · assumption
    · cases h
  · cases h

namespace Service

open Gatehouse.Flow

variable {cfg : Settings} {h : History}

theorem grounded_deliver {id : UserId} {m : Mail} {Ψ : History → Unit → Prop}
    (hΨ : ∀ l, Ψ (h ++ l) ()) : Meets Ask.Grounded Ψ h (deliver cfg id m) := by
  refine .ask trivial fun r _ => ?_
  cases mailError? cfg.mailLimit r with
  | none => exact .done (hΨ _)
  | some e =>
    refine meets_log trivial ?_
    rw [List.append_assoc]
    exact hΨ _

theorem grounded_storeToken {u : User} {kind : TokenKind} {seconds : Nat} {now : Instant}
    {Ψ : History → Token → Prop} (hu : h.Knows u) (hk : kind.Lasts seconds)
    (hΨ : ∀ h t, Ψ h t) : Meets Ask.Grounded Ψ h (storeToken cfg u kind seconds now) := by
  refine meets_storeToken (fun _ => trivial) fun expiry id secret he => ⟨⟨?_, u, ?_, rfl⟩, hΨ _ _⟩
  · exact ⟨seconds, hk, he⟩
  · exact hu.append.append

theorem grounded_sendVerification {u : User} {now : Instant} (hu : h.Knows u) :
    Meets Ask.Grounded (fun _ _ => True) h (sendVerification cfg u now) := by
  refine meets_bind (grounded_storeToken hu .verification fun h t => ?_)
  exact meets_bind (grounded_deliver fun _ => meets_log trivial trivial)

theorem register_grounded (form : Registration.Form) :
    Meets Ask.Grounded (fun _ _ => True) [] (register cfg form) := by
  refine meets_bind (meets_ofExcept fun valid hvalid => ?_)
  refine meets_bind (meets_users trivial fun taken _ => ?_)
  split_ifs
  · exact .fail
  refine meets_bind (meets_hash trivial fun digest => ?_)
  refine meets_bind (meets_now trivial fun now => ?_)
  refine meets_bind (meets_draw trivial fun id => ?_)
  refine meets_bind (meets_mapFailure (meets_tryUsers ?_ fun u hu => ?_))
  · exact ⟨form.password, form.strong_of_validate hvalid, by simp⟩
  refine meets_bind (meets_log trivial ?_)
  refine meets_bind (grounded_deliver fun l => ?_)
  refine meets_bind (meets_attempt ?_ fun h e => meets_bind (meets_log trivial (.done trivial)))
  obtain rfl : u = _ := hu
  refine Meets.mono (grounded_sendVerification ?_) fun _ _ _ => .done trivial
  exact .append (.append (History.knows_concat rfl))

theorem login_grounded (email password : String) :
    Meets Ask.Grounded (fun _ _ => True) [] (login cfg email password) := by
  refine meets_bind (meets_findAccount (fun _ => trivial) ?_ fun email' u? => ?_)
  · exact meets_bind (.ask trivial fun _ _ => .done (meets_bind (meets_log trivial .fail)))
  cases u? with
  | none => exact meets_bind (.ask trivial fun _ _ => .done (meets_bind (meets_log trivial .fail)))
  | some u =>
    refine meets_bind (meets_verify trivial fun good => ?_)
    split_ifs
    · refine meets_bind (meets_now trivial fun now => ?_)
      refine meets_bind (meets_issue trivial fun access => ?_)
      refine meets_bind (grounded_storeToken ?_ .refresh fun h t => ?_)
      · exact .append (.append (.append (History.knows_concat rfl)))
      · exact meets_bind (meets_log trivial (.done trivial))
    · exact meets_bind (meets_log trivial .fail)
    · exact meets_bind (meets_log trivial .fail)

theorem logout_grounded (secret : String) :
    Meets Ask.Grounded (fun _ _ => True) [] (logout cfg secret) := by
  refine meets_bind (meets_tokens (c := .blacklist secret) trivial fun _ _ => ?_)
  exact meets_log trivial trivial

theorem refresh_grounded (secret : String) :
    Meets Ask.Grounded (fun _ _ => True) [] (refresh cfg secret) := by
  refine meets_bind (meets_now trivial fun now => ?_)
  refine meets_bind (meets_findToken trivial fun t _ _ => ?_)
  refine meets_bind (meets_checkAlive ?_)
  refine meets_bind (meets_users (c := .findById t.userId) trivial fun u? _ => ?_)
  refine meets_bind (meets_ofOption fun u hu => ?_)
  subst hu
  split_ifs
  · exact .fail
  · exact meets_bind (meets_log trivial .fail)
  · refine meets_bind (meets_issue trivial fun access => ?_)
    refine meets_bind (meets_revoke trivial ?_)
    refine meets_bind (grounded_storeToken ?_ .refresh fun h b => ?_)
    · exact .append (.append (History.knows_concat rfl))
    · refine meets_bind (meets_ensureCurrent trivial (fun _ => trivial) (fun _ _ => trivial)
        fun _ _ _ => ?_)
      exact meets_bind (meets_log trivial (.done trivial))
  · exact meets_bind (meets_issue trivial fun access => .done trivial)

theorem validate_grounded (token : String) :
    Meets Ask.Grounded (fun _ _ => True) [] (validate token) := by
  refine meets_bind (meets_now trivial fun now => ?_)
  exact .ask trivial fun r _ => meets_ofExcept fun _ _ => trivial

theorem changePassword_grounded (id : UserId) (old new : String) :
    Meets Ask.Grounded (fun _ _ => True) [] (changePassword cfg id old new) := by
  refine meets_bind (meets_users (c := .findById id) trivial fun u? _ => ?_)
  refine meets_bind (meets_ofOption fun u hu => ?_)
  subst hu
  refine meets_bind (meets_verify trivial fun good => ?_)
  split_ifs
  · split
    · exact .fail
    · rename_i hstrong
      refine meets_bind (meets_hash trivial fun digest => ?_)
      refine meets_bind (meets_nextVersion ?_)
      refine meets_bind (meets_now trivial fun now => ?_)
      refine meets_bind (meets_mapFailure (meets_tryUsers ?_ fun v _ => ?_))
      · exact .inr ⟨new, hstrong, by simp⟩
      · exact meets_bind (meets_tokens (c := .deleteAllForUser v.id) trivial fun _ _ =>
          meets_log trivial trivial)
  · exact .fail

theorem verifyEmail_grounded (secret : String) :
    Meets Ask.Grounded (fun _ _ => True) [] (verifyEmail cfg secret) := by
  refine meets_bind (meets_now trivial fun now => ?_)
  refine meets_bind (meets_findToken trivial fun t _ _ => ?_)
  refine meets_bind (meets_checkAlive ?_)
  refine meets_bind (meets_revoke trivial ?_)
  refine meets_bind (meets_users (c := .findById t.userId) trivial fun u? _ => ?_)
  refine meets_bind (meets_ofOption fun u hu => ?_)
  subst hu
  refine meets_bind ?_
  unfold markVerified
  split_ifs
  · exact .done (meets_bind (meets_log trivial (.done trivial)))
  · refine meets_mapFailure (meets_tryUsers (c := .update (u.confirmed now)) ?_ fun w _ => ?_)
    · exact .inl ⟨u, History.knows_concat rfl, rfl⟩
    · exact meets_bind (meets_log trivial (.done trivial))

theorem resendVerification_grounded (email : String) :
    Meets Ask.Grounded (fun _ _ => True) [] (resendVerification cfg email) := by
  unfold resendVerification
  split
  · exact .fail
  · rename_i address _
    refine meets_bind (meets_users (c := .findByEmail address) trivial fun u? _ => ?_)
    split
    · rename_i u hu
      obtain ⟨rfl, -⟩ := Option.filter_eq_some_iff.1 hu
      refine meets_bind (meets_now trivial fun now => ?_)
      exact grounded_sendVerification (History.knows_concat rfl).append
    · exact meets_log trivial trivial

theorem sweepOnce_grounded (limit : Span) :
    Meets Ask.Grounded (fun _ _ => True) [] (sweepOnce limit) := by
  refine .ask trivial fun now _ => .ask trivial fun r _ => ?_
  unfold swept
  split
  · exact .done trivial
  · exact .fail
  · exact .fail

end Service

/-- What a call writes is grounded. -/
theorem Call.grounded (cfg : Settings) (c : Call) :
    (c.flow cfg).Meets Ask.Grounded (fun _ _ => True) [] := by
  unfold Call.flow
  cases c with
  | register form => exact Service.register_grounded form
  | login email password => exact Service.login_grounded email password
  | logout secret => exact Service.logout_grounded secret
  | refresh secret => exact Service.refresh_grounded secret
  | validate token => exact Service.validate_grounded token
  | changePassword id old new => exact Service.changePassword_grounded id old new
  | verifyEmail secret => exact Service.verifyEmail_grounded secret
  | resendVerification email => exact Service.resendVerification_grounded email
  | sweep limit => exact Service.sweepOnce_grounded limit

/-! ## Accounts -/

/-- The record is a later one of the same account, or the same. -/
structure User.Continues (v u : User) : Prop where
  id : v.id = u.id
  email : v.email = u.email
  createdAt : v.createdAt = u.createdAt

theorem User.Continues.refl (u : User) : u.Continues u := ⟨rfl, rfl, rfl⟩

theorem User.Continues.trans {u v w : User} (hw : w.Continues v) (hv : v.Continues u) :
    w.Continues u :=
  ⟨hw.id.trans hv.id, hw.email.trans hv.email, hw.createdAt.trans hv.createdAt⟩

/-- Some record continues this one. -/
def UserStore.Continues (s : UserStore) (u : User) : Prop := ∃ v ∈ s.records, v.Continues u

/-- What a call puts in the place of another record continues one that it has looked up. -/
theorem Call.Rewrites.continues {h : History} {v : User} {c : Call} (hr : c.Rewrites h v) :
    ∃ u, u ∈ h.found ∧ v.Continues u := by
  obtain ⟨u, hu⟩ := hr.found
  refine ⟨u, by rw [hu]; exact List.mem_singleton_self u, ?_⟩
  rcases hr.kinds hu with ⟨-, -, digest, now, rfl⟩ | ⟨-, -, -, now, rfl⟩
  · exact ⟨rfl, rfl, rfl⟩
  · exact ⟨rfl, rfl, rfl⟩

theorem Exchange.known_of_found {x : Exchange} {u : User} (h : x.found? = some u) :
    x.known? = some u := by
  unfold Exchange.known?
  split
  · cases h
  · exact h

theorem Exchange.writes_none_of_found {x : Exchange} {u : User} (h : x.found? = some u) :
    x.rewritten? = none ∧ x.enrolled? = none := by
  unfold Exchange.found? at h
  split at h
  · exact ⟨rfl, rfl⟩
  · exact ⟨rfl, rfl⟩
  · cases h

section

variable {cfg : Settings} {d : Stores} {s s' : State} {e : Entry} {after : Stores}

/-- What is asked next is grounded in what its caller was told. -/
theorem Runs.grounded_next (h : Runs cfg d s) (ha : s.Admits e after) :
    Ask.Grounded (historyOf e.caller s.log) e.exchange.ask := by
  obtain ⟨⟨k, hk⟩, -⟩ := ha
  have hmeets := (h.leads hk).meets (e.call.grounded cfg)
  rw [List.nil_append] at hmeets
  exact hmeets.question

/-- What the next reply makes known is stored afterwards. -/
theorem State.Admits.known (ha : s.Admits e after) {u : User} (hu : e.exchange.known? = some u) :
    u ∈ after.users.records := by
  unfold Exchange.known? at hu
  split at hu
  · rename_i limit v answer he
    obtain rfl := Option.some.inj hu
    have henrolled : e.enrolled? = some v := by
      obtain ⟨-, hr⟩ := ha
      obtain ⟨i, c, ⟨q, r⟩, took⟩ := e
      cases he
      obtain ⟨-, rfl⟩ := hr.1.ok
      rfl
    rcases ha.users with ⟨_, _, _, hn, -⟩ | ⟨w, hw, -, -, hs⟩ | ⟨-, hn, -⟩
    · rw [hn] at henrolled
      cases henrolled
    · obtain rfl := Option.some.inj (hw.symm.trans henrolled)
      rw [hs]
      exact List.mem_append_right _ (List.mem_singleton_self w)
    · rw [hn] at henrolled
      cases henrolled
  · obtain ⟨hrewritten, henrolled⟩ := Exchange.writes_none_of_found hu
    have hstored := ha.found hu
    rcases ha.users with ⟨_, w, hw, -⟩ | ⟨w, hw, -⟩ | ⟨-, -, hs⟩
    · rw [Entry.rewrote?, hrewritten, ite_self] at hw
      cases hw
    · rw [Entry.enrolled?, henrolled, ite_self] at hw
      cases hw
    · rwa [hs]

/-- One exchange leaves every account in place, if those that callers know were in place. -/
theorem Runs.continues_next (h : Runs cfg d s) (hd : d.users.Keyed) (ha : s.Admits e after)
    (hknown : ∀ x ∈ s.log, ∀ u, x.exchange.known? = some u → s.users.Continues u) {u : User}
    (hu : s.users.Continues u) : after.users.Continues u := by
  obtain ⟨v, hv, hvu⟩ := hu
  rcases ha.users with ⟨old, w, hw, -, -, hs⟩ | ⟨w, -, -, -, hs⟩ | ⟨-, -, hs⟩
  · by_cases hid : v.id = w.id
    · obtain ⟨l, hq⟩ := Exchange.ask_of_rewritten (e.rewritten_of_rewrote hw)
      have hmay := h.may_next ha
      rw [hq] at hmay
      obtain ⟨x, hx, hwx⟩ := hmay.1.continues
      obtain ⟨y, hy, hyx⟩ := List.mem_filterMap.1 hx
      obtain ⟨a, ha, -, rfl⟩ := mem_historyOf.1 hy
      obtain ⟨v', hv', hv'x⟩ := hknown a ha x (Exchange.known_of_found hyx)
      have hsame : v' = v := List.inj_on_of_nodup_map (h.keyed hd) hv' hv
        (hv'x.id.trans (hwx.id.symm.trans hid.symm))
      have hwv : w.Continues v :=
        ⟨hid.symm, hwx.email.trans (hsame ▸ hv'x.email.symm),
          hwx.createdAt.trans (hsame ▸ hv'x.createdAt.symm)⟩
      refine ⟨w, ?_, hwv.trans hvu⟩
      rw [hs]
      exact List.mem_map.2 ⟨v, hv, if_pos hid⟩
    · refine ⟨v, ?_, hvu⟩
      rw [hs]
      exact List.mem_map.2 ⟨v, hv, if_neg hid⟩
  · refine ⟨v, ?_, hvu⟩
    rw [hs]
    exact List.mem_append_left _ hv
  · exact ⟨v, hs ▸ hv, hvu⟩

/-- The accounts that callers know are in place. -/
theorem Runs.known (h : Runs cfg d s) (hd : d.users.Keyed) :
    ∀ x ∈ s.log, ∀ u, x.exchange.known? = some u → s.users.Continues u := by
  refine h.invariant (P := fun d log => ∀ x ∈ log, ∀ u, x.exchange.known? = some u →
    d.users.Continues u) (by simp) ?_
  intro s e after h ha ih x hx u hu
  rcases List.mem_append.1 hx with hx | hx
  · exact h.continues_next hd ha ih (ih x hx u hu)
  · obtain rfl := List.mem_singleton.1 hx
    exact ⟨u, ha.known hu, .refl u⟩

/-- An account stays where it is. -/
theorem Steps.continues (hs : Steps cfg s s') (h : Runs cfg d s) (hd : d.users.Keyed) {u : User}
    (hu : u ∈ s.users.records) : s'.users.Continues u := by
  induction hs with
  | refl => exact ⟨u, hu, .refl u⟩
  | @tail s₁ s₂ hs hlast ih =>
    have h₁ : Runs cfg d s₁ := h.trans hs
    cases hlast with
    | arrive c => exact ih
    | @turn i c q k r took after hi hr =>
      have ha : s₁.Admits ⟨i, c, ⟨q, r⟩, took⟩ after := ⟨⟨k, hi⟩, hr⟩
      exact h₁.continues_next hd ha (h₁.known hd) ih

/-! ## Digests -/

/-- The hasher has made the digest of a strong password. -/
def Hashed (log : List Entry) (digest : String) : Prop :=
  ∃ e ∈ log, ∃ password, Password.weakness? password = none ∧
    e.exchange = ⟨.hash password, .ok digest⟩

theorem Hashed.of_digested {i : Nat} {log : List Entry} {digest : String}
    (h : (historyOf i log).Digested digest) : Hashed log digest := by
  obtain ⟨password, hstrong, hx⟩ := h
  obtain ⟨e, he, -, hxe⟩ := mem_historyOf.1 hx
  exact ⟨e, he, password, hstrong, hxe⟩

theorem Hashed.append {log log' : List Entry} {digest : String} (h : Hashed log digest) :
    Hashed (log ++ log') digest := by
  obtain ⟨e, he, hpassword⟩ := h
  exact ⟨e, List.mem_append_left log' he, hpassword⟩

theorem Entry.ask_of_enrolled {u : User} (h : e.enrolled? = some u) :
    ∃ limit, e.exchange.ask = .users limit (.create u) := by
  unfold Entry.enrolled? at h
  split_ifs at h
  generalize e.exchange = x at h ⊢
  unfold Exchange.enrolled? at h
  split at h
  · cases h
    exact ⟨_, rfl⟩
  · cases h

/-- A record that is put in the place of another keeps a known digest or has a new one of the
    hasher's. -/
theorem Runs.hashed_rewrote (h : Runs cfg d s) (ha : s.Admits e after) {w : User}
    (hw : e.rewrote? = some w)
    (ih : ∀ x ∈ s.log, ∀ u, x.exchange.known? = some u → Hashed s.log u.passwordHash) :
    Hashed s.log w.passwordHash := by
  obtain ⟨limit, hq⟩ := Exchange.ask_of_rewritten (e.rewritten_of_rewrote hw)
  have hgrounded := h.grounded_next ha
  rw [hq] at hgrounded
  rcases hgrounded with ⟨u, ⟨x, hx, hxu⟩, hsame⟩ | hdigested
  · obtain ⟨a, ha, -, rfl⟩ := mem_historyOf.1 hx
    rw [hsame]
    exact ih a ha u hxu
  · exact Hashed.of_digested hdigested

theorem Runs.hashed_enrolled (h : Runs cfg d s) (ha : s.Admits e after) {w : User}
    (hw : e.enrolled? = some w) : Hashed s.log w.passwordHash := by
  obtain ⟨limit, hq⟩ := Entry.ask_of_enrolled hw
  have hgrounded := h.grounded_next ha
  rw [hq] at hgrounded
  exact Hashed.of_digested hgrounded

/-- The digests of all records are the hasher's: of those that are stored, and of those that callers
    know and may put back. -/
theorem Runs.hashed (h : Runs cfg .empty s) {u : User}
    (hu : u ∈ s.users.records ∨ ∃ x ∈ s.log, x.exchange.known? = some u) :
    Hashed s.log u.passwordHash := by
  refine h.invariant (P := fun d log => ∀ u, (u ∈ d.users.records ∨
    ∃ x ∈ log, x.exchange.known? = some u) → Hashed log u.passwordHash) ?_ ?_ u hu
  · rintro u (hu | ⟨x, hx, -⟩)
    · cases hu
    · cases hx
  intro s e after h ha ih u hu
  have hstored : u ∈ after.users.records → Hashed (s.log ++ [e]) u.passwordHash := by
    intro hu
    rcases ha.users with ⟨old, w, hw, -, -, hs⟩ | ⟨w, hw, -, -, hs⟩ | ⟨-, -, hs⟩
    · rw [hs] at hu
      obtain ⟨v, hv, rfl⟩ := List.mem_map.1 hu
      split_ifs
      · exact (h.hashed_rewrote ha hw fun x hx u hu => ih u (.inr ⟨x, hx, hu⟩)).append
      · exact (ih v (.inl hv)).append
    · rw [hs] at hu
      rcases List.mem_append.1 hu with hu | hu
      · exact (ih u (.inl hu)).append
      · obtain rfl := List.mem_singleton.1 hu
        exact (h.hashed_enrolled ha hw).append
    · exact (ih u (.inl (hs ▸ hu))).append
  rcases hu with hu | ⟨x, hx, hxu⟩
  · exact hstored hu
  · rcases List.mem_append.1 hx with hx | hx
    · exact (ih u (.inr ⟨x, hx, hxu⟩)).append
    · obtain rfl := List.mem_singleton.1 hx
      exact hstored (ha.known hxu)

/-! ## Tokens -/

theorem Instant.seconds_of_ofNanos? {seconds nanos : Int} {u : Instant}
    (h : ofNanos? seconds nanos = some u) : u.seconds = seconds + nanos / (giga : Int) := by
  unfold ofNanos? at h
  simp only [Option.ite_none_right_eq_some, Option.some.injEq] at h
  rw [← h.2]

/-- Some seconds later is later, from a leap second too. -/
theorem Instant.lt_of_addSeconds? {t u : Instant} {n : Nat} (hn : 0 < n)
    (h : t.addSeconds? n = some u) : t < u := by
  have hgiga : (0 : Int) ≤ giga := by decide
  have hne : (giga : Int) ≠ 0 := by decide
  rw [Instant.lt_iff]
  left
  unfold addSeconds? add? at h
  split_ifs at h with hordinary
  · have hsum : ((t.nanos : Int) + n * giga) / giga = t.nanos / giga + n :=
      Int.add_mul_ediv_right _ _ hne
    have hnanos : (0 : Int) ≤ t.nanos / giga := Int.ediv_nonneg (by omega) hgiga
    rw [seconds_of_ofNanos? h, hsum]
    omega
  · have hwhole : ((n : Int) * giga).tdiv giga = n := Int.mul_tdiv_cancel _ hne
    have hpositive : (0 : Int) < n := by omega
    have hsum : ((t.nanos : Int) - giga + n * giga) / giga = (t.nanos - giga) / giga + n :=
      Int.add_mul_ediv_right _ _ hne
    have hnanos : (0 : Int) ≤ (t.nanos - giga) / giga := Int.ediv_nonneg (by omega) hgiga
    simp only [hwhole, hpositive, decide_true, Bool.true_or, if_true] at h
    rw [seconds_of_ofNanos? h, hsum]
    omega

/-- A stored token is one that was created, revoked or not. It lasts as long as its kind, and has an
    owner. -/
theorem Runs.created (h : Runs cfg .empty s) {t : Token} (ht : t ∈ s.tokens.records) :
    (∃ x ∈ s.log, ∃ t₀, x.exchange.minted? = some t₀ ∧ t₀.revoked = false ∧
      t = { t₀ with revoked := t.revoked }) ∧
      t.Timed ∧ ∃ u ∈ s.users.records, u.id = t.userId := by
  obtain ⟨t₀, hborn | ⟨n, e, he, hminted⟩, htt⟩ := h.genuine ht
  · cases hborn
  · have hx : e ∈ s.log := List.mem_of_getElem? he
    obtain ⟨s₁, s₂, h₁, hl₁, ha, -⟩ := h.moment he
    have hgrounded := h₁.grounded_next ha
    obtain ⟨limit, hq⟩ := Exchange.ask_of_minted hminted
    rw [hq] at hgrounded
    obtain ⟨htimed, u, ⟨y, hy, hyu⟩, huser⟩ := hgrounded
    obtain ⟨a, ha', -, rfl⟩ := mem_historyOf.1 hy
    have halog : a ∈ s.log := List.mem_of_mem_take (hl₁ ▸ ha')
    obtain ⟨v, hv, hvu⟩ := h.known (by simp [Stores.empty, UserStore.Keyed]) a halog u hyu
    refine ⟨⟨e, hx, t₀, hminted, (h.mints he hminted).active, htt⟩, ?_, v, hv, ?_⟩
    · rw [htt]
      exact htimed
    · rw [htt]
      exact hvu.id.trans huser.symm

/-- As long as the generator repeats nothing, a token is afterwards the one that it was before, and
    is revoked if it was. -/
theorem Steps.token (hs : Steps cfg s s') (h : Runs cfg d s) (hf : Fresh d s'.log) {t t' : Token}
    (ht : t ∈ s.tokens.records) (ht' : t' ∈ s'.tokens.records) (hsecret : t'.secret = t.secret) :
    t' = { t with revoked := t'.revoked } ∧ (t.revoked = true → t'.revoked = true) := by
  obtain ⟨later, hlater⟩ := hs.log_prefix
  obtain ⟨t₀, hborn, htt⟩ := h.genuine ht
  obtain ⟨u₀, hborn', htu⟩ := Runs.genuine (h.trans hs) ht'
  have hsecret₀ : t₀.secret = t.secret := by rw [htt]
  have hsame : t₀ = u₀ := by
    refine Runs.born_unique (h.trans hs) hf (hlater ▸ hborn.append) hborn' ?_
    rw [hsecret₀, ← hsecret, htu]
  refine ⟨?_, fun hr => ?_⟩
  · rw [htu, htt, ← hsame]
  · have hdead : s.tokens.Dead t.secret := by
      intro u hu hus
      have hnodup := h.secrets_nodup (List.nodup_append.1 hf).1
      rw [List.inj_on_of_nodup_map hnodup hu ht hus, hr]
    exact hs.dead h hf hborn hsecret₀ hdead t' ht' hsecret

end

/-! ## Every state -/

/-- The records are as the data model has them. -/
structure State.Sound (s : State) : Prop where
  keyed : s.users.Keyed
  addressed : s.users.Addressed
  normalized : ∀ u ∈ s.users.records, EmailAddress.normalize u.email.text = u.email.text
  hashed : ∀ u ∈ s.users.records, Hashed s.log u.passwordHash
  timed : ∀ t ∈ s.tokens.records, t.Timed ∧ t.createdAt < t.expiresAt
  owned : ∀ t ∈ s.tokens.records, ∃ u ∈ s.users.records, u.id = t.userId
  /-- A token is one that was created, revoked or not. -/
  created : ∀ t ∈ s.tokens.records, ∃ x ∈ s.log, ∃ t₀, x.exchange.minted? = some t₀ ∧
    t₀.revoked = false ∧ t = { t₀ with revoked := t.revoked }

/-- What was in the stores in the state `s` is still there in the state `s'`, or was deleted. -/
structure State.Keeps (s s' : State) : Prop where
  accounts : ∀ u ∈ s.users.records, ∃ v ∈ s'.users.records,
    v.id = u.id ∧ v.email = u.email ∧ v.createdAt = u.createdAt
  tokens : ∀ t ∈ s.tokens.records, ∀ t' ∈ s'.tokens.records, t'.secret = t.secret →
    t' = { t with revoked := t'.revoked } ∧ (t.revoked = true → t'.revoked = true)

/-- In every state that is reached from empty stores the records are as the data model has them, and
    they have changed since any state before it as little as the data model lets them. -/
theorem Runs.sound {cfg : Settings} {s s' : State} (h : Runs cfg .empty s) (hs : Steps cfg s s')
    (hf : Fresh .empty s'.log) : s'.Sound ∧ s.Keeps s' := by
  have hkeyed : Stores.empty.users.Keyed := by simp [Stores.empty, UserStore.Keyed]
  have haddressed : Stores.empty.users.Addressed := by simp [Stores.empty, UserStore.Addressed]
  have h' : Runs cfg .empty s' := h.trans hs
  constructor
  · refine ⟨h'.keyed hkeyed, h'.addressed hkeyed haddressed, fun u _ => u.email.normalize_text,
      fun u hu => h'.hashed (.inl hu), fun t ht => ?_, fun t ht => (h'.created ht).2.2,
      fun t ht => (h'.created ht).1⟩
    obtain ⟨-, htimed, -⟩ := h'.created ht
    obtain ⟨seconds, hlasts, hexpiry⟩ := htimed
    exact ⟨⟨seconds, hlasts, hexpiry⟩, Instant.lt_of_addSeconds? hlasts.pos hexpiry⟩
  · refine ⟨fun u hu => ?_, fun t ht t' ht' => hs.token h hf ht ht'⟩
    obtain ⟨v, hv, hid, hemail, hcreated⟩ := hs.continues h hkeyed hu
    exact ⟨v, hv, hid, hemail, hcreated⟩

/-- An account was opened. -/
def adaEnrolled : State :=
  (State.start .empty).play {} unary [.call (.register adasForm), .turns 0 12]

/-- A login, a confirmation and a password change have taken turns since. -/
def adaBusy : State :=
  adaEnrolled.play {} unary [.call (.login "ada@example.org" "Old-pass-1"),
    .call (.verifyEmail (unary 8)), .call (.changePassword ⟨unary 3⟩ "Old-pass-1" "New-pass-2"),
    .turns 1 5, .turns 2 3, .turns 3 7, .turns 1 3, .turns 2 3]

/-- The account and a token of the login are there. -/
theorem Runs.sound_busy : Fresh .empty adaBusy.log ∧
    adaBusy.users.records.length = 1 ∧ adaBusy.tokens.records.length = 1 ∧
    adaBusy.Sound ∧ adaEnrolled.Keeps adaBusy := by
  have hfresh : Fresh .empty adaBusy.log := by decide +kernel
  have hruns : Runs {} .empty adaEnrolled := State.play_steps _ _
  have hsteps : Steps {} adaEnrolled adaBusy := State.play_steps _ _
  exact ⟨hfresh, by decide +kernel, by decide +kernel, hruns.sound hsteps hfresh⟩

end Gatehouse
