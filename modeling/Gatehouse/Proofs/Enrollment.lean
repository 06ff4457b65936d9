/-
  Gatehouse — registrations that take turns.

  Any number of registrations go on at one store of accounts, each with a form that is accepted, and
  nothing fails that a registration relies on (`Stores.Sustains`). All of them may find the address
  free before the first has added its record; the store then takes one record and refuses the
  others. As long as the generator draws no identifier twice (`Unused`), an address is registered
  once.

  * `Flow.Obeys`: what a flow asks and how it ends, as far as the replies are of some sort;
  * `Service.register_obeys`: what a registration does that nothing disturbs;
  * `Enrollment.records`: the accounts are those of the start and those that were added;
  * `Enrollment.registered_once`: who is told what of an address, once all registrations are over.
-/
import Gatehouse.Proofs.Records
import Gatehouse.Proofs.Staleness

namespace Gatehouse

/-! ## What a flow does while nothing fails -/

namespace Flow

variable {ε ε' α β : Type} {R : Exchange → Prop} {Φ : History → Ask → Prop} {h h₀ : History}

/-- With the exchanges `h` behind it, and as long as all exchanges satisfy `R`, the flow asks only
    what satisfies `Φ`, and ends only as `Ω` says. -/
inductive Obeys (R : Exchange → Prop) (Φ : History → Ask → Prop) (Ω : History → Ending ε α → Prop) :
    History → Flow ε α → Prop
  | done {h a} : Ω h (.done a) → Obeys R Φ Ω h (.done a)
  | fail {h e} : Ω h (.failed e) → Obeys R Φ Ω h (.fail e)
  | crash {h o} : Ω h (.crashed o) → Obeys R Φ Ω h (.crash o)
  | ask {h q k} : Φ h q → (∀ r, R ⟨q, r⟩ → Obeys R Φ Ω (h ++ [⟨q, r⟩]) (k r)) →
      Obeys R Φ Ω h (.ask q k)

theorem obeys_bind {Ω : History → Ending ε β → Prop} {m : Flow ε α} {f : α → Flow ε β}
    (hm : m.Obeys R Φ (fun h e =>
      match e with
      | .done a => (f a).Obeys R Φ Ω h
      | .failed e => Ω h (.failed e)
      | .crashed o => Ω h (.crashed o)) h) : (m >>= f).Obeys R Φ Ω h := by
  induction hm with
  | done he => exact he
  | fail he => exact .fail he
  | crash he => exact .crash he
  | ask hq _ ih => exact .ask hq ih

theorem obeys_mapFailure {Ω : History → Ending ε' α → Prop} {g : ε → ε'} {m : Flow ε α}
    (hm : m.Obeys R Φ (fun h e =>
      match e with
      | .done a => Ω h (.done a)
      | .failed e => Ω h (.failed (g e))
      | .crashed o => Ω h (.crashed o)) h) : (m.mapFailure g).Obeys R Φ Ω h := by
  unfold mapFailure
  induction hm with
  | done he => exact .done he
  | fail he => exact .fail he
  | crash he => exact .crash he
  | ask hq _ ih => exact .ask hq ih

theorem obeys_attempt {Ω : History → Ending ε' (Except ε α) → Prop} {m : Flow ε α}
    (hm : m.Obeys R Φ (fun h e =>
      match e with
      | .done a => Ω h (.done (.ok a))
      | .failed e => Ω h (.done (.error e))
      | .crashed o => Ω h (.crashed o)) h) : (m.attempt : Flow ε' _).Obeys R Φ Ω h := by
  induction hm with
  | done he => exact .done he
  | fail he => exact .done he
  | crash he => exact .crash he
  | ask hq _ ih => exact .ask hq ih

theorem obeys_log {e : Event} {Ω : History → Ending ε Unit → Prop} (hq : Φ h (.log e))
    (he : Ω (h ++ [⟨.log e, ()⟩]) (.done ())) : (.log e : Flow ε Unit).Obeys R Φ Ω h :=
  .ask hq fun _ _ => .done he

variable {Ω : History → Ending ε α → Prop}

theorem Obeys.question {q : Ask} {k : q.Reply → Flow ε α} (hm : (Flow.ask q k).Obeys R Φ Ω h) :
    Φ h q := by
  cases hm with
  | ask hq _ => exact hq

theorem Obeys.ending {e : Ending ε α} (hm : e.flow.Obeys R Φ Ω h) : Ω h e := by
  cases e with
  | done a => cases hm; assumption
  | failed x => cases hm; assumption
  | crashed o => cases hm; assumption

/-- What a flow obeys it obeys wherever such exchanges have led. -/
theorem Leads.obeys {m m' : Flow ε α} (hl : m.Leads h m') (hR : ∀ x ∈ h, R x)
    (hm : m.Obeys R Φ Ω h₀) : m'.Obeys R Φ Ω (h₀ ++ h) := by
  induction hl with
  | refl => simpa using hm
  | snoc _ _ ih =>
    rw [← List.append_assoc]
    cases ih fun x hx => hR x (List.mem_append_left _ hx) with
    | ask _ hk => exact hk _ (hR _ (by simp))

end Flow

/-! ## Registrations -/

/-- Nothing fails that a registration relies on: the store of accounts answers its calls, passwords
    are hashed, texts are drawn, and a day from now is a date. What becomes of tokens and of mails
    is left open. -/
def Stores.Sustains (d : Stores) : (q : Ask) → q.Reply → Prop
  | .users _ c, r => r = some (d.users.perform c).1
  | .hash _, r => ∃ digest, r = .ok digest
  | .draw _, r => ∃ text, r = .ok text
  | .now, t => ∃ expiry, t.addSeconds? Service.verificationSeconds = some expiry
  | _, _ => True

/-- Nothing has failed, whatever the stores hold. -/
def Exchange.Smooth (x : Exchange) : Prop := ∃ d : Stores, d.Sustains x.ask x.reply

/-- The record that was to be added, and whether the answer was that it is. -/
def Exchange.opened? : Exchange → Option (User × Bool)
  | ⟨.users _ (.create u), some (.ok _)⟩ => some (u, true)
  | ⟨.users _ (.create u), _⟩ => some (u, false)
  | _ => none

/-- The answer was that the address is in use. -/
def Exchange.Reports (a : EmailAddress) (x : Exchange) : Prop :=
  ∃ limit, x = ⟨.users limit (.existsByEmail a), some (.ok true)⟩

/-- The records that were to be added, each with the answer. -/
def History.opened (h : History) : List (User × Bool) := h.filterMap Exchange.opened?

theorem Exchange.ask_of_opened {x : Exchange} {u : User} {added : Bool}
    (h : x.opened? = some (u, added)) : ∃ limit, x.ask = .users limit (.create u) := by
  unfold opened? at h
  split at h
  · cases h; exact ⟨_, rfl⟩
  · cases h; exact ⟨_, rfl⟩
  · cases h

theorem Exchange.opened_of_enrolled {x : Exchange} {u : User} (h : x.enrolled? = some u) :
    ∃ added, x.opened? = some (u, added) := by
  unfold enrolled? at h
  split at h
  · rename_i r
    cases h
    rcases r with _ | e | v <;> exact ⟨_, rfl⟩
  · cases h

theorem Entry.exchange_of_enrolled {e : Entry} {u : User} (h : e.enrolled? = some u) :
    e.exchange.enrolled? = some u := by
  unfold enrolled? at h
  split_ifs at h
  exact h

theorem History.opened_append (h l : History) : (h ++ l).opened = h.opened ++ l.opened :=
  List.filterMap_append

/-- The address that an accepted form registers. -/
def Registration.Form.address? (form : Registration.Form) : Option EmailAddress :=
  match form.validate with
  | .ok valid => some valid.email
  | .error _ => none

namespace Call

/-- What a registration of an address may ask: it adds one record with the address, under an
    identifier that it has drawn. -/
def MayOpen (a : EmailAddress) (h : History) : Ask → Prop
  | .users _ (.create u) => u.email = a ∧ u.id.text ∈ h.drawn ∧ h.opened = []
  | _ => True

/-- How a registration of an address ends. -/
inductive Opens (a : EmailAddress) (h : History) : Ending AuthError Profile → Prop
  | added {u : User} : u.email = a → h.opened = [(u, true)] → Opens a h (.done u.profile)
  | met {x} : x ∈ h → x.Reports a → h.opened = [] → Opens a h (.failed .emailTaken)
  | late {u : User} : u.email = a → h.opened = [(u, false)] → Opens a h (.failed .emailTaken)

end Call

/-- A record is added, or refused as one that is in use. -/
theorem Exchange.Smooth.create {limit : Span} {u : User} {r}
    (h : Exchange.Smooth ⟨.users limit (.create u), r⟩) :
    r = some (.ok u) ∨ ∃ reason, r = some (.error (.conflict reason)) := by
  obtain ⟨d, rfl⟩ := h
  simp only [UserStore.perform, UserStore.create]
  split_ifs
  · exact .inr ⟨_, rfl⟩
  · exact .inr ⟨_, rfl⟩
  · exact .inl rfl

theorem Exchange.Smooth.existsByEmail {limit : Span} {a : EmailAddress} {r}
    (h : Exchange.Smooth ⟨.users limit (.existsByEmail a), r⟩) : ∃ taken, r = some (.ok taken) := by
  obtain ⟨d, rfl⟩ := h
  exact ⟨_, rfl⟩

namespace Service

open Gatehouse.Flow

variable {cfg : Settings} {a : EmailAddress} {h : History}

theorem obeys_hash {password : String} {Ω : History → Ending AuthError String → Prop}
    (ha : ∀ x, Ω (h ++ [⟨.hash password, .ok x⟩]) (.done x)) :
    (hash password).Obeys Exchange.Smooth (Call.MayOpen a) Ω h := by
  refine .ask trivial ?_
  rintro r ⟨d, x, rfl⟩
  exact .done (ha x)

theorem obeys_now {Ω : History → Ending AuthError Instant → Prop}
    (ha : ∀ t expiry, t.addSeconds? verificationSeconds = some expiry →
      Ω (h ++ [⟨.now, t⟩]) (.done t)) : now.Obeys Exchange.Smooth (Call.MayOpen a) Ω h := by
  refine .ask trivial ?_
  rintro t ⟨d, expiry, ht⟩
  exact .done (ha t expiry ht)

theorem obeys_draw {Ω : History → Ending AuthError String → Prop}
    (ha : ∀ x, Ω (h ++ [⟨draws, .ok x⟩]) (.done x)) :
    draw.Obeys Exchange.Smooth (Call.MayOpen a) Ω h := by
  refine .ask trivial ?_
  rintro r ⟨d, x, rfl⟩
  exact .done (ha x)

theorem obeys_deliver {id : UserId} {m : Mail} {Ω : History → Ending AuthError Unit → Prop}
    (ha : ∀ l : History, History.opened l = [] → Ω (h ++ l) (.done ())) :
    (deliver cfg id m).Obeys Exchange.Smooth (Call.MayOpen a) Ω h := by
  refine .ask trivial fun r _ => ?_
  cases mailError? cfg.mailLimit r with
  | none => exact .done (ha _ rfl)
  | some e =>
    refine obeys_log trivial ?_
    rw [List.append_assoc]
    exact ha _ rfl

/-- A verification mail, sent or not, adds no record. -/
theorem obeys_sendVerification {u : User} {now expiry : Instant}
    {Ω : History → Ending AuthError Unit → Prop}
    (hnow : now.addSeconds? verificationSeconds = some expiry)
    (hdone : ∀ l : History, History.opened l = [] → Ω (h ++ l) (.done ()))
    (hfail : ∀ (l : History) e, History.opened l = [] → Ω (h ++ l) (.failed e)) :
    (sendVerification cfg u now).Obeys Exchange.Smooth (Call.MayOpen a) Ω h := by
  refine obeys_bind (obeys_bind (obeys_draw fun id => obeys_bind (obeys_draw fun secret => ?_)))
  simp only [hnow]
  refine obeys_bind (obeys_mapFailure (.ask trivial fun r _ => ?_))
  rw [List.append_assoc, List.append_assoc]
  rcases r with _ | e | ⟨⟩
  · exact .fail (hfail _ _ rfl)
  · exact .fail (hfail _ _ rfl)
  · refine .done (.done (obeys_bind (obeys_deliver fun l hl => obeys_log trivial ?_)))
    rw [List.append_assoc, List.append_assoc]
    refine hdone _ ?_
    simp only [History.opened_append, hl]
    rfl

/-- A registration that nothing disturbs adds one record and returns, or is told that the address is
    in use. -/
theorem register_obeys {form : Registration.Form} (ha : form.address? = some a) :
    (register cfg form).Obeys Exchange.Smooth (Call.MayOpen a) (Call.Opens a) [] := by
  unfold register
  cases hv : form.validate with
  | error e => simp [Registration.Form.address?, hv] at ha
  | ok valid =>
  obtain rfl : valid.email = a := by simpa [Registration.Form.address?, hv] using ha
  refine obeys_bind (.done (obeys_bind (obeys_mapFailure (.ask trivial fun r hr => ?_))))
  obtain ⟨taken, rfl⟩ := hr.existsByEmail
  refine .done ?_
  cases taken with
  | true => exact .fail (.met (List.mem_singleton_self _) ⟨_, rfl⟩ rfl)
  | false =>
  refine obeys_bind (obeys_hash fun digest => obeys_bind (obeys_now fun t expiry ht => ?_))
  refine obeys_bind (obeys_draw fun id => obeys_bind (obeys_mapFailure ?_))
  refine .ask ⟨rfl, by simp [History.drawn, Exchange.drawn?], rfl⟩ fun r hr => ?_
  rcases hr.create with rfl | ⟨reason, rfl⟩
  · refine .done (obeys_bind (obeys_log trivial (obeys_bind (obeys_deliver fun l hl => ?_))))
    refine obeys_bind (obeys_attempt (obeys_sendVerification ht (fun l' hl' => ?_)
      fun l' e hl' => ?_))
    · refine .done (.added rfl ?_)
      simp only [History.opened_append, hl, hl', List.append_nil]
      rfl
    · refine obeys_bind (obeys_log trivial (.done (.added rfl ?_)))
      simp only [History.opened_append, hl, hl', List.append_nil]
      rfl
  · exact .fail (.late rfl rfl)

end Service

/-! ## Registrations that take turns -/

/-- A store call whose result its caller sees was carried out if it could be. -/
theorem Served.took_eq {α : Type} {result : Except StoreError α} {took : Bool}
    (h : Served result (some result) took) : took = result.isOk := by
  generalize hr : some result = reply at h
  cases h with
  | answered => rfl
  | lost hl ht =>
    cases result with
    | ok a => exact absurd hr.symm (hl a)
    | error e =>
      cases took with
      | false => rfl
      | true => exact absurd (ht rfl) (by simp [Except.isOk, Except.toBool])

/-- One step: a registration with an accepted form arrives, or one has its next question answered
    while nothing fails. -/
inductive Enrolls (cfg : Settings) : State → State → Prop
  | arrive {s : State} {form a} : form.address? = some a →
      Enrolls cfg s
        { s with tasks := s.tasks ++ [⟨.register form, (Call.register form).flow cfg⟩] }
  | turn {s : State} {i c q k r took after} : s.tasks[i]? = some ⟨c, .ask q k⟩ →
      s.Replies q r took after → s.Sustains q r →
      Enrolls cfg s { after with
        tasks := s.tasks.set i ⟨c, k r⟩, log := s.log ++ [⟨i, c, ⟨q, r⟩, took⟩] }

/-- The state is reached from the stores by such steps, before any call. -/
abbrev Enrollment (cfg : Settings) (d : Stores) (s : State) : Prop :=
  Relation.ReflTransGen (Enrolls cfg) (.start d) s

/-- The generator draws no text twice, and no identifier of an account that was there at first. -/
def Unused (d : Stores) (log : List Entry) : Prop :=
  (d.users.records.map (·.id.text) ++ drawsOf log).Nodup

/-- The records that were added. -/
def addedOf (log : List Entry) : List User := log.filterMap Entry.enrolled?

/-- The call is over. -/
def Task.over : Task → Bool
  | ⟨_, .ask _ _⟩ => false
  | _ => true

namespace State

/-- The call registers the address. -/
def Wants (s : State) (i : Nat) (a : EmailAddress) : Prop :=
  ∃ form m, s.tasks[i]? = some ⟨.register form, m⟩ ∧ form.address? = some a

/-- The call has registered the address. -/
def Opens (s : State) (i : Nat) (a : EmailAddress) : Prop :=
  ∃ form p, s.Returned i (.register form) p ∧ form.address? = some a

/-- The call was told that its address is in use. -/
def TurnsAway (s : State) (i : Nat) : Prop :=
  ∃ form, s.tasks[i]? = some ⟨.register form, .fail .emailTaken⟩

end State

variable {cfg : Settings} {d : Stores} {s s' : State} {a : EmailAddress}

theorem Enrolls.step (h : Enrolls cfg s s') : Step cfg s s' := by
  cases h with
  | arrive _ => exact .arrive _
  | turn hi hr _ => exact .turn hi hr

namespace Enrollment

theorem runs (h : Enrollment cfg d s) : Runs cfg d s := h.lift id fun _ _ hs => hs.step

/-- All calls are registrations with accepted forms. -/
theorem form (h : Enrollment cfg d s) {t : Task} (ht : t ∈ s.tasks) :
    ∃ form a, t.call = .register form ∧ form.address? = some a := by
  induction h generalizing t with
  | refl => cases ht
  | tail _ hs ih =>
    cases hs with
    | arrive ha =>
      rcases List.mem_append.1 ht with ht | ht
      · exact ih ht
      · rw [List.mem_singleton.1 ht]
        exact ⟨_, _, rfl, ha⟩
    | turn hi _ _ =>
      rcases List.mem_or_eq_of_mem_set ht with ht | rfl
      · exact ih ht
      · obtain ⟨form, a, hc, ha⟩ := ih (List.mem_of_getElem? hi)
        exact ⟨form, a, hc, ha⟩

/-- Behind each moment of the log is a state in which nothing failed. -/
theorem moment (h : Enrollment cfg d s) {n : Nat} {e : Entry} (he : s.log[n]? = some e) :
    ∃ s₁ after, Enrollment cfg d s₁ ∧ s₁.log = s.log.take n ∧ s₁.Admits e after ∧
      s₁.Sustains e.exchange.ask e.exchange.reply := by
  induction h with
  | refl => cases he
  | @tail s₁ s₂ h₁ hs ih =>
    cases hs with
    | arrive _ => exact ih he
    | turn hi hr hq =>
      rcases lt_or_ge n s₁.log.length with hn | hn
      · rw [List.getElem?_append_left hn] at he
        obtain ⟨t, after, ht, hl, hrest⟩ := ih he
        exact ⟨t, after, ht, by rw [hl, List.take_append_of_le_length hn.le], hrest⟩
      · rw [List.getElem?_append_right hn, List.getElem?_singleton] at he
        split_ifs at he with h0
        cases he
        refine ⟨s₁, _, h₁, ?_, ⟨⟨_, hi⟩, hr⟩, hq⟩
        rw [List.take_left' (by omega)]

theorem smooth (h : Enrollment cfg d s) {i : Nat} {x : Exchange} (hx : x ∈ historyOf i s.log) :
    x.Smooth := by
  obtain ⟨e, he, -, rfl⟩ := mem_historyOf.1 hx
  obtain ⟨n, hn⟩ := List.mem_iff_getElem?.1 he
  obtain ⟨s₁, -, -, -, -, hq⟩ := h.moment hn
  exact ⟨s₁.toStores, hq⟩

/-- A registration does at any time what it does while nothing disturbs it. -/
theorem obeys (h : Enrollment cfg d s) {i : Nat} {form m}
    (hi : s.tasks[i]? = some ⟨.register form, m⟩) (ha : form.address? = some a) :
    m.Obeys Exchange.Smooth (Call.MayOpen a) (Call.Opens a) (historyOf i s.log) := by
  have hm : ((Call.register form).flow cfg).Obeys _ _ _ [] := Service.register_obeys ha
  exact (h.runs.leads hi).obeys (fun _ => h.smooth) hm

/-- What is asked next is asked by a registration. -/
theorem mayOpen_next (h : Enrollment cfg d s) {e : Entry} {after : Stores} (he : s.Admits e after) :
    ∃ form a, e.call = .register form ∧ form.address? = some a ∧
      Call.MayOpen a (historyOf e.caller s.log) e.exchange.ask := by
  obtain ⟨⟨k, hk⟩, -⟩ := he
  obtain ⟨form, a, hc, ha⟩ := h.form (List.mem_of_getElem? hk)
  obtain ⟨i, c, ⟨q, r⟩, took⟩ := e
  subst hc
  exact ⟨form, a, rfl, ha, (h.obeys hk ha).question⟩

/-- The answer to a create tells whether the record was added. -/
theorem enrolled_of_opened {e : Entry} {after : Stores} {u : User} {added : Bool}
    (he : s.Admits e after) (hq : s.Sustains e.exchange.ask e.exchange.reply)
    (hu : e.exchange.opened? = some (u, added)) : e.enrolled? = if added then some u else none := by
  obtain ⟨i, c, ⟨q, r⟩, took⟩ := e
  obtain ⟨-, hr⟩ := he
  unfold Exchange.opened? at hu
  split at hu
  · rename_i hx
    cases hx; cases hu
    obtain rfl : took = true := hr.1.ok.2
    rfl
  · rename_i hno hx
    cases hx; cases hu
    obtain rfl := hq
    have ht : took = (s.users.perform (.create u)).1.isOk := hr.1.took_eq
    cases hp : (s.users.perform (.create u)).1 with
    | ok v => exact (hno v (by rw [hp])).elim
    | error e =>
      rw [hp] at ht
      subst ht
      rfl
  · cases hu

/-- The accounts are those of the start and those that were added. -/
theorem records (h : Enrollment cfg d s) :
    s.users.records = d.users.records ++ addedOf s.log := by
  induction h with
  | refl => simp [State.start, addedOf]
  | @tail s₁ s₂ h₁ hs ih =>
    cases hs with
    | arrive _ => exact ih
    | @turn i c q k r took after hi hr hq =>
      have ha : s₁.Admits ⟨i, c, ⟨q, r⟩, took⟩ after := ⟨⟨k, hi⟩, hr⟩
      rcases ha.users with ⟨u, v, hv, -⟩ | ⟨v, hv, -, -, hs⟩ | ⟨-, hv, hs⟩
      · -- a registration puts no record in the place of another
        obtain ⟨form, a, hc, -⟩ := mayOpen_next h₁ ha
        have := Runs.rewrites_next (runs h₁) ha hv
        rw [hc] at this
        cases this
      · simp [addedOf, hs, ih, hv]
      · simp [addedOf, hs, ih, hv]

/-- A record that was added is one whose caller was told so. -/
theorem opened_iff (h : Enrollment cfg d s) {i : Nat} {u : User} :
    (u, true) ∈ (historyOf i s.log).opened ↔
      ∃ (n : Nat) (e : Entry), s.log[n]? = some e ∧ e.caller = i ∧ e.enrolled? = some u := by
  rw [History.opened, mem_view]
  refine exists_congr fun n => exists_congr fun e => and_congr_right fun hn =>
    and_congr_right fun _ => ?_
  obtain ⟨s₁, after, -, -, ha, hq⟩ := h.moment hn
  constructor
  · intro hu
    rw [enrolled_of_opened ha hq hu, if_pos rfl]
  · intro hu
    obtain ⟨added, ho⟩ := Exchange.opened_of_enrolled (Entry.exchange_of_enrolled hu)
    rw [enrolled_of_opened ha hq ho] at hu
    split_ifs at hu with hadded
    rw [ho, hadded]

/-- A record that is to be added has an identifier that no account has. -/
theorem id_new (h : Enrollment cfg d s) (hf : Unused d s.log) {e : Entry} {after : Stores}
    {u : User} {limit : Span} (ha : s.Admits e after)
    (hq : e.exchange.ask = .users limit (.create u)) :
    ∀ v ∈ s.users.records, v.id ≠ u.id := by
  intro v hv hid
  obtain ⟨_, _, -, -, hmay⟩ := h.mayOpen_next ha
  rw [hq] at hmay
  obtain ⟨-, hdrawn, hfirst⟩ := hmay
  obtain ⟨p, x, hp, hpi, hpx⟩ := mem_view.1 hdrawn
  rcases List.mem_append.1 (h.records ▸ hv) with hv | hv
  · have hu : u.id.text ∈ drawsOf s.log := List.mem_filterMap.2 ⟨x, List.mem_of_getElem? hp, hpx⟩
    exact (List.nodup_append.1 hf).2.2 v.id.text (List.mem_map_of_mem hv) u.id.text hu (by rw [hid])
  · -- an identifier is drawn once, so that the other record is of the same caller
    obtain ⟨e', he', hv⟩ := List.mem_filterMap.1 hv
    obtain ⟨m, hm⟩ := List.mem_iff_getElem?.1 he'
    obtain ⟨s₁, after₁, h₁, hl₁, ha₁, -⟩ := h.moment hm
    obtain ⟨added, ho⟩ := Exchange.opened_of_enrolled (Entry.exchange_of_enrolled hv)
    obtain ⟨limit', hq'⟩ := Exchange.ask_of_opened ho
    obtain ⟨_, _, -, -, hmay'⟩ := h₁.mayOpen_next ha₁
    rw [hq', hl₁] at hmay'
    obtain ⟨p', x', -, hp', hpi', hpx'⟩ := mem_view_take.1 hmay'.2.1
    have hfresh : Fresh { d with tokens := {} } s.log := hf.sublist (List.sublist_append_right _ _)
    obtain rfl : p = p' := hfresh.moment_eq hp hp' hpx (hid ▸ hpx')
    cases hp.symm.trans hp'
    have : (v, added) ∈ (historyOf e.caller s.log).opened :=
      mem_view.2 ⟨m, e', hm, hpi'.symm.trans hpi, ho⟩
    rw [hfirst] at this
    cases this

end Enrollment

theorem Unused.of_take {log : List Entry} (hf : Unused d log) (n : Nat) : Unused d (log.take n) :=
  hf.sublist (((List.take_sublist n log).filterMap _).append_left _)

namespace Enrollment

theorem emails_take (h : Enrollment cfg d s) (h' : Enrollment cfg d s') {n : Nat}
    (hl : s'.log = s.log.take n) {u : User} (hu : u ∈ s'.users.records) :
    u ∈ s.users.records := by
  rw [h'.records, hl] at hu
  rw [h.records]
  rcases List.mem_append.1 hu with hu | hu
  · exact List.mem_append_left _ hu
  · exact List.mem_append_right _ (((List.take_sublist n s.log).filterMap _).subset hu)

/-- What a caller was told to be in use is the address of an account. -/
theorem known_of_reports (h : Enrollment cfg d s) {n : Nat} {e : Entry} (he : s.log[n]? = some e)
    (hx : e.exchange.Reports a) : ∃ u ∈ s.users.records, u.email = a := by
  obtain ⟨s₁, after, h₁, hl₁, -, hq⟩ := h.moment he
  obtain ⟨limit, hx⟩ := hx
  rw [hx] at hq
  have hex : s₁.users.existsByEmail a = true := (Except.ok.inj (Option.some.inj hq)).symm
  obtain ⟨u, hu, hua⟩ := List.any_eq_true.1 hex
  exact ⟨u, h.emails_take h₁ hl₁ hu, eq_of_beq hua⟩

/-- A record is refused only if another one has its address. -/
theorem known_of_late (h : Enrollment cfg d s) (hf : Unused d s.log) {n : Nat} {e : Entry}
    {u : User} (he : s.log[n]? = some e) (hx : e.exchange.opened? = some (u, false)) :
    ∃ v ∈ s.users.records, v.email = u.email := by
  obtain ⟨s₁, after, h₁, hl₁, ha, hq⟩ := h.moment he
  obtain ⟨limit, hask⟩ := Exchange.ask_of_opened hx
  have hnew := h₁.id_new (hl₁ ▸ hf.of_take n) ha hask
  cases hex : s₁.users.existsByEmail u.email with
  | true =>
    obtain ⟨v, hv, hvu⟩ := List.any_eq_true.1 hex
    exact ⟨v, h.emails_take h₁ hl₁ hv, eq_of_beq hvu⟩
  | false =>
    -- the store would have taken the record
    obtain ⟨i, c, ⟨q, r⟩, took⟩ := e
    obtain rfl : q = .users limit (.create u) := hask
    obtain rfl : r = some (s₁.users.perform (.create u)).1 := hq
    rw [UserStore.perform_create (UserStore.create_new hnew hex)] at hx
    cases hx

/-- No two records that were added have one address. -/
theorem added_once (h : Enrollment cfg d s) (hk : d.users.Keyed) (hd : d.users.Addressed)
    {m n : Nat} {e e' : Entry} {u v : User} (he : s.log[m]? = some e) (he' : s.log[n]? = some e')
    (hu : e.enrolled? = some u) (hv : e'.enrolled? = some v) (huv : u.email = v.email) : m = n := by
  have hnodup := h.runs.addressed hk hd
  rw [UserStore.Addressed, h.records, List.map_append] at hnodup
  have hp := (List.nodup_append.1 hnodup).2.1
  rw [List.Nodup, List.pairwise_map, addedOf, List.pairwise_filterMap,
    List.pairwise_iff_getElem] at hp
  obtain ⟨hm, rfl⟩ := List.getElem?_eq_some_iff.1 he
  obtain ⟨hn, rfl⟩ := List.getElem?_eq_some_iff.1 he'
  rcases lt_trichotomy m n with hlt | rfl | hlt
  · exact absurd huv (hp m n hm hn hlt u hu v hv)
  · rfl
  · exact absurd huv.symm (hp n m hn hm hlt v hv u hu)

/-- A record is added only under an address that no account had at first. -/
theorem added_free (h : Enrollment cfg d s) (hk : d.users.Keyed) (hd : d.users.Addressed) {u : User}
    (hu : u ∈ addedOf s.log) : d.users.existsByEmail u.email = false := by
  have hnodup := h.runs.addressed hk hd
  rw [UserStore.Addressed, h.records, List.map_append] at hnodup
  rw [UserStore.existsByEmail, List.any_eq_false]
  intro v hv hvu
  exact (List.nodup_append.1 hnodup).2.2 _ (List.mem_map_of_mem hv) _ (List.mem_map_of_mem hu)
    (eq_of_beq hvu)

/-- How a registration that is over has ended. -/
theorem ended (h : Enrollment cfg d s) {i : Nat} {form m}
    (hi : s.tasks[i]? = some ⟨.register form, m⟩) (ha : form.address? = some a)
    (hover : Task.over ⟨.register form, m⟩ = true) :
    ∃ e : Ending AuthError Profile, m = e.flow ∧ Call.Opens a (historyOf i s.log) e := by
  have ho := h.obeys hi ha
  cases m with
  | done p => exact ⟨.done p, rfl, Flow.Obeys.ending (e := .done p) ho⟩
  | fail e => exact ⟨.failed e, rfl, Flow.Obeys.ending (e := .failed e) ho⟩
  | crash o => exact ⟨.crashed o, rfl, Flow.Obeys.ending (e := .crashed o) ho⟩
  | ask q k => cases hover

/-- A registration that has returned has added a record with its address. -/
theorem added_of_opens (h : Enrollment cfg d s) {i : Nat} (hi : s.Opens i a) :
    ∃ (n : Nat) (e : Entry) (u : User), s.log[n]? = some e ∧ e.caller = i ∧
      e.enrolled? = some u ∧ u.email = a := by
  obtain ⟨form, p, hi, ha⟩ := hi
  obtain ⟨e, he, hend⟩ := h.ended hi ha rfl
  cases e with
  | done q =>
    cases hend with
    | added hua ho =>
      obtain ⟨n, e, hn, hei, heu⟩ := h.opened_iff.1 (ho ▸ List.mem_singleton_self _)
      exact ⟨n, e, _, hn, hei, heu, hua⟩
  | failed x => cases he
  | crashed o => cases he

/-- A registration that is over has returned, or was told that the address is in use, which it is;
    it has then added no record. -/
theorem opens_or_turnsAway (h : Enrollment cfg d s) (hf : Unused d s.log)
    (hover : ∀ t ∈ s.tasks, t.over = true) {i : Nat} (hi : s.Wants i a) :
    s.Opens i a ∨ s.TurnsAway i ∧ (∃ u ∈ s.users.records, u.email = a) ∧
      ∀ u, (u, true) ∉ (historyOf i s.log).opened := by
  obtain ⟨form, m, hi, ha⟩ := hi
  obtain ⟨e, rfl, hend⟩ := h.ended hi ha (hover _ (List.mem_of_getElem? hi))
  cases hend with
  | added hua ho => exact .inl ⟨form, _, hi, ha⟩
  | met hx hr ho =>
    obtain ⟨e, he, -, rfl⟩ := mem_historyOf.1 hx
    obtain ⟨n, hn⟩ := List.mem_iff_getElem?.1 he
    exact .inr ⟨⟨form, hi⟩, h.known_of_reports hn hr, by simp [ho]⟩
  | late hua ho =>
    obtain ⟨n, e, hn, -, he⟩ := view_one ho
    obtain ⟨v, hv, hvu⟩ := h.known_of_late hf hn he
    exact .inr ⟨⟨form, hi⟩, ⟨v, hv, hvu.trans hua⟩, by simp [ho]⟩

/-- Once all registrations are over, each record that was added is one that a call has returned. -/
theorem opens_of_added (h : Enrollment cfg d s) (hf : Unused d s.log)
    (hover : ∀ t ∈ s.tasks, t.over = true) {u : User} (hu : u ∈ addedOf s.log) :
    ∃ i, s.Opens i u.email := by
  obtain ⟨e, he, hu⟩ := List.mem_filterMap.1 hu
  obtain ⟨n, hn⟩ := List.mem_iff_getElem?.1 he
  obtain ⟨s₁, after, h₁, -, ha₁, -⟩ := h.moment hn
  obtain ⟨added, ho⟩ := Exchange.opened_of_enrolled (Entry.exchange_of_enrolled hu)
  obtain ⟨limit, hq⟩ := Exchange.ask_of_opened ho
  obtain ⟨form, a, hc, ha, hmay⟩ := h₁.mayOpen_next ha₁
  rw [hq] at hmay
  obtain ⟨m, hm⟩ := h.runs.arrived he
  obtain ⟨j, c, x, took⟩ := e
  obtain rfl : c = .register form := hc
  rcases h.opens_or_turnsAway hf hover ⟨form, m, hm, ha⟩ with hi | ⟨-, -, hno⟩
  · exact ⟨j, hmay.1 ▸ hi⟩
  · exact absurd (h.opened_iff.2 ⟨n, _, hn, rfl, hu⟩) (hno u)

/-- **An address is registered once.** Of the registrations of an address that have all come to
    their end, one returns if the address was free, and none if it was not; the others are told that
    it is in use; and then one account has it. -/
theorem registered_once (h : Enrollment cfg d s) (hk : d.users.Keyed) (hd : d.users.Addressed)
    (hf : Unused d s.log) (hover : ∀ t ∈ s.tasks, t.over = true) {a : EmailAddress} {i : Nat}
    (hi : s.Wants i a) :
    (d.users.existsByEmail a = false → ∃! j, s.Opens j a) ∧
      (d.users.existsByEmail a = true → ∀ j, ¬ s.Opens j a) ∧
      (∀ j, s.Wants j a → ¬ s.Opens j a → s.TurnsAway j) ∧
      (s.users.records.map (·.email)).count a = 1 := by
  have hknown : ∃ u ∈ s.users.records, u.email = a := by
    rcases h.opens_or_turnsAway hf hover hi with ho | ⟨-, hu, -⟩
    · obtain ⟨n, e, u, hn, -, hu, hua⟩ := h.added_of_opens ho
      refine ⟨u, ?_, hua⟩
      rw [h.records]
      exact List.mem_append_right _ (List.mem_filterMap.2 ⟨e, List.mem_of_getElem? hn, hu⟩)
    · exact hu
  refine ⟨fun hfree => ?_, fun htaken j hj => ?_, fun j hj hno => ?_, ?_⟩
  · obtain ⟨u, hu, rfl⟩ := hknown
    have hadded : u ∈ addedOf s.log := by
      rcases List.mem_append.1 (h.records ▸ hu) with hu | hu
      · simp only [UserStore.existsByEmail, List.any_eq_false, beq_iff_eq] at hfree
        exact absurd rfl (hfree u hu)
      · exact hu
    obtain ⟨j, hj⟩ := h.opens_of_added hf hover hadded
    refine ⟨j, hj, fun k hk' => ?_⟩
    obtain ⟨m, e, v, hm, rfl, hv, hvu⟩ := h.added_of_opens hj
    obtain ⟨n, e', w, hn, rfl, hw, hwu⟩ := h.added_of_opens hk'
    obtain rfl := h.added_once hk hd hm hn hv hw (hvu.trans hwu.symm)
    cases hm.symm.trans hn
    rfl
  · obtain ⟨n, e, u, hn, -, hu, rfl⟩ := h.added_of_opens hj
    have := h.added_free hk hd (List.mem_filterMap.2 ⟨e, List.mem_of_getElem? hn, hu⟩)
    rw [htaken] at this
    cases this
  · rcases h.opens_or_turnsAway hf hover hj with ho | ⟨ht, -⟩
    · exact absurd ho hno
    · exact ht
  · obtain ⟨u, hu, rfl⟩ := hknown
    exact List.count_eq_one_of_mem (h.runs.addressed hk hd) (List.mem_map_of_mem hu)

end Enrollment

/-! ## Two registrations of one address -/

variable {draws : Nat → String}

theorem Stores.sustains_answer (d : Stores) (n : Nat) (q : Ask) :
    d.Sustains q (d.answer draws n q).1 := by
  cases q with
  | now =>
    have h : (⟨0, 0⟩ : Instant).addSeconds? Service.verificationSeconds = some ⟨86400, 0⟩ := by
      decide
    exact ⟨_, h⟩
  | users l c => rfl
  | hash password => exact ⟨_, rfl⟩
  | draw bytes => exact ⟨_, rfl⟩
  | _ => trivial

namespace State

theorem turn_enrolls (i : Nat) (s : State) :
    Relation.ReflTransGen (Enrolls cfg) s (s.turn draws i) := by
  unfold turn
  split
  · rename_i hi
    exact .single (.turn hi (replies_answer _ _ _) (Stores.sustains_answer _ _ _))
  · exact .refl

theorem turns_enrolls (i n : Nat) (s : State) :
    Relation.ReflTransGen (Enrolls cfg) s (s.turns draws i n) := by
  induction n generalizing s with
  | zero => exact .refl
  | succ n ih => exact (turn_enrolls i s).trans (ih _)

/-- Two calls that are played are an enrollment if they are registrations with accepted forms. -/
theorem play_enrolls {form form' : Registration.Form} {a b : EmailAddress}
    (ha : form.address? = some a) (hb : form'.address? = some b) (i j k l m n : Nat) (s : State) :
    Relation.ReflTransGen (Enrolls cfg) s
      (s.play cfg draws [.call (.register form), .call (.register form'), .turns i k, .turns j l,
        .turns m n]) := by
  refine .head (.arrive ha) (.head (.arrive hb) ?_)
  exact ((turns_enrolls _ _ _).trans (turns_enrolls _ _ _)).trans (turns_enrolls _ _ _)

end State

/-- Two registrations of one address, in two spellings: both find it free, the second adds its
    account, and the first goes on. -/
def racing : State :=
  (State.start .empty).play {} unary
    [.call (.register adasForm), .call (.register { adasForm with email := " ada@EXAMPLE.org" }),
      .turns 0 1, .turns 1 12, .turns 0 4]

theorem registered_once_racing :
    Enrollment {} .empty racing ∧ Unused .empty racing.log ∧ racing.Wants 1 ada.email ∧
      (∃! j, racing.Opens j ada.email) ∧
      (racing.users.records.map (·.email)).count ada.email = 1 := by
  have h : Enrollment {} .empty racing :=
    State.play_enrolls (a := ada.email) (b := ada.email) (by decide +kernel) (by decide +kernel)
      0 1 1 12 0 4 _
  have hf : Unused .empty racing.log := by unfold Unused; decide +kernel
  have ho : racing.outcome? 1 =
    some (.register { adasForm with email := " ada@EXAMPLE.org" }, true) := by decide +kernel
  obtain ⟨p, hp⟩ := State.returned_of_outcome ho
  have hw : racing.Wants 1 ada.email := ⟨_, _, hp, by decide +kernel⟩
  have hd : Stores.empty.users.Addressed := by simp [Stores.empty, UserStore.Addressed]
  obtain ⟨hfree, -, -, hcount⟩ :=
    h.registered_once (by decide +kernel) hd hf (by decide +kernel) hw
  exact ⟨h, hf, hw, hfree rfl, hcount⟩

/-- It is the last second of all, so that no day is to come. -/
def Surroundings.late : Surroundings where
  reply
    | _, .now => ⟨Instant.lastSecond, 0⟩
    | n, q => plain.reply n q
  fate _ := .served

/-- A registration of a free address, when no day is to come. -/
def belated : State := (State.start .empty).conduct {} .late (.register adasForm)

/-- Stores with an account that has the identifier which a first registration draws. -/
def foreseen : Stores where
  users := ⟨[{ ada with id := ⟨unary 3⟩ }]⟩
  tokens := {}

/-- The form that registers another address. -/
def bobsForm : Registration.Form := { adasForm with email := "bob@example.org" }

/-- A registration of a free address, under an identifier that is in use. -/
def foiled : State := (State.start foreseen).conduct {} .plain (.register bobsForm)

/-- An address can be free, every store call answered and each text drawn once, and its registration
    does not return: it is given up as there is no day for its token to expire on, or it has drawn
    the identifier of another account. -/
theorem unregistered :
    (Surroundings.late.Serves ∧ (drawsOf belated.log).Nodup ∧
      (∃ a, adasForm.address? = some a ∧ Stores.empty.users.existsByEmail a = false) ∧
      belated.tasks = [⟨.register adasForm, .crash .instant⟩]) ∧
    (Surroundings.plain.Serves ∧ (drawsOf foiled.log).Nodup ∧
      (∃ a, bobsForm.address? = some a ∧ foreseen.users.existsByEmail a = false) ∧
      foiled.tasks = [⟨.register bobsForm, .fail .emailTaken⟩]) := by
  have hform : bobsForm.address? = some ⟨"bob@example.org", ⟨"bob@example.org", by decide +kernel⟩,
    by decide +kernel, rfl⟩ := by decide +kernel
  refine ⟨⟨fun _ => rfl, by decide +kernel, ⟨ada.email, by decide +kernel, rfl⟩, rfl⟩,
    fun _ => rfl, by decide +kernel, ⟨_, hform, by decide +kernel⟩, rfl⟩

end Gatehouse
