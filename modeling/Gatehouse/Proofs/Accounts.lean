/-
  Gatehouse — what accounts remember.

  Calls are made one after another, in calm surroundings. An account is opened by a
  registration, and what its record holds follows from the calls since then: the address never
  changes, and the password is the one that was set last (`lastPassword`).

  * `Deed.users`: all that a deed does to the accounts;
  * `State.Roll`: the accounts are those that were registered;
  * `State.login_follows`: whoever knows the password that was set last can log in, and nobody
    else can.
-/
import Gatehouse.Proofs.Lifetime

namespace Gatehouse

/-! ## Addresses -/

/-- Texts with one spelling stand for one address. -/
theorem EmailAddress.ofText_congr {a b : String} (h : normalize a = normalize b) :
    ofText a = ofText b := by
  unfold ofText
  congr 1

theorem EmailAddress.normalize_eq {a b : String} {e : EmailAddress} (ha : ofText a = .ok e)
    (hb : ofText b = .ok e) : normalize a = normalize b :=
  (text_of_ofText ha).symm.trans (text_of_ofText hb)

/-! ## What changes a record -/

namespace Task

/-- The password that a call has set for a user. -/
def newPassword? (id : UserId) : Task → Option String
  | ⟨.changePassword other _ new, .done _⟩ => if other = id then some new else none
  | _ => none

/-- The call has confirmed the address of a user. -/
def Confirms (id : UserId) : Task → Prop
  | ⟨.verifyEmail _, .done p⟩ => p.id = id
  | _ => False

theorem newPassword?_of_refused {c : Call} {e : Ending c.Failure c.Value} (h : ∀ v, e ≠ .done v)
    (id : UserId) : (⟨c, e.flow⟩ : Task).newPassword? id = none := by
  cases e with
  | done v => exact absurd rfl (h v)
  | failed | crashed => cases c <;> rfl

theorem not_confirms_of_refused {c : Call} {e : Ending c.Failure c.Value} (h : ∀ v, e ≠ .done v)
    (id : UserId) : ¬ (⟨c, e.flow⟩ : Task).Confirms id := by
  cases e with
  | done v => exact absurd rfl (h v)
  | failed | crashed => cases c <;> exact not_false

end Task

/-- The password that was set last, by the first of some calls or by one of the others. -/
def lastPassword (first : String) (id : UserId) (since : List Task) : String :=
  since.foldl (fun password x => (x.newPassword? id).getD password) first

theorem lastPassword_concat (first : String) (id : UserId) (since : List Task) (x : Task) :
    lastPassword first id (since ++ [x]) =
      (x.newPassword? id).getD (lastPassword first id since) := by
  simp [lastPassword]

/-- The digest is one of a password. -/
def Surroundings.Digests (o : Surroundings) (password digest : String) : Prop :=
  ∃ k, o.reply k (.hash password) = .ok digest

/-- A password matches a digest if and only if the digest was made of it. -/
def Surroundings.Faithful (o : Surroundings) : Prop :=
  ∀ {password digest}, o.Digests password digest →
    ∀ n entered, o.reply n (.verify entered digest) = true ↔ entered = password

theorem Surroundings.plain_faithful : plain.Faithful := by
  rintro password digest ⟨k, h⟩ n entered
  obtain rfl : digestOf password = digest := Except.ok.inj h
  change (digestOf password == digestOf entered) = true ↔ _
  rw [beq_iff_eq, digestOf, digestOf, String.append_right_inj, eq_comm]

/-- After a call, the record `u` is `u'`. -/
structure User.Becomes (o : Surroundings) (x : Task) (u u' : User) : Prop where
  id : u'.id = u.id
  email : u'.email = u.email
  confirmed : u'.emailVerified = true ↔ u.emailVerified = true ∨ x.Confirms u.id
  password : ∀ password, o.Digests password u.passwordHash →
    o.Digests ((x.newPassword? u.id).getD password) u'.passwordHash

/-- After a call, the records of the store `s` are those of `s'`. -/
def UserStore.Becomes (o : Surroundings) (x : Task) (s s' : UserStore) : Prop :=
  (∀ u' ∈ s'.records, ∃ u ∈ s.records, u.Becomes o x u') ∧
    ∀ u ∈ s.records, ∃ u' ∈ s'.records, u.Becomes o x u'

section

variable {cfg : Settings} {o : Surroundings} {n : Nat} {d : Stores} {s' : Scene} {c : Call}
  {e : Ending c.Failure c.Value} {x : Task}

theorem User.becomes_self {u : User} (hc : ¬ x.Confirms u.id) (hp : x.newPassword? u.id = none) :
    u.Becomes o x u :=
  ⟨rfl, rfl, by simp [hc], fun password h => by rwa [hp]⟩

theorem UserStore.becomes_self {s : UserStore} (h : ∀ u ∈ s.records, u.Becomes o x u) :
    s.Becomes o x s :=
  ⟨fun u hu => ⟨u, hu, h u hu⟩, fun u hu => ⟨u, hu, h u hu⟩⟩

theorem UserStore.becomes_replace {s : UserStore} {u v : User} (hs : s.Keyed) (hu : u ∈ s.records)
    (huv : u.Becomes o x v) (h : ∀ w ∈ s.records, w.id ≠ u.id → w.Becomes o x w) :
    s.Becomes o x (s.replace v) := by
  have hmem : ∀ w ∈ s.records, w.Becomes o x (if w.id = v.id then v else w) := by
    intro w hw
    rw [huv.id]
    split_ifs with hid
    · rwa [List.inj_on_of_nodup_map hs hw hu hid]
    · exact h w hw hid
  refine ⟨fun u' hu' => ?_, fun w hw => ⟨_, List.mem_map_of_mem hw, hmem w hw⟩⟩
  obtain ⟨w, hw, rfl⟩ := List.mem_map.1 hu'
  exact ⟨w, hw, hmem w hw⟩

/-- The records become what they become, and a registration adds one. -/
theorem Deed.users (hs : d.Tidy o n) (h : Deed cfg o n d s' c e) :
    ∃ rest, d.users.Becomes o ⟨c, e.flow⟩ rest ∧
      ((s'.users = rest ∧ ∀ form p, (⟨c, e.flow⟩ : Task) ≠ ⟨.register form, .done p⟩) ∨
        ∃ form p u, (⟨c, e.flow⟩ : Task) = ⟨.register form, .done p⟩ ∧ p.id = u.id ∧
          u.Enrolls o n d s' form ∧ s'.users = ⟨rest.records ++ [u]⟩) := by
  have hsame : (∀ u ∈ d.users.records, u.Becomes o ⟨c, e.flow⟩ u) →
      d.users.Becomes o ⟨c, e.flow⟩ d.users := UserStore.becomes_self
  cases h with
  | refused he _ hd =>
    refine ⟨_, hsame fun u _ => User.becomes_self (Task.not_confirms_of_refused he _)
      (Task.newPassword?_of_refused he _), .inl ⟨congrArg _ hd, fun form p h => ?_⟩⟩
    cases e <;> cases h
    exact he _ rfl
  | turnedAway _ hd | validated hd | skipped _ hd | kept _ _ _ _ hd =>
    exact ⟨_, hsame fun u _ => User.becomes_self not_false rfl,
      .inl ⟨congrArg _ hd, fun form p h => by cases h⟩⟩
  | loggedIn _ _ _ _ _ _ husers | loggedOut husers | rotated _ _ _ _ _ _ husers
  | resent _ _ _ husers | swept husers =>
    exact ⟨_, hsame fun u _ => User.becomes_self not_false rfl,
      .inl ⟨husers, fun form p h => by cases h⟩⟩
  | registered hu _ husers =>
    exact ⟨_, hsame fun u _ => User.becomes_self not_false rfl,
      .inr ⟨_, _, _, rfl, rfl, hu, husers⟩⟩
  | @rekeyed id old new u digest now hu hdigest husers =>
    obtain ⟨hmem, rfl⟩ := UserStore.findById_eq hu
    refine ⟨_, UserStore.becomes_replace hs.keyed hmem (v := u.rekeyed digest now) ?_
      fun w _ hid => User.becomes_self not_false (if_neg (Ne.symm hid)),
      .inl ⟨husers, fun form p h => by cases h⟩⟩
    refine ⟨rfl, rfl, (or_iff_left not_false).symm, fun password _ => ?_⟩
    have hnew : (⟨.changePassword u.id old new, .done ()⟩ : Task).newPassword? u.id = some new :=
      if_pos rfl
    exact hnew ▸ hdigest
  | @confirmed secret t u p now _ hu hid husers =>
    obtain ⟨hmem, -⟩ := UserStore.findById_eq hu
    have hother : ∀ w ∈ d.users.records, w.id ≠ u.id →
        w.Becomes o ⟨.verifyEmail secret, .done p⟩ w := fun w _ hw =>
      User.becomes_self (fun h => hw (h.symm.trans hid)) rfl
    split_ifs at husers with hv
    · refine ⟨_, hsame fun w hw => ?_, .inl ⟨husers, fun form p h => by cases h⟩⟩
      by_cases hwu : w.id = u.id
      · obtain rfl := List.inj_on_of_nodup_map hs.keyed hw hmem hwu
        exact ⟨rfl, rfl, by simp [hv], fun password h => h⟩
      · exact hother w hw hwu
    · exact ⟨_, UserStore.becomes_replace hs.keyed hmem (v := u.confirmed now)
        ⟨rfl, rfl, iff_of_true rfl (.inr hid), fun password h => h⟩ hother,
        .inl ⟨husers, fun form p h => by cases h⟩⟩

end

/-! ## The accounts there are -/

namespace State

/-- The `i`-th call is the registration of an account, whose record the calls since then have left
    as `u`. -/
structure Opened (o : Surroundings) (s : State) (i : Nat) (form : Registration.Form) (p : Profile)
    (u : User) : Prop where
  returned : s.Returned i (.register form) p
  id : p.id = u.id
  address : EmailAddress.ofText form.email = .ok u.email
  password : o.Digests (lastPassword form.password u.id (s.tasks.drop (i + 1))) u.passwordHash

/-- The accounts are those that were registered. -/
structure Roll (o : Surroundings) (s : State) : Prop where
  opened : ∀ u ∈ s.users.records, ∃ i form p, s.Opened o i form p u
  stored : ∀ {i form p}, s.Returned i (.register form) p →
    ∃ u ∈ s.users.records, s.Opened o i form p u

section

variable {cfg : Settings} {o : Surroundings} {s : State} {c : Call}
  {e : Ending c.Failure c.Value} {sc : Scene}

theorem Opened.next (h : s.Does cfg o c e sc) {i : Nat} {form : Registration.Form}
    {p : Profile} {u u' : User} (hu : s.Opened o i form p u) (hb : u.Becomes o ⟨c, e.flow⟩ u') :
    (s.conduct cfg o c).Opened o i form p u' where
  returned := h.returned_iff.2 (.inl hu.returned)
  id := hu.id.trans hb.id.symm
  address := hb.email ▸ hu.address
  password := by
    rw [h.since (List.getElem?_eq_some_iff.1 hu.returned).1, lastPassword_concat, hb.id]
    exact hb.password _ hu.password

theorem Roll.next (hs : s.toStores.Tidy o s.log.length) (h : s.Does cfg o c e sc)
    (hr : s.Roll o) : (s.conduct cfg o c).Roll o := by
  obtain ⟨rest, ⟨hback, hforth⟩, hcases⟩ := h.deed.users hs
  have hrest : ∀ u' ∈ rest.records, ∃ i form p, (s.conduct cfg o c).Opened o i form p u' := by
    intro u' hu'
    obtain ⟨u, hu, hb⟩ := hback u' hu'
    obtain ⟨i, form, p, ho⟩ := hr.opened u hu
    exact ⟨i, form, p, ho.next h hb⟩
  have hkept : ∀ {i form p}, s.Returned i (.register form) p →
      ∃ u' ∈ rest.records, (s.conduct cfg o c).Opened o i form p u' := by
    intro i form p hp
    obtain ⟨u, hu, ho⟩ := hr.stored hp
    obtain ⟨u', hu', hb⟩ := hforth u hu
    exact ⟨u', hu', ho.next h hb⟩
  rw [← h.stores] at hcases
  rcases hcases with ⟨husers, hne⟩ | ⟨form, p, u, hx, hid, hu, husers⟩
  · refine ⟨husers ▸ hrest, fun hp => ?_⟩
    rcases h.returned_iff.1 hp with hp | ⟨-, hx⟩
    · exact husers ▸ hkept hp
    · exact absurd hx (hne _ _)
  · have hnew : (s.conduct cfg o c).Opened o s.tasks.length form p u :=
      ⟨h.returned_iff.2 (.inr ⟨rfl, hx⟩), hid, hu.address, h.since_latest ▸ hu.digest⟩
    constructor
    · rw [husers]
      intro u' hu'
      rcases List.mem_append.1 hu' with hu' | hu'
      · exact hrest u' hu'
      · exact List.mem_singleton.1 hu' ▸ ⟨_, _, _, hnew⟩
    · rw [husers]
      intro i form' p' hp
      rcases h.returned_iff.1 hp with hp | ⟨rfl, hx'⟩
      · obtain ⟨u', hu', ho⟩ := hkept hp
        exact ⟨u', List.mem_append_left _ hu', ho⟩
      · cases hx.symm.trans hx'
        exact ⟨u, List.mem_append_right _ (List.mem_singleton_self u), hnew⟩

theorem roll (ho : o.Calm) (calls : List Call) : (sequence cfg o calls).Roll o := by
  refine sequence_invariant ho ?_ (fun hs h hr => hr.next hs h) calls
  constructor <;> simp [start, Stores.empty, Returned]

end

/-! ## Logging in -/

/-- The entered address is that of a registered account, and the password is the one that was set
    last for it. -/
def Knows (s : State) (entered password : String) : Prop :=
  ∃ i form p, s.Returned i (.register form) p ∧
    EmailAddress.normalize form.email = EmailAddress.normalize entered ∧
    lastPassword form.password p.id (s.tasks.drop (i + 1)) = password

section

variable {cfg : Settings} {o : Surroundings} {s : State}

theorem Roll.reaches (hs : s.toStores.Tidy o s.log.length) (hr : s.Roll o)
    {entered password : String} (hk : s.Knows entered password) :
    ∃ u, s.users.Reaches entered u ∧ o.Digests password u.passwordHash := by
  obtain ⟨i, form, p, hp, he, rfl⟩ := hk
  obtain ⟨u, hu, ho⟩ := hr.stored hp
  exact ⟨u, ⟨(EmailAddress.ofText_congr he.symm).trans ho.address,
    UserStore.findByEmail_mem hs.addressed hu⟩, ho.id ▸ ho.password⟩

theorem Roll.knows (hr : s.Roll o) {entered : String} {u : User}
    (hu : s.users.Reaches entered u) :
    ∃ password, s.Knows entered password ∧ o.Digests password u.passwordHash := by
  obtain ⟨i, form, p, ho⟩ := hr.opened u (UserStore.findByEmail_eq hu.found).1
  exact ⟨_, ⟨i, form, p, ho.returned, EmailAddress.normalize_eq ho.address hu.address, rfl⟩,
    ho.id ▸ ho.password⟩

/-- Logging in follows the history of the accounts: whoever enters the address of an account and
    the password that was set last for it is let in, and everybody else gets the same answer. -/
theorem login_follows (ho : o.Calm) (hi : o.Signs) (hh : o.Faithful) (calls : List Call)
    (entered password : String) :
    ((sequence cfg o calls).Accepts cfg o (.login entered password) ↔
      (sequence cfg o calls).Knows entered password) ∧
    (¬ (sequence cfg o calls).Knows entered password →
      (sequence cfg o calls).Refuses cfg o (.login entered password) .invalidCredentials) := by
  have hs : (sequence cfg o calls).toStores.Tidy o _ := sequence_tidy ho calls
  have hr : (sequence cfg o calls).Roll o := roll ho calls
  obtain ⟨e, sc, h⟩ := does ho hs (.login entered password)
  rw [h.accepts_iff, Refuses, h.latest]
  cases h.deed with
  | refused _ hc => exact absurd hi hc
  | turnedAway hv =>
    refine ⟨iff_of_false (fun ⟨_, h⟩ => by cases h) fun hk => ?_, fun _ => rfl⟩
    obtain ⟨u, hu, hd⟩ := hr.reaches hs hk
    obtain ⟨k, hk⟩ := hv u hu
    cases hk.symm.trans ((hh hd k password).2 rfl)
  | loggedIn hu hv =>
    obtain ⟨other, hk, hd⟩ := hr.knows hu
    obtain ⟨k, hv⟩ := hv
    obtain rfl := (hh hd k password).1 hv
    exact ⟨iff_of_true ⟨_, rfl⟩ hk, fun hn => absurd hk hn⟩

end

/-- An account is opened, and its password is replaced. -/
def rekeying : State :=
  sequence {} .plain [.register adasForm, .changePassword ⟨unary 3⟩ "Old-pass-1" "New-pass-2"]

theorem login_follows_rekeying :
    (Surroundings.plain.Calm ∧ Surroundings.plain.Signs ∧ Surroundings.plain.Faithful) ∧
      rekeying.Accepts {} .plain (.login " ada@example.ORG" "New-pass-2") ∧
      rekeying.Knows " ada@example.ORG" "New-pass-2" ∧
      rekeying.Refuses {} .plain (.login "ada@example.org" "Old-pass-1") .invalidCredentials := by
  have hnew : rekeying.Accepts {} .plain (.login " ada@example.ORG" "New-pass-2") := by
    decide +kernel
  have hold : ¬ rekeying.Accepts {} .plain (.login "ada@example.org" "Old-pass-1") := by
    decide +kernel
  have hfollows := fun entered password => @login_follows {} .plain Surroundings.plain_calm
    Surroundings.plain_signs Surroundings.plain_faithful
    [.register adasForm, .changePassword ⟨unary 3⟩ "Old-pass-1" "New-pass-2"] entered password
  exact ⟨⟨Surroundings.plain_calm, Surroundings.plain_signs, Surroundings.plain_faithful⟩, hnew,
    (hfollows _ _).1.1 hnew, (hfollows _ _).2 fun hk => hold ((hfollows _ _).1.2 hk)⟩

end State

end Gatehouse
