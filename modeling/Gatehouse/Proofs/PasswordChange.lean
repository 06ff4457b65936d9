/-
  Gatehouse — tokens and changes of the password.

  A refresh token is stamped with the credential version of the record that its minter has
  read, and whoever redeems it compares that with the record of the owner. A change of the
  password in between has raised the version, so the token is dead: with rotation or
  without, whether the token was stored before the change or after, and whether the tokens
  of the user were removed or not.

  * `Runs.stamped`: what a call hands out or stores carries the version of a record that it
    had read by then;
  * `Runs.not_outlived`: so it is not redeemed by anyone who looks the owner up after a
    change.
-/
import Gatehouse.Proofs.Records
import Gatehouse.Proofs.Secrets

namespace Gatehouse

/-! ## Calls that do not overlap -/

/-- The call has looked a user's record up, to rewrite it. -/
def Writes (id : UserId) (log : List Entry) (i : Nat) : Prop :=
  ∃ (n : Nat) (e : Entry) (u : User), log[n]? = some e ∧ e.caller = i ∧
    (e.call.rekeys = true ∨ e.call.confirms = true) ∧ e.exchange.found? = some u ∧ u.id = id

/-- Of the calls that rewrite a user's record, none does anything between two exchanges of
    another. -/
def Serial (id : UserId) (log : List Entry) : Prop :=
  ∀ (m n p : Nat) (a b c : Entry), m < n → n < p → log[m]? = some a → log[n]? = some b →
    log[p]? = some c → a.caller = c.caller → Writes id log a.caller → Writes id log b.caller →
    b.caller = a.caller

/-- A single call does not overlap. -/
theorem Serial.of_one {id : UserId} {log : List Entry} {i : Nat}
    (h : ∀ e ∈ log, e.call.rekeys = true ∨ e.call.confirms = true → e.caller = i) :
    Serial id log := by
  have hw : ∀ j, Writes id log j → j = i := by
    rintro j ⟨n, e, u, he, rfl, hk, -⟩
    exact h e (List.mem_of_getElem? he) hk
  intro m n p a b c _ _ _ _ _ _ ha hb
  rw [hw _ ha, hw _ hb]

section

variable {cfg : Settings} {d : Stores} {s : State} {id : UserId}

namespace Runs

/-- Whoever rewrites a user's record has looked it up. -/
theorem writes (h : Runs cfg d s) {n : Nat} {e : Entry} {v : User} (he : s.log[n]? = some e)
    (hv : e.rewrote? = some v) (hid : v.id = id) : Writes id s.log e.caller := by
  have hr := h.rewrites he hv
  obtain ⟨u, hfound⟩ := hr.found
  have hu : u ∈ (historyOf e.caller (s.log.take n)).found := by rw [hfound]; simp
  obtain ⟨k, x, -, hx, hxe, hxu⟩ := mem_view_take.1 hu
  have hcall : x.call = e.call := h.call_unique hx he hxe
  refine ⟨k, x, u, hx, hxe, ?_, hxu, (hr.id_eq hfound).symm.trans hid⟩
  rw [hcall]
  exact (hr.kinds hfound).imp (·.1) (·.2.1)

/-- A call rewrites once. -/
theorem rewrites_once (h : Runs cfg d s) {n p : Nat} {b c : Entry} {v w : User} (hnp : n < p)
    (hb : s.log[n]? = some b) (hc : s.log[p]? = some c) (hv : b.rewrote? = some v)
    (hw : c.rewrote? = some w) : b.caller ≠ c.caller := by
  intro hbc
  obtain ⟨l, hq⟩ := Exchange.ask_of_rewritten (Entry.rewritten_of_rewrote hw)
  have hmay := h.may hc
  rw [hq] at hmay
  have hm : v ∈ (historyOf c.caller (s.log.take p)).rewritten :=
    mem_view_take.2 ⟨n, b, hnp, hb, hbc, Entry.rewritten_of_rewrote hv⟩
  rw [hmay.2] at hm
  cases hm

/-- Where calls do not overlap, nothing is overtaken. -/
theorem not_overtaken (h : Runs cfg d s) (hs : Serial id s.log) : ¬ Overtaken id s.log := by
  rintro ⟨m, n, p, a, b, c, u, hmn, hnp, ha, hb, hc, ho⟩
  obtain ⟨v, hv, hvid⟩ := ho.between
  obtain ⟨w, hw, hwid⟩ := ho.back
  have hwa : Writes id s.log a.caller := ho.caller ▸ h.writes hc hw hwid
  have hba := hs m n p a b c hmn hnp ha hb hc ho.caller hwa (h.writes hb hv hvid)
  exact h.rewrites_once hnp hb hc hv hw (hba.trans ho.caller)

end Runs

end

/-! ## Stamps -/

/-- The call hands out refresh tokens. -/
def Call.handsOut : Call → Bool
  | login .. => true
  | refresh _ => true
  | _ => false

/-- The caller has handed the secret out, or it was to be stored for the caller. -/
inductive Provides (s : State) (i : Nat) (S : String) : Prop
  | stored {n : Nat} {e : Entry} {t : Token} : s.log[n]? = some e → e.caller = i →
      e.exchange.minted? = some t → t.secret = S → Provides s i S
  | login {email password : String} {l : Login} : s.Returned i (.login email password) l →
      l.tokens.refreshSecret = S → Provides s i S
  | refresh {S' : String} {p : TokenPair} : s.Returned i (.refresh S') p →
      p.refreshSecret = S → Provides s i S

/-- The token with the secret carries the stamp of a record of the user that was read by the
    moment `m`. -/
def Stamped (d : Stores) (log : List Entry) (m : Nat) (id : UserId) (S : String) : Prop :=
  ∃ (t : Token) (r : Nat) (x : Entry) (v : User), Genuine d log t ∧ t.secret = S ∧ r ≤ m ∧
    log[r]? = some x ∧ x.exchange.found? = some v ∧ v.id = id ∧ t.StampedBy v

section

variable {cfg : Settings} {d : Stores} {s : State} {S : String} {u : User}

namespace Runs

/-- Whoever looks accounts up more than once looks one account up. -/
theorem found_id (h : Runs cfg d s) {m n : Nat} {a b : Entry} {v : User} (ha : s.log[m]? = some a)
    (hb : s.log[n]? = some b) (hmn : m < n) (hab : a.caller = b.caller)
    (hu : a.exchange.found? = some u) (hv : b.exchange.found? = some v) : u.id = v.id := by
  have hm : u ∈ (historyOf b.caller (s.log.take n)).found :=
    mem_view_take.2 ⟨m, a, hmn, ha, hab, hu⟩
  have hmay := h.may hb
  rcases Exchange.ask_of_found hv (h.fits hb) with ⟨l, hq⟩ | ⟨l, hq⟩ <;> rw [hq] at hmay
  · exact hmay u hm
  · rw [show (historyOf b.caller (s.log.take n)).found = [] from hmay] at hm
    cases hm

/-- A token that a call has minted is stamped by a record that it had read by then. -/
theorem stamped_of_minted (h : Runs cfg d s) {m n : Nat} {a e : Entry} {t : Token}
    (ha : s.log[m]? = some a) (hcall : a.call.handsOut = true) (hu : a.exchange.found? = some u)
    (he : s.log[n]? = some e) (hea : e.caller = a.caller) (ht : e.exchange.minted? = some t)
    (hS : t.secret = S) : Stamped d s.log m u.id S := by
  have hborn : Genuine d s.log t := ⟨t, .inr ⟨n, e, he, ht⟩, rfl⟩
  have hm := h.mints he ht
  rw [h.call_unique he ha hea] at hm
  rcases hm.cause with ⟨-, ⟨_, hc⟩ | ⟨_, hc⟩⟩ | ⟨-, ⟨v, hfound, hv⟩, -⟩
  · rw [hc] at hcall; cases hcall
  · rw [hc] at hcall; cases hcall
  by_cases hmn : m < n
  · have hmem : u ∈ (historyOf e.caller (s.log.take n)).found :=
      mem_view_take.2 ⟨m, a, hmn, ha, hea.symm, hu⟩
    rw [hfound, List.mem_singleton] at hmem
    exact ⟨t, m, a, u, hborn, hS, le_rfl, ha, hu, rfl, hmem ▸ hv⟩
  · -- the look-up in `a` is a later one, of the same user
    have hmem : v ∈ (historyOf e.caller (s.log.take n)).found := by rw [hfound]; simp
    obtain ⟨r, x, hrn, hx, hxe, hxv⟩ := mem_view_take.1 hmem
    have hrm : r ≤ m := by omega
    refine ⟨t, r, x, v, hborn, hS, hrm, hx, hxv, ?_, hv⟩
    rcases hrm.lt_or_eq with hlt | rfl
    · exact h.found_id hx ha hlt (hxe.trans hea) hxv hu
    · cases hx.symm.trans ha
      rw [Option.some.inj (hxv.symm.trans hu)]

/-- The secrets that a call provides are stamped by a record that it had read by then. -/
theorem stamped (h : Runs cfg d s) {m : Nat} {a : Entry} (ha : s.log[m]? = some a)
    (hcall : a.call.handsOut = true) (hu : a.exchange.found? = some u)
    (hS : Provides s a.caller S) : Stamped d s.log m u.id S := by
  cases hS with
  | stored he hea ht hS => exact h.stamped_of_minted ha hcall hu he hea ht hS
  | login hv hS =>
    obtain ⟨t, ht, -, hp⟩ := h.yields hv
    obtain ⟨n, e, he, hea, ht⟩ := view_one ht
    exact h.stamped_of_minted ha hcall hu he hea ht (hp.symm.trans hS)
  | refresh hv hS =>
    obtain ⟨⟨t, ht, hts, -, hseek⟩, hp⟩ := h.yields hv
    split_ifs at hp with hr
    · obtain ⟨-, t', ht', hp⟩ := hp
      obtain ⟨n, e, he, hea, ht'⟩ := view_one ht'
      exact h.stamped_of_minted ha hcall hu he hea ht' (hp.symm.trans hS)
    · -- without rotation the secret is the one that was presented
      obtain ⟨n, e, he, -, ht⟩ := view_one ht
      have hmem : a.exchange ∈ historyOf a.caller s.log :=
        mem_historyOf.2 ⟨a, List.mem_of_getElem? ha, rfl, rfl⟩
      obtain ⟨v, hv, hstamp⟩ := hseek _ hmem (Exchange.seeks_of_found hu)
      cases hv.symm.trans hu
      exact ⟨t, m, a, u, h.presented_genuine he ht, hts.trans (hp.symm.trans hS), le_rfl, ha, hu,
        rfl, hstamp⟩

/-- Records of one user that were read before and after a change have different versions. -/
theorem version_lt (h : Runs cfg d s) (hd : d.users.Keyed) {id : UserId}
    (hno : ¬ Overtaken id s.log) {m n p : Nat} {a b c : Entry} {u v w : User}
    (ha : s.log[m]? = some a) (hu : a.exchange.found? = some u) (hua : u.id = id)
    (hb : s.log[n]? = some b) (hk : b.call.rekeys = true) (hv : b.rewrote? = some v)
    (hvb : v.id = id) (hc : s.log[p]? = some c) (hw : c.exchange.found? = some w)
    (hwc : w.id = id) (hmn : m < n) (hnp : n < p) : u.credentialVersion < w.credentialVersion := by
  have hL := h.ledger hd hno
  obtain ⟨o, ho, hR⟩ := hL.read m a u ha hu hua
  obtain ⟨o', ho', hR'⟩ := hL.read p c w hc hw hwc
  cases (originOf_take ho).symm.trans (originOf_take ho')
  have hlt : (changesOf id (s.log.take m)).length < (changesOf id (s.log.take p)).length :=
    updatesOf_take_lt hb (Entry.update?_eq hv hk hvb) hmn.le hnp
  have h₁ := hR.version
  have h₂ := hR'.version
  omega

/-- **No refresh token outlives a change of the password.** A login or a refresh has read the
    record `u` of a user at the moment `m`; at a later moment `n` a change of that user's
    password is carried out. Then no `refresh` of a secret that the first call hands out or
    stores returns, if it looks the owner up at a moment `p` after the change. -/
theorem not_outlived (h : Runs cfg d s) (hd : d.users.Keyed) (hf : Fresh d s.log) {v : User}
    (hs : Serial u.id s.log) {m n p : Nat} {a b c : Entry} (ha : s.log[m]? = some a)
    (hcall : a.call.handsOut = true) (hu : a.exchange.found? = some u)
    (hS : Provides s a.caller S) (hb : s.log[n]? = some b) (hk : b.call.rekeys = true)
    (hv : b.rewrote? = some v) (hid : v.id = u.id) (hmn : m < n) (hc : s.log[p]? = some c)
    (hcs : c.exchange.seeks = true) (hnp : n < p) (r : TokenPair) :
    ¬ s.Returned c.caller (.refresh S) r := by
  intro hret
  have hno := h.not_overtaken hs
  -- the secret's token, and the record that stamped it
  obtain ⟨t, k, x, u', ht, htS, hkm, hx, hxu, hu', hstamp⟩ := h.stamped ha hcall hu hS
  -- the token that is redeemed, and the record it is compared with
  obtain ⟨⟨t', hpres, htS', -, hseek⟩, -⟩ := h.yields hret
  obtain ⟨l, y, hy, -, hpres⟩ := view_one hpres
  have hmem : c.exchange ∈ historyOf c.caller s.log :=
    mem_historyOf.2 ⟨c, List.mem_of_getElem? hc, rfl, rfl⟩
  obtain ⟨w, hw, hstamp'⟩ := hseek _ hmem hcs
  obtain ⟨howner, hversion⟩ :=
    h.genuine_unique hf ht (h.presented_genuine hy hpres) (htS.trans htS'.symm)
  have hwid : w.id = u.id := by rw [← hstamp'.1, ← howner, hstamp.1, hu']
  have hlt := h.version_lt hd hno hx hxu hu' hb hk hv hid hc hw hwid (by omega) hnp
  rw [← hstamp.2, ← hstamp'.2, hversion] at hlt
  exact Int.lt_irrefl _ hlt

end Runs

end

/-! ## A session that a change ends -/

/-- A login; a change of the password up to its update, so that the tokens are still there;
    and a refresh of what the login has handed out. -/
def ending : State :=
  (State.start adasStores).play {} unary
    [.call (.login ada.email.text "Old-pass-1"), .turns 0 8,
      .call (.changePassword ada.id "Old-pass-1" "New-pass-2"), .turns 1 5,
      .call (.refresh (unary 5)), .turns 2 4]

set_option maxRecDepth 2000 in
theorem not_outlived_ending :
    Runs {} adasStores ending ∧ Fresh adasStores ending.log ∧ Serial ada.id ending.log ∧
      Provides ending 0 (unary 5) ∧ ¬ ∃ r, ending.Returned 2 (.refresh (unary 5)) r :=
  have hr : Runs {} adasStores ending := State.play_steps _ _
  have hf : Fresh adasStores ending.log := by decide
  have hs : Serial ada.id ending.log := .of_one (i := 1) (by decide)
  have hS : Provides ending 0 (unary 5) := .stored (n := 6) rfl rfl rfl rfl
  ⟨hr, hf, hs, hS, fun ⟨r, h⟩ => hr.not_outlived (u := ada) (m := 0) (n := 12) (p := 15)
    (by decide) hf hs rfl rfl rfl hS rfl rfl rfl rfl (by decide) rfl rfl (by decide) r h⟩

/-- The same with a generator that repeats itself: the secret of the old session is drawn
    again by a login after the change. -/
def repeating : State :=
  (State.start adasStores).play { rotates := false } (fun _ => "again")
    [.call (.login ada.email.text "Old-pass-1"), .turns 0 8,
      .call (.changePassword ada.id "Old-pass-1" "New-pass-2"), .turns 1 7,
      .call (.login ada.email.text "New-pass-2"), .turns 2 8,
      .call (.refresh "again"), .turns 3 4]

theorem repeating_outcome : repeating.outcome? 3 = some (.refresh "again", true) := by
  decide +kernel

set_option maxRecDepth 2000 in
/-- Without a generator that repeats nothing, a secret can outlive a change. -/
theorem outlived_by_repetition :
    ¬ ∀ (cfg : Settings) (d : Stores) (s : State) (u v : User) (S : String) (m n p : Nat)
      (a b c : Entry) (r : TokenPair), Runs cfg d s → d.users.Keyed → Serial u.id s.log →
      s.log[m]? = some a → a.call.handsOut = true → a.exchange.found? = some u →
      Provides s a.caller S → s.log[n]? = some b → b.call.rekeys = true → b.rewrote? = some v →
      v.id = u.id → m < n → s.log[p]? = some c → c.exchange.seeks = true → n < p →
      ¬ s.Returned c.caller (.refresh S) r := by
  intro h
  obtain ⟨r, hr⟩ := State.returned_of_outcome repeating_outcome
  have hs : Serial ada.id repeating.log := .of_one (i := 1) (by decide)
  have hS : Provides repeating 0 "again" := .stored (n := 6) rfl rfl rfl rfl
  exact h _ _ repeating ada _ "again" 0 12 25 _ _ _ r (State.play_steps _ _) (by decide) hs
    rfl rfl rfl hS rfl rfl rfl rfl (by decide) rfl rfl (by decide) hr

end Gatehouse
