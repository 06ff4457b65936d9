/-
  Gatehouse — what becomes of a record that several calls rewrite.

  A change of the password and the confirmation of an address each read a whole record,
  and later put a whole record back. `Reflects` says that a record is what the updates that
  were carried out make of the one at the origin, and `Lossless` that this is so of the
  stored record. An update is lost exactly when it falls between the look-up and the update
  of another call and that call puts something older back (`Overtaken`).

  * `Runs.ledger`: until then the stored record, and every record that is looked up,
    reflects all updates before it;
  * `Runs.lossless_iff`: nothing is lost if and only if no update was overtaken.
-/
import Gatehouse.Proofs.Effects
import Gatehouse.Proofs.Rehearsal

namespace Gatehouse

/-! ## The updates of a record -/

namespace Entry

/-- The record that a call of some sort has put in the place of a user's. -/
def update? (sort : Call → Bool) (id : UserId) (e : Entry) : Option User :=
  e.rewrote?.filter fun v => sort e.call && v.id == id

/-- The user's first record. -/
def origin? (id : UserId) (e : Entry) : Option User := e.enrolled?.filter (·.id == id)

end Entry

/-- The updates of a user's record by calls of some sort, in the order in which they were
    carried out. -/
def updatesOf (sort : Call → Bool) (id : UserId) (log : List Entry) : List User :=
  log.filterMap (·.update? sort id)

/-- The changes of a user's password. -/
abbrev changesOf (id : UserId) (log : List Entry) : List User := updatesOf Call.rekeys id log

/-- The confirmations of a user's address. -/
abbrev confirmationsOf (id : UserId) (log : List Entry) : List User :=
  updatesOf Call.confirms id log

/-- The record with which an account began: it was there at first, or was added. -/
def originOf (d : Stores) (id : UserId) (log : List Entry) : Option User :=
  (d.users.findById id).or (log.findSome? (·.origin? id))

/-- The record `u` is what the updates in the log make of `o`. -/
structure Reflects (o : User) (id : UserId) (log : List Entry) (u : User) : Prop where
  version : u.credentialVersion = o.credentialVersion + (changesOf id log).length
  password : u.passwordHash = ((changesOf id log).getLast?.getD o).passwordHash
  verified : u.emailVerified = true ↔ o.emailVerified = true ∨ confirmationsOf id log ≠ []

/-- The `k`-th change of the password has the `k`-th version after the origin's. -/
def Numbered (o : User) (changes : List User) : Prop :=
  ∀ (k : Nat) (v : User), changes[k]? = some v → v.credentialVersion = o.credentialVersion + k + 1

/-- No update of a user's record is lost: the stored record reflects all of them, no two
    changes of the password have one version, and an address whose owner was told that it is
    confirmed is. -/
structure Lossless (d : Stores) (id : UserId) (s : State) : Prop where
  stored : ∀ o, originOf d id s.log = some o →
    ∃ u, s.users.findById id = some u ∧ Reflects o id s.log u
  numbered : ∀ o, originOf d id s.log = some o → Numbered o (changesOf id s.log)
  confirmed : ∀ i secret p, s.Returned i (.verifyEmail secret) p → p.id = id →
    ∃ u, s.users.findById id = some u ∧ u.emailVerified = true

/-- A call looks a record up in `a`; in `b` an update of the record is carried out; and in `c`
    the first call puts back what that one had changed: the password and its version, or
    that the address is not confirmed. -/
structure Overtakes (id : UserId) (a b c : Entry) (u : User) : Prop where
  caller : a.caller = c.caller
  read : a.exchange.found? = some u
  between : ∃ v, b.rewrote? = some v ∧ v.id = id
  back : ∃ w, c.rewrote? = some w ∧ w.id = id
  older : b.call.rekeys = true ∨ c.call.rekeys = true ∧ u.emailVerified = false

/-- Some update of the user's record was overtaken. -/
def Overtaken (id : UserId) (log : List Entry) : Prop :=
  ∃ (m n p : Nat) (a b c : Entry) (u : User), m < n ∧ n < p ∧ log[m]? = some a ∧
    log[n]? = some b ∧ log[p]? = some c ∧ Overtakes id a b c u

section

variable {sort : Call → Bool} {id : UserId} {log log' : List Entry} {e : Entry} {d : Stores}
  {m n p : Nat} {u v o : User}

theorem updatesOf_concat (sort : Call → Bool) (id : UserId) (log : List Entry) (e : Entry) :
    updatesOf sort id (log ++ [e]) = updatesOf sort id log ++ (e.update? sort id).toList := by
  cases he : e.update? sort id <;> simp [updatesOf, he]

theorem updatesOf_take_le (h : m ≤ n) :
    (updatesOf sort id (log.take m)).length ≤ (updatesOf sort id (log.take n)).length :=
  ((List.take_prefix_take_left h).filterMap _).length_le

/-- An update at a moment is one more. -/
theorem updatesOf_take_lt (he : log[n]? = some e) (hu : e.update? sort id = some u)
    (hm : m ≤ n) (hp : n < p) :
    (updatesOf sort id (log.take m)).length < (updatesOf sort id (log.take p)).length := by
  calc (updatesOf sort id (log.take m)).length
      ≤ (updatesOf sort id (log.take n)).length := updatesOf_take_le hm
    _ < (updatesOf sort id (log.take (n + 1))).length := by
        rw [List.take_add_one, he, Option.toList_some, updatesOf_concat, hu]
        simp
    _ ≤ (updatesOf sort id (log.take p)).length := updatesOf_take_le hp

/-- Without an update since some moment there are no more than at that moment. -/
theorem updatesOf_take_eq (h : ∀ n e, m ≤ n → log[n]? = some e → e.update? sort id = none) :
    updatesOf sort id (log.take m) = updatesOf sort id log := by
  have : (log.drop m).filterMap (·.update? sort id) = [] := by
    rw [List.filterMap_eq_nil_iff]
    intro e he
    obtain ⟨n, hn⟩ := List.mem_iff_getElem?.1 he
    rw [List.getElem?_drop] at hn
    exact h _ e (by omega) hn
  calc updatesOf sort id (log.take m)
      = updatesOf sort id (log.take m ++ log.drop m) := by
        simp only [updatesOf, List.filterMap_append, this, List.append_nil]
    _ = updatesOf sort id log := by rw [List.take_append_drop]

theorem updatesOf_take_ne_nil (h : updatesOf sort id (log.take m) ≠ []) :
    updatesOf sort id log ≠ [] := fun hnil =>
  h (List.prefix_nil.1 (hnil ▸ (List.take_prefix m log).filterMap _))

theorem originOf_append (h : originOf d id log = some o) :
    originOf d id (log ++ log') = some o := by
  simp only [originOf, List.findSome?_append, Option.or_eq_some_iff] at h ⊢
  tauto

theorem originOf_take (h : originOf d id (log.take n) = some o) : originOf d id log = some o := by
  rw [← List.take_append_drop n log]
  exact originOf_append h

theorem originOf_take_le (hmn : m ≤ n) (h : originOf d id (log.take m) = some o) :
    originOf d id (log.take n) = some o := by
  have : log.take m = (log.take n).take m := by rw [List.take_take, min_eq_left hmn]
  rw [this] at h
  exact originOf_take h

theorem Entry.update?_eq (h : e.rewrote? = some v) (hs : sort e.call = true) (hid : v.id = id) :
    e.update? sort id = some v := by
  simp [Entry.update?, h, hs, hid]

theorem Entry.update?_wrong (hs : sort e.call = false) : e.update? sort id = none := by
  cases hv : e.rewrote? <;> simp [Entry.update?, hv, hs]

theorem Entry.of_update? (h : e.update? sort id = some v) :
    e.rewrote? = some v ∧ sort e.call = true ∧ v.id = id := by
  obtain ⟨hv, hs⟩ := Option.filter_eq_some_iff.1 h
  simpa [hv] using hs

theorem Entry.update?_none (h : ∀ v, e.rewrote? = some v → v.id ≠ id) :
    e.update? sort id = none := by
  cases hv : e.rewrote? with
  | none => simp [Entry.update?, hv]
  | some v => simp [Entry.update?, hv, h v hv]

theorem Entry.rewrote?_of_found (h : e.exchange.found? = some u) : e.rewrote? = none := by
  obtain ⟨i, c, ⟨q, r⟩, took⟩ := e
  unfold Exchange.found? at h
  split at h
  · rename_i he; cases he; simp [Entry.rewrote?, Exchange.rewritten?]
  · rename_i he; cases he; simp [Entry.rewrote?, Exchange.rewritten?]
  · cases h

theorem Overtaken.append (h : Overtaken id log) : Overtaken id (log ++ log') := by
  obtain ⟨m, n, p, a, b, c, u, hmn, hnp, ha, hb, hc, ho⟩ := h
  exact ⟨m, n, p, a, b, c, u, hmn, hnp, getElem?_append_of_some ha, getElem?_append_of_some hb,
    getElem?_append_of_some hc, ho⟩

end

/-! ## The stored record -/

/-- The stored record, and every record that was looked up, reflects the updates before. -/
structure Ledger (d : Stores) (id : UserId) (users : UserStore) (log : List Entry) : Prop where
  stored : ∀ o, originOf d id log = some o →
    ∃ u, users.findById id = some u ∧ Reflects o id log u
  numbered : ∀ o, originOf d id log = some o → Numbered o (changesOf id log)
  read : ∀ m a u, log[m]? = some a → a.exchange.found? = some u → u.id = id →
    ∃ o, originOf d id (log.take m) = some o ∧ Reflects o id (log.take m) u

section

variable {cfg : Settings} {id : UserId} {log : List Entry} {e : Entry} {d after : Stores}
  {s : State} {u v o : User}

theorem originOf_concat (h : e.origin? id = none) :
    originOf d id (log ++ [e]) = originOf d id log := by
  simp [originOf, h]

theorem Runs.rewrites_next (h : Runs cfg d s) (ha : s.Admits e after) (hv : e.rewrote? = some v) :
    e.call.Rewrites (historyOf e.caller s.log) v := by
  obtain ⟨l, hq⟩ := Exchange.ask_of_rewritten (Entry.rewritten_of_rewrote hv)
  have := h.may_next ha
  rw [hq] at this
  exact this.1

theorem Runs.rewrites (h : Runs cfg d s) {n : Nat} (he : s.log[n]? = some e)
    (hv : e.rewrote? = some v) : e.call.Rewrites (historyOf e.caller (s.log.take n)) v := by
  obtain ⟨s₁, s₂, h₁, hl, ha, -⟩ := h.moment he
  exact hl ▸ h₁.rewrites_next ha hv

/-- An account is stored from its origin on. -/
theorem Runs.stored_iff (h : Runs cfg d s) (id : UserId) :
    (s.users.findById id = none ↔ originOf d id s.log = none) ∧
      (originOf d id s.log = none → ∀ sort, updatesOf sort id s.log = []) := by
  refine h.invariant (P := fun s log => (s.users.findById id = none ↔ originOf d id log = none) ∧
    (originOf d id log = none → ∀ sort, updatesOf sort id log = [])) ?_ ?_
  · exact ⟨by simp [originOf], fun _ _ => rfl⟩
  · intro s e after _ ha ⟨hi, hn⟩
    rcases ha.users with ⟨u, v, hv, ho, hu, hs⟩ | ⟨v, ho, hv, hu, hs⟩ | ⟨hv, ho, hs⟩
    · rw [hs, UserStore.findById_replace hu, originOf_concat (by simp [Entry.origin?, ho])]
      by_cases hid : id = v.id
      · subst hid
        have : originOf d v.id s.log ≠ none := fun h => by rw [hi.2 h] at hu; cases hu
        simp [this]
      · rw [if_neg hid]
        refine ⟨hi, fun h sort => ?_⟩
        have : e.update? sort id = none := Entry.update?_none fun w hw => by
          rw [hv] at hw; cases hw; exact Ne.symm hid
        simp [updatesOf_concat, hn h, this]
    · rw [hs, UserStore.findById_append hu]
      by_cases hid : id = v.id
      · subst hid
        have : originOf d v.id (s.log ++ [e]) ≠ none := by
          simp [originOf, Entry.origin?, ho]
        simp [this]
      · rw [if_neg hid, originOf_concat (by simp [Entry.origin?, ho, Ne.symm hid])]
        refine ⟨hi, fun h sort => ?_⟩
        simp [updatesOf_concat, hn h, Entry.update?, hv]
    · rw [hs, originOf_concat (by simp [Entry.origin?, ho])]
      refine ⟨hi, fun h sort => ?_⟩
      simp [updatesOf_concat, hn h, Entry.update?, hv]

/-- What was found is stored, and stored accounts have an origin. -/
theorem Runs.found (h : Runs cfg d s) (hd : d.users.Keyed) (ha : s.Admits e after)
    (hu : e.exchange.found? = some u) :
    s.users.findById u.id = some u ∧ ∃ o, originOf d u.id s.log = some o := by
  have hf := (h.keyed hd).findById (ha.found hu)
  refine ⟨hf, Option.ne_none_iff_exists'.1 fun hn => ?_⟩
  rw [(h.stored_iff u.id).1.2 hn] at hf
  cases hf

theorem Reflects.congr {log' : List Entry} (h : Reflects o id log u)
    (hl : ∀ sort, updatesOf sort id log' = updatesOf sort id log) : Reflects o id log' u := by
  obtain ⟨h1, h2, h3⟩ := h
  simp only [changesOf, confirmationsOf, ← hl] at h1 h2 h3
  exact ⟨h1, h2, h3⟩

/-- What can lie between a look-up and the update that follows it, unless something is
    overtaken: confirmations alone, and before a change of the password only if the record
    was confirmed already. -/
theorem between_of_not_overtaken {m n : Nat} {a b : Entry} {w : User}
    (hno : ¬ Overtaken id (log ++ [e])) (ha : log[m]? = some a) (hae : a.caller = e.caller)
    (hu : a.exchange.found? = some u) (he : e.rewrote? = some w) (hw : w.id = id) (hmn : m ≤ n)
    (hb : log[n]? = some b) (hv : b.rewrote? = some v) (hid : v.id = id) :
    b.call.rekeys = false ∧ (e.call.rekeys = true → u.emailVerified = true) := by
  have hne : m ≠ n := by
    rintro rfl
    cases ha.symm.trans hb
    rw [Entry.rewrote?_of_found hu] at hv
    cases hv
  have hn := (List.getElem?_eq_some_iff.1 hb).1
  by_contra hc
  refine hno ⟨m, n, log.length, a, b, e, u, by omega, hn, getElem?_append_of_some ha,
    getElem?_append_of_some hb, List.getElem?_concat_length, hae, hu, ⟨v, hv, hid⟩, ⟨w, he, hw⟩, ?_⟩
  cases hbk : b.call.rekeys with
  | true => exact .inl rfl
  | false =>
    cases huv : u.emailVerified with
    | false => exact .inr ⟨by by_contra hk; exact hc ⟨hbk, fun h => absurd h hk⟩, rfl⟩
    | true => exact absurd ⟨hbk, fun _ => huv⟩ hc

/-- Unless something is overtaken, the copy of the record that an update is made of has the
    current password; before a change of the password, all of it is current. -/
theorem Ledger.copy (hL : Ledger d id s.users s.log) (h : Runs cfg d s) (ha : s.Admits e after)
    (hno : ¬ Overtaken id (s.log ++ [e])) (hv : e.rewrote? = some v) (hid : v.id = id)
    (ho : originOf d id s.log = some o) :
    ∃ u, (historyOf e.caller s.log).found = [u] ∧
      u.credentialVersion = o.credentialVersion + (changesOf id s.log).length ∧
      u.passwordHash = ((changesOf id s.log).getLast?.getD o).passwordHash ∧
      (e.call.rekeys = true → Reflects o id s.log u) := by
  have hr := h.rewrites_next ha hv
  obtain ⟨u, hfound⟩ := hr.found
  obtain ⟨m, a, hm, hac, hu⟩ := view_one hfound
  have hbetween := fun n b w (hmn : m ≤ n) (hb : s.log[n]? = some b) (hw : b.rewrote? = some w) =>
    between_of_not_overtaken hno hm hac hu hv hid hmn hb hw
  have huid : u.id = id := hid ▸ (hr.id_eq hfound).symm
  obtain ⟨o', ho', hver, hpw, hconf⟩ := hL.read m a u hm hu huid
  cases (originOf_take ho').symm.trans ho
  have hchanges : changesOf id (s.log.take m) = changesOf id s.log := by
    refine updatesOf_take_eq fun n b hmn hb => ?_
    by_contra hc
    obtain ⟨w, hw⟩ := Option.ne_none_iff_exists'.1 hc
    obtain ⟨hw, hk, hwid⟩ := Entry.of_update? hw
    rw [(hbetween n b w hmn hb hw hwid).1] at hk
    cases hk
  rw [hchanges] at hver hpw
  refine ⟨u, hfound, hver, hpw, fun hk => ⟨hver, hpw, ?_⟩⟩
  cases hun : u.emailVerified with
  | true => exact iff_of_true rfl ((hconf.1 hun).imp_right updatesOf_take_ne_nil)
  | false =>
    have : confirmationsOf id (s.log.take m) = confirmationsOf id s.log := by
      refine updatesOf_take_eq fun n b hmn hb => Entry.update?_none fun w hw hwid => ?_
      have := (hbetween n b w hmn hb hw hwid).2 hk
      rw [hun] at this; cases this
    rw [← this, ← hconf, hun]

/-- A change of the password, made of what is current. -/
theorem Reflects.rekeyed {digest : String} {now : Instant} (h : Reflects o id log u)
    (he : e.update? Call.rekeys id = some (u.rekeyed digest now)) (hc : e.call.confirms = false) :
    Reflects o id (log ++ [e]) (u.rekeyed digest now) := by
  have hchanges : changesOf id (log ++ [e]) = changesOf id log ++ [u.rekeyed digest now] := by
    rw [changesOf, updatesOf_concat, he]; rfl
  have hconf : confirmationsOf id (log ++ [e]) = confirmationsOf id log := by
    rw [confirmationsOf, updatesOf_concat, Entry.update?_wrong hc]; simp
  refine ⟨?_, ?_, ?_⟩
  · rw [hchanges]
    simp only [User.rekeyed, h.version, List.length_append, List.length_singleton]
    omega
  · rw [hchanges]; simp
  · rw [hconf]; exact h.verified

/-- Unless something is overtaken, an update makes of the record what all updates make of
    the origin. -/
theorem Ledger.update (hL : Ledger d id s.users s.log) (h : Runs cfg d s) (ha : s.Admits e after)
    (hno : ¬ Overtaken id (s.log ++ [e])) (hv : e.rewrote? = some v) (hid : v.id = id)
    (ho : originOf d id s.log = some o) :
    Reflects o id (s.log ++ [e]) v ∧
      (e.call.rekeys = true →
        v.credentialVersion = o.credentialVersion + (changesOf id s.log).length + 1) := by
  obtain ⟨u, hfound, hver, hpw, hR⟩ := hL.copy h ha hno hv hid ho
  rcases (h.rewrites_next ha hv).kinds hfound with ⟨hk, hc, _, _, rfl⟩ | ⟨hk, hc, -, _, rfl⟩
  · refine ⟨(hR hk).rekeyed (Entry.update?_eq hv hk hid) hc, fun _ => ?_⟩
    simp [User.rekeyed, hver]
  · have hchanges : changesOf id (s.log ++ [e]) = changesOf id s.log := by
      rw [changesOf, updatesOf_concat, Entry.update?_wrong hk]; simp
    have hconf : confirmationsOf id (s.log ++ [e]) ≠ [] := by
      rw [confirmationsOf, updatesOf_concat, Entry.update?_eq hv hc hid]; simp
    refine ⟨⟨?_, ?_, ?_⟩, fun h => ?_⟩
    · rw [hchanges]; exact hver
    · rw [hchanges]; exact hpw
    · simp [User.confirmed, hconf]
    · rw [hk] at h; cases h

theorem Numbered.concat {changes : List User} (h : Numbered o changes)
    (hv : v.credentialVersion = o.credentialVersion + changes.length + 1) :
    Numbered o (changes ++ [v]) := by
  intro k w hw
  rcases lt_trichotomy k changes.length with hk | rfl | hk
  · rw [List.getElem?_append_left hk] at hw
    exact h k w hw
  · rw [List.getElem?_concat_length] at hw
    cases hw; exact hv
  · rw [List.getElem?_eq_none (by simp; omega)] at hw
    cases hw

/-- What is looked up is what is stored. -/
theorem Ledger.reads (hL : Ledger d id s.users s.log) (h : Runs cfg d s) (hd : d.users.Keyed)
    (ha : s.Admits e after) (m : Nat) (a : Entry) (u : User) (hm : (s.log ++ [e])[m]? = some a)
    (hu : a.exchange.found? = some u) (hid : u.id = id) :
    ∃ o, originOf d id ((s.log ++ [e]).take m) = some o ∧
      Reflects o id ((s.log ++ [e]).take m) u := by
  rcases lt_trichotomy m s.log.length with hlt | rfl | hgt
  · rw [List.getElem?_append_left hlt] at hm
    rw [List.take_append_of_le_length hlt.le]
    exact hL.read m a u hm hu hid
  · rw [List.getElem?_concat_length] at hm
    cases hm
    rw [List.take_left']
    · obtain ⟨hf, o, ho⟩ := h.found hd ha hu
      rw [hid] at hf ho
      obtain ⟨u', hu', hR⟩ := hL.stored o ho
      cases hf.symm.trans hu'
      exact ⟨o, ho, hR⟩
    · rfl
  · rw [List.getElem?_eq_none (by simp; omega)] at hm
    cases hm

/-- A step that does not touch the user's record. -/
theorem Ledger.other (hL : Ledger d id s.users s.log) (h : Runs cfg d s) (hd : d.users.Keyed)
    (ha : s.Admits e after) (hu : ∀ sort, e.update? sort id = none) (ho : e.origin? id = none)
    (hs : after.users.findById id = s.users.findById id) :
    Ledger d id after.users (s.log ++ [e]) := by
  have hl : ∀ sort, updatesOf sort id (s.log ++ [e]) = updatesOf sort id s.log := fun sort => by
    rw [updatesOf_concat, hu sort]; simp
  refine ⟨fun o h => ?_, fun o h => ?_, hL.reads h hd ha⟩
  · rw [originOf_concat ho] at h
    obtain ⟨u, hu, hR⟩ := hL.stored o h
    exact ⟨u, hs.trans hu, hR.congr hl⟩
  · rw [originOf_concat ho] at h
    rw [changesOf, hl]
    exact hL.numbered o h

/-- A step that rewrites the user's record. -/
theorem Ledger.rewritten (hL : Ledger d id s.users s.log) (h : Runs cfg d s)
    (hd : d.users.Keyed) (ha : s.Admits e after) (hno : ¬ Overtaken id (s.log ++ [e]))
    (hv : e.rewrote? = some v) (hid : v.id = id) (ho : e.origin? id = none)
    (hs : after.users.findById id = some v) : Ledger d id after.users (s.log ++ [e]) := by
  refine ⟨fun o h' => ⟨v, hs, ?_⟩, fun o h' => ?_, hL.reads h hd ha⟩
  · rw [originOf_concat ho] at h'
    exact (hL.update h ha hno hv hid h').1
  · rw [originOf_concat ho] at h'
    rw [changesOf, updatesOf_concat]
    cases hk : e.call.rekeys with
    | true =>
      rw [Entry.update?_eq hv hk hid]
      exact (hL.numbered o h').concat ((hL.update h ha hno hv hid h').2 hk)
    | false =>
      rw [Entry.update?_wrong hk]
      simpa using hL.numbered o h'

/-- A step that opens the user's account. -/
theorem Ledger.opened (hL : Ledger d id s.users s.log) (h : Runs cfg d s) (hd : d.users.Keyed)
    (ha : s.Admits e after) (hn : s.users.findById id = none) (hv : e.origin? id = some v)
    (hu : ∀ sort, e.update? sort id = none) (hs : after.users.findById id = some v) :
    Ledger d id after.users (s.log ++ [e]) := by
  have ho := (h.stored_iff id).1.1 hn
  have hl : ∀ sort, updatesOf sort id (s.log ++ [e]) = [] := fun sort => by
    rw [updatesOf_concat, (h.stored_iff id).2 ho, hu]; rfl
  have ho' : originOf d id (s.log ++ [e]) = some v := by
    obtain ⟨h₁, h₂⟩ := Option.or_eq_none_iff.1 ho
    simp only [originOf, List.findSome?_append, h₁, h₂, Option.none_or]
    simp [hv]
  refine ⟨fun o h' => ⟨v, hs, ?_⟩, fun o h' k w hk => ?_, hL.reads h hd ha⟩
  · cases ho'.symm.trans h'
    exact ⟨by simp [hl], by simp [hl], by simp [hl]⟩
  · simp [hl] at hk

/-- Unless something is overtaken, the records reflect all updates. -/
theorem Runs.ledger (h : Runs cfg d s) (hd : d.users.Keyed) (hno : ¬ Overtaken id s.log) :
    Ledger d id s.users s.log := by
  refine h.invariant (P := fun s log => ¬ Overtaken id log → Ledger d id s.users log) ?_ ?_ hno
  · intro _
    refine ⟨fun o ho => ⟨o, by simpa [originOf] using ho, ?_⟩, fun _ _ k v hk => ?_, ?_⟩
    · exact ⟨by simp [updatesOf], by simp [updatesOf], by simp [updatesOf]⟩
    · simp [updatesOf] at hk
    · intro m a u hm
      simp at hm
  intro s e after h ha hP hno
  have hL := hP (mt Overtaken.append hno)
  rcases ha.users with ⟨u, v, hv, ho, hu, hs⟩ | ⟨v, ho, hv, hu, hs⟩ | ⟨hv, ho, hs⟩
  · have ho : e.origin? id = none := by simp [Entry.origin?, ho]
    have hs := hs ▸ UserStore.findById_replace hu id
    by_cases hid : v.id = id
    · exact hL.rewritten h hd ha hno hv hid ho (by rw [hs, if_pos hid.symm])
    · refine hL.other h hd ha (fun sort => Entry.update?_none fun w hw => ?_) ho ?_
      · rw [hv] at hw; cases hw; exact hid
      · rw [hs, if_neg (Ne.symm hid)]
  · have hv : ∀ sort, e.update? sort id = none := fun sort => by simp [Entry.update?, hv]
    have hs := hs ▸ UserStore.findById_append hu id
    by_cases hid : v.id = id
    · have ho : e.origin? id = some v := by simp [Entry.origin?, ho, hid]
      exact hL.opened h hd ha (hid ▸ hu) ho hv (by rw [hs, if_pos hid.symm])
    · refine hL.other h hd ha hv (by simp [Entry.origin?, ho, hid]) ?_
      rw [hs, if_neg (Ne.symm hid)]
  · refine hL.other h hd ha (fun sort => ?_) (by simp [Entry.origin?, ho]) (by rw [hs])
    simp [Entry.update?, hv]

/-- An address is confirmed, once a caller was told so. -/
theorem Ledger.confirmed (hL : Ledger d id s.users s.log) (h : Runs cfg d s) {i : Nat}
    {secret : String} {p : Profile} (hr : s.Returned i (.verifyEmail secret) p) (hid : p.id = id) :
    ∃ u, s.users.findById id = some u ∧ u.emailVerified = true := by
  obtain ⟨-, -, u, hfound, huid, hu⟩ := h.yields hr
  obtain ⟨m, a, hm, hac, hau⟩ := view_one hfound
  obtain ⟨o, ho, hR⟩ := hL.read m a u hm hau (huid.trans hid)
  obtain ⟨v, hv, hR'⟩ := hL.stored o (originOf_take ho)
  refine ⟨v, hv, hR'.verified.2 ?_⟩
  rcases hu with hu | ⟨now, hset⟩
  · exact (hR.verified.1 hu).imp_right updatesOf_take_ne_nil
  · obtain ⟨n, e, hn, hi, hset⟩ := view_one hset
    obtain ⟨s₁, s₂, -, -, ha, -⟩ := h.moment hn
    have hcall := h.call_eq hn hi hr
    have hup : e.update? Call.confirms id = some (u.confirmed now) :=
      Entry.update?_eq (ha.settled hset) (by rw [hcall]; rfl) (huid.trans hid)
    refine .inr (List.ne_nil_of_mem (a := u.confirmed now) ?_)
    exact List.mem_filterMap.2 ⟨e, List.mem_of_getElem? hn, hup⟩

theorem Runs.lossless (h : Runs cfg d s) (hd : d.users.Keyed) (hno : ¬ Overtaken id s.log) :
    Lossless d id s :=
  have hL := h.ledger hd hno
  ⟨hL.stored, hL.numbered, fun _ _ _ hr hid => hL.confirmed h hr hid⟩

/-- What a call puts back is made of the record that it has read. -/
theorem Runs.copied (h : Runs cfg d s) {m p : Nat} {a c : Entry} (hmp : m < p)
    (ha : s.log[m]? = some a) (hc : s.log[p]? = some c) (hac : a.caller = c.caller)
    (hu : a.exchange.found? = some u) (hv : c.rewrote? = some v) :
    (historyOf c.caller (s.log.take p)).found = [u] := by
  obtain ⟨w, hfound⟩ := (h.rewrites hc hv).found
  have hm : u ∈ (historyOf c.caller (s.log.take p)).found :=
    mem_view_take.2 ⟨m, a, hmp, ha, hac, hu⟩
  rw [hfound, List.mem_singleton] at hm
  rw [hfound, hm]

/-- An update that is not a change of the password is a confirmation. -/
theorem Runs.confirms_of_rewrote (h : Runs cfg d s) {n : Nat} (he : s.log[n]? = some e)
    (hv : e.rewrote? = some v) (hk : e.call.rekeys = false) : e.call.confirms = true := by
  have hr := h.rewrites he hv
  obtain ⟨u, hfound⟩ := hr.found
  rcases hr.kinds hfound with ⟨hk', -⟩ | ⟨-, hc, -⟩
  · rw [hk] at hk'; cases hk'
  · exact hc

/-- What overtakes an update does not reflect it. -/
theorem Runs.not_reflects (h : Runs cfg d s) {m n p : Nat} {a b c : Entry} (hmn : m < n)
    (hnp : n < p) (ha : s.log[m]? = some a) (hb : s.log[n]? = some b) (hc : s.log[p]? = some c)
    (hac : a.caller = c.caller) (hu : a.exchange.found? = some u) {w : User}
    (hv : b.rewrote? = some v) (hvid : v.id = id) (hw : c.rewrote? = some w) (hwid : w.id = id)
    (hold : b.call.rekeys = true ∨ c.call.rekeys = true ∧ u.emailVerified = false)
    (hR : Reflects o id (s.log.take m) u) : ¬ Reflects o id (s.log.take (p + 1)) w := by
  intro hR'
  have hver := hR.version
  have hver' := hR'.version
  have hbk : b.call.rekeys = true → (changesOf id (s.log.take m)).length <
      (changesOf id (s.log.take p)).length :=
    fun hk => updatesOf_take_lt hb (Entry.update?_eq hv hk hvid) hmn.le hnp
  rcases (h.rewrites hc hw).kinds (h.copied (hmn.trans hnp) ha hc hac hu hw) with
    ⟨hk, -, digest, now, rfl⟩ | ⟨hk, -, -, now, rfl⟩
  · -- a change of the password: its version counts no other since the look-up
    have hstep : (u.rekeyed digest now).credentialVersion = u.credentialVersion + 1 := rfl
    have hck : (changesOf id (s.log.take p)).length < (changesOf id (s.log.take (p + 1))).length :=
      updatesOf_take_lt hc (Entry.update?_eq hw hk hwid) le_rfl p.lt_succ_self
    have hbk : b.call.rekeys = false := by
      cases hb : b.call.rekeys with
      | false => rfl
      | true => have := hbk hb; omega
    rcases hold with hold | ⟨-, hun⟩
    · rw [hbk] at hold; cases hold
    · have hbc := h.confirms_of_rewrote hb hv hbk
      have hlt := updatesOf_take_lt hb (Entry.update?_eq hv hbc hvid) le_rfl (by omega : n < p + 1)
      have hconf : u.emailVerified = true :=
        hR'.verified.2 (.inr (List.ne_nil_of_length_pos (Nat.zero_lt_of_lt hlt)))
      rw [hun] at hconf; cases hconf
  · -- a confirmation: the version is the one that was read
    have hstep : (u.confirmed now).credentialVersion = u.credentialVersion := rfl
    have hle : (changesOf id (s.log.take p)).length ≤ (changesOf id (s.log.take (p + 1))).length :=
      updatesOf_take_le p.le_succ
    rcases hold with hold | ⟨hck, -⟩
    · have := hbk hold
      omega
    · rw [hk] at hck; cases hck

/-- Once something is overtaken, something is lost. -/
theorem Runs.lossy (h : Runs cfg d s) (hd : d.users.Keyed) (ho : Overtaken id s.log) :
    ∃ s', Runs cfg d s' ∧ Steps cfg s' s ∧ ¬ Lossless d id s' := by
  obtain ⟨m, n, p, a, b, c, u, hmn, hnp, hm, hn, hp, hac, hu, ⟨v, hv, hvid⟩, ⟨w, hw, hwid⟩, hold⟩ :=
    ho
  obtain ⟨s₁, s₂, h₁, hl₁, ha, -, hs₁, hs₂⟩ := h.moment hm
  obtain ⟨t₁, t₂, g₁, -, hc, hl₂, gs₁, gs₂⟩ := h.moment hp
  by_contra hex
  have hall := fun s' h₁ h₂ => by_contra fun hn : ¬ Lossless d id s' => hex ⟨s', h₁, h₂, hn⟩
  have hr := h.rewrites hp hw
  have huid : u.id = id :=
    (hr.id_eq (h.copied (hmn.trans hnp) hm hp hac hu hw)).symm.trans hwid
  obtain ⟨hf, o, ho⟩ := h₁.found hd ha hu
  rw [huid] at hf ho
  -- what was read reflects the updates before it, and so would what is put back
  obtain ⟨u', hu', hR⟩ := (hall s₁ h₁ (.head hs₁ hs₂)).stored o ho
  cases hf.symm.trans hu'
  rw [hl₁] at hR ho
  have ho' : originOf d id t₂.log = some o := hl₂ ▸ originOf_take_le (by omega) ho
  obtain ⟨w', hw', hR'⟩ := (hall t₂ (g₁.tail gs₁) gs₂).stored o ho'
  cases (hwid ▸ hc.rewrote hw).symm.trans hw'
  exact h.not_reflects hmn hnp hm hn hp hac hu hv hvid hw hwid hold hR (hl₂ ▸ hR')

/-- **No update of a user's record is lost, at any time up to now, if and only if none was
    overtaken.** -/
theorem Runs.lossless_iff (h : Runs cfg d s) (hd : d.users.Keyed) (id : UserId) :
    (∀ s', Runs cfg d s' → Steps cfg s' s → Lossless d id s') ↔ ¬ Overtaken id s.log := by
  constructor
  · intro hall ho
    obtain ⟨s', h', hs', hn⟩ := h.lossy hd ho
    exact hn (hall s' h' hs')
  · intro hno s' h' hs'
    obtain ⟨l, hl⟩ := hs'.log_prefix
    exact h'.lossless hd fun ho => hno (hl ▸ ho.append)

end

/-! ## A change that is undone -/

/-- A confirmation of the address looks the record up, a change of the password runs from
    beginning to end, and the confirmation puts its copy of the record back. -/
def undoing : State :=
  (State.start adasStores).play {} unary
    [.call (.verifyEmail "link"), .call (.changePassword ada.id "Old-pass-1" "New-pass-2"),
      .turns 0 4, .turns 1 7, .turns 0 2]

/-- Both calls return, and the old password is the stored one. -/
theorem undoing_outcome :
    undoing.outcome? 0 = some (.verifyEmail "link", true) ∧
      undoing.outcome? 1 = some (.changePassword ada.id "Old-pass-1" "New-pass-2", true) ∧
      undoing.users.findById ada.id = some (ada.confirmed ⟨0, 0⟩) := by decide

theorem lossless_iff_undoing :
    Runs {} adasStores undoing ∧ adasStores.users.Keyed ∧
      ((∀ s', Runs {} adasStores s' → Steps {} s' undoing → Lossless adasStores ada.id s') ↔
        ¬ Overtaken ada.id undoing.log) :=
  have hk : adasStores.users.Keyed := by decide
  ⟨State.play_steps _ _, hk, Runs.lossless_iff (State.play_steps _ _) hk ada.id⟩

/-- It is not so that an update is never lost. -/
theorem update_lost :
    ¬ ∀ (cfg : Settings) (d : Stores) (s : State), Runs cfg d s → d.users.Keyed →
      ∀ id, Lossless d id s := by
  intro h
  have hk : adasStores.users.Keyed := by decide
  have hl := h {} adasStores undoing (State.play_steps _ _) hk ada.id
  obtain ⟨u, hu, hR⟩ := hl.stored ada (by decide)
  cases undoing_outcome.2.2.symm.trans hu
  have hn : (changesOf ada.id undoing.log).length = 1 := by decide
  have hv := hR.version
  rw [hn] at hv
  cases hv

end Gatehouse
