/-
  Gatehouse — the store of accounts by itself.

  An identifier and an address are both keys of an account, but nothing in how the records are
  kept makes them so: the store looks through its records before it writes one. From empty on, this
  is enough. Whatever calls it has answered, no two records have one identifier or one address, so
  that a look-up finds the one record with its key, in whatever order the records are gone through.

  * `UserStore.perform_create_cases`, `UserStore.perform_update_cases`: what becomes of a record
    that is to be written;
  * `UserStore.Distinct.perform`: no call makes two records share a key;
  * `UserStore.Distinct.perform_perm`: the order of the records has no part in an answer;
  * `UserStore.orderly`: what the look-ups and the writes of such a store come to.
-/
import Gatehouse.Proofs.Staleness

namespace Gatehouse

/-- The record that a call is to write for an identifier. -/
def UserCall.written? (c : UserCall) (id : UserId) : Option User :=
  match c with
  | .create u | .update u => if u.id = id then some u else none
  | _ => none

namespace UserStore

variable {s other : UserStore} {u v : User}

/-! ## What is written -/

/-- What becomes of a record that is to be added: it comes last, unless one of its keys is in
    use. -/
theorem perform_create_cases (s : UserStore) (u : User) :
    (∃ e, s.perform (.create u) = (.error e, s)) ∧
        (∃ v ∈ s.records, v.id = u.id ∨ v.email = u.email) ∨
      s.perform (.create u) = (.ok u, ⟨s.records ++ [u]⟩) ∧
        ∀ v ∈ s.records, v.id ≠ u.id ∧ v.email ≠ u.email := by
  simp only [perform, create]
  split_ifs with hid hemail
  · obtain ⟨v, hv, hvu⟩ := List.any_eq_true.1 hid
    exact .inl ⟨⟨_, rfl⟩, v, hv, .inl (eq_of_beq hvu)⟩
  · obtain ⟨v, hv, hvu⟩ := List.any_eq_true.1 hemail
    exact .inl ⟨⟨_, rfl⟩, v, hv, .inr (eq_of_beq hvu)⟩
  · refine .inr ⟨rfl, fun v hv => ⟨fun h => hid ?_, fun h => hemail ?_⟩⟩
    · exact List.any_eq_true.2 ⟨v, hv, by simp [h]⟩
    · exact List.any_eq_true.2 ⟨v, hv, by simp [h]⟩

/-- What becomes of a record that is to be changed: it takes the place of the one with its
    identifier, unless there is none, or another one has the address. -/
theorem perform_update_cases (s : UserStore) (u : User) :
    (∃ e, s.perform (.update u) = (.error e, s)) ∧ ((∀ v ∈ s.records, v.id ≠ u.id) ∨
        ∃ v ∈ s.records, v.id ≠ u.id ∧ v.email = u.email) ∨
      s.perform (.update u) = (.ok u, s.replace u) ∧ (∃ v ∈ s.records, v.id = u.id) ∧
        ∀ v ∈ s.records, v.email = u.email → v.id = u.id := by
  simp only [perform, update]
  split_ifs with htaken hstored
  · obtain ⟨v, hv, hvu⟩ := List.any_eq_true.1 htaken
    simp only [Bool.and_eq_true, bne_iff_ne, beq_iff_eq] at hvu
    exact .inl ⟨⟨_, rfl⟩, .inr ⟨v, hv, hvu⟩⟩
  · obtain ⟨v, hv, hvu⟩ := List.any_eq_true.1 hstored
    refine .inr ⟨rfl, ⟨v, hv, eq_of_beq hvu⟩, fun w hw hemail => ?_⟩
    by_contra hid
    exact htaken (List.any_eq_true.2 ⟨w, hw, by simp [hid, hemail]⟩)
  · refine .inl ⟨⟨_, rfl⟩, .inl fun v hv hid => hstored ?_⟩
    exact List.any_eq_true.2 ⟨v, hv, by simp [hid]⟩

/-- A record is added unless one of its keys is in use. -/
theorem refuses_create_iff : (∃ e, (s.perform (.create u)).1 = .error e) ↔
    ∃ v ∈ s.records, v.id = u.id ∨ v.email = u.email := by
  obtain ⟨⟨e, hc⟩, hused⟩ | ⟨hc, hnew⟩ := s.perform_create_cases u
  · exact ⟨fun _ => hused, fun _ => ⟨e, by rw [hc]⟩⟩
  · rw [hc]
    constructor
    · rintro ⟨e, ⟨⟩⟩
    · rintro ⟨v, hv, hid | hemail⟩
      · exact absurd hid (hnew v hv).1
      · exact absurd hemail (hnew v hv).2

/-- A record is changed unless it is not there, or another one has the address. -/
theorem refuses_update_iff : (∃ e, (s.perform (.update u)).1 = .error e) ↔
    (∀ v ∈ s.records, v.id ≠ u.id) ∨ ∃ v ∈ s.records, v.id ≠ u.id ∧ v.email = u.email := by
  obtain ⟨⟨e, hc⟩, hbarred⟩ | ⟨hc, ⟨v, hv, hid⟩, hown⟩ := s.perform_update_cases u
  · exact ⟨fun _ => hbarred, fun _ => ⟨e, by rw [hc]⟩⟩
  · rw [hc]
    constructor
    · rintro ⟨e, ⟨⟩⟩
    · rintro (hnone | ⟨w, hw, hother, hemail⟩)
      · exact absurd hid (hnone v hv)
      · exact absurd (hown w hw hemail) hother

/-- A call that fails changes nothing. -/
theorem perform_error {c : UserCall} {e : StoreError} (h : (s.perform c).1 = .error e) :
    (s.perform c).2 = s := by
  cases c with
  | create u =>
    obtain ⟨⟨e', hc⟩, -⟩ | ⟨hc, -⟩ := s.perform_create_cases u
    · rw [hc]
    · rw [hc] at h
      cases h
  | update u =>
    obtain ⟨⟨e', hc⟩, -⟩ | ⟨hc, -⟩ := s.perform_update_cases u
    · rw [hc]
    · rw [hc] at h
      cases h
  | findById | findByEmail | existsByEmail => rfl

/-- A call that succeeds puts its record where it belongs, and leaves all others as they are. -/
theorem findById_perform {c : UserCall} {a : c.Answer} (h : (s.perform c).1 = .ok a)
    (id : UserId) : (s.perform c).2.findById id = (c.written? id).or (s.findById id) := by
  cases c with
  | create u =>
    obtain ⟨⟨e, hc⟩, -⟩ | ⟨hc, hnew⟩ := s.perform_create_cases u
    · rw [hc] at h
      cases h
    · have hnone : s.findById u.id = none :=
        List.find?_eq_none.2 fun v hv => by simpa using (hnew v hv).1
      rw [hc, findById_append hnone]
      rcases eq_or_ne u.id id with rfl | hid
      · simp [UserCall.written?]
      · simp [UserCall.written?, hid, hid.symm]
  | update u =>
    obtain ⟨⟨e, hc⟩, -⟩ | ⟨hc, ⟨v, hv, hid⟩, -⟩ := s.perform_update_cases u
    · rw [hc] at h
      cases h
    · obtain ⟨w, hw⟩ : ∃ w, s.findById u.id = some w :=
        Option.isSome_iff_exists.1 (List.find?_isSome.2 ⟨v, hv, by simp [hid]⟩)
      rw [hc, findById_replace hw]
      rcases eq_or_ne u.id id with rfl | hid
      · simp [UserCall.written?]
      · simp [UserCall.written?, hid, hid.symm]
  | findById | findByEmail | existsByEmail => rfl

/-! ## Two keys -/

/-- No two records have one identifier, or one address. -/
structure Distinct (s : UserStore) : Prop where
  keyed : s.Keyed
  addressed : s.Addressed

namespace Distinct

/-- No call makes two records share a key. -/
theorem perform (hs : s.Distinct) (c : UserCall) : (s.perform c).2.Distinct := by
  refine ⟨?_, hs.addressed.perform hs.keyed c⟩
  cases c with
  | create u =>
    obtain ⟨⟨e, hc⟩, -⟩ | ⟨hc, hnew⟩ := s.perform_create_cases u
    · rw [hc]
      exact hs.keyed
    · rw [hc]
      exact hs.keyed.append (List.find?_eq_none.2 fun v hv => by simpa using (hnew v hv).1)
  | update u =>
    obtain ⟨⟨e, hc⟩, -⟩ | ⟨hc, -⟩ := s.perform_update_cases u
    · rw [hc]
      exact hs.keyed
    · rw [hc]
      exact hs.keyed.replace u
  | findById | findByEmail | existsByEmail => exact hs.keyed

/-- A look-up by identifier finds the one record with it. -/
theorem findById_iff (hs : s.Distinct) {id : UserId} :
    s.findById id = some u ↔ u ∈ s.records ∧ u.id = id := by
  refine ⟨findById_eq, ?_⟩
  rintro ⟨hu, rfl⟩
  exact hs.keyed.findById hu

/-- A look-up by address finds the one record with it. -/
theorem findByEmail_iff (hs : s.Distinct) {email : EmailAddress} :
    s.findByEmail email = some u ↔ u ∈ s.records ∧ u.email = email := by
  refine ⟨findByEmail_eq, ?_⟩
  rintro ⟨hu, rfl⟩
  exact findByEmail_mem hs.addressed hu

theorem existsByEmail_iff (hs : s.Distinct) {email : EmailAddress} :
    s.existsByEmail email = true ↔ ∃ u, s.findByEmail email = some u := by
  simp only [hs.findByEmail_iff, existsByEmail, List.any_eq_true, beq_iff_eq]

/-- The record that is found by its address is found by its identifier. -/
theorem findByEmail_iff_findById (hs : s.Distinct) {email : EmailAddress} :
    s.findByEmail email = some u ↔ s.findById u.id = some u ∧ u.email = email := by
  rw [hs.findByEmail_iff, hs.findById_iff]
  simp

/-! ## The order of the records -/

/-- The same records in another order. -/
theorem perm (hs : s.Distinct) (h : other.records.Perm s.records) : other.Distinct :=
  ⟨(h.map _).nodup_iff.2 hs.keyed, (h.map _).nodup_iff.2 hs.addressed⟩

theorem findById_perm (hs : s.Distinct) (h : other.records.Perm s.records) (id : UserId) :
    other.findById id = s.findById id :=
  Option.ext fun u => by rw [(hs.perm h).findById_iff, hs.findById_iff, h.mem_iff]

theorem findByEmail_perm (hs : s.Distinct) (h : other.records.Perm s.records)
    (email : EmailAddress) : other.findByEmail email = s.findByEmail email :=
  Option.ext fun u => by rw [(hs.perm h).findByEmail_iff, hs.findByEmail_iff, h.mem_iff]

/-- **The order of the records has no part in an answer,** and no call makes it matter. -/
theorem perform_perm (hs : s.Distinct) (h : other.records.Perm s.records) (c : UserCall) :
    (other.perform c).1 = (s.perform c).1 ∧
      (other.perform c).2.records.Perm (s.perform c).2.records := by
  cases c with
  | create u =>
    have hexists : other.existsByEmail u.email = s.existsByEmail u.email := h.any_eq
    simp only [UserStore.perform, create, hexists, h.any_eq]
    split_ifs
    · exact ⟨rfl, h⟩
    · exact ⟨rfl, h⟩
    · exact ⟨rfl, h.append_right [u]⟩
  | update u =>
    simp only [UserStore.perform, update, h.any_eq]
    split_ifs
    · exact ⟨rfl, h⟩
    · exact ⟨rfl, h.map _⟩
    · exact ⟨rfl, h⟩
  | findById id => exact ⟨congrArg Except.ok (hs.findById_perm h id), h⟩
  | findByEmail email => exact ⟨congrArg Except.ok (hs.findByEmail_perm h email), h⟩
  | existsByEmail email => exact ⟨congrArg Except.ok h.any_eq, h⟩

end Distinct

/-! ## After any calls -/

/-- The store that some calls have led to, which begins empty. -/
def ofCalls (calls : List UserCall) : UserStore := calls.foldl (fun s c => (s.perform c).2) {}

theorem ofCalls_concat (calls : List UserCall) (c : UserCall) :
    ofCalls (calls ++ [c]) = ((ofCalls calls).perform c).2 := by
  simp [ofCalls]

theorem distinct_ofCalls (calls : List UserCall) : (ofCalls calls).Distinct := by
  induction calls using List.reverseRecOn with
  | nil => exact ⟨List.nodup_nil, List.nodup_nil⟩
  | append_singleton calls c ih =>
    rw [ofCalls_concat]
    exact ih.perform c

/-- One record for an identifier and one for an address, for all who look them up and for all who
    write them. -/
structure Orderly (s : UserStore) : Prop where
  ids : (s.records.map (·.id)).Nodup
  emails : (s.records.map (·.email)).Nodup
  byId : ∀ id u, s.findById id = some u ↔ u ∈ s.records ∧ u.id = id
  byEmail : ∀ email u, s.findByEmail email = some u ↔ u ∈ s.records ∧ u.email = email
  known : ∀ email, s.existsByEmail email = true ↔ ∃ u, s.findByEmail email = some u
  agree : ∀ email u, s.findByEmail email = some u ↔ s.findById u.id = some u ∧ u.email = email
  /-- The same records in any other order answer every call alike, and are the same records
      afterwards. -/
  shuffled : ∀ other : UserStore, other.records.Perm s.records → ∀ c,
    (other.perform c).1 = (s.perform c).1 ∧
      (other.perform c).2.records.Perm (s.perform c).2.records
  /-- A record is added unless one of its keys is in use. -/
  refusesNew : ∀ u, (∃ e, (s.perform (.create u)).1 = .error e) ↔
    ∃ v ∈ s.records, v.id = u.id ∨ v.email = u.email
  /-- A record is changed unless it is not there, or another one has the address. -/
  refusesChange : ∀ u, (∃ e, (s.perform (.update u)).1 = .error e) ↔
    (∀ v ∈ s.records, v.id ≠ u.id) ∨ ∃ v ∈ s.records, v.id ≠ u.id ∧ v.email = u.email
  fails : ∀ c e, (s.perform c).1 = .error e → (s.perform c).2 = s
  /-- What is written is found, and every other record is found as before. -/
  writes : ∀ c a, (s.perform c).1 = .ok a →
    ∀ id, (s.perform c).2.findById id = (c.written? id).or (s.findById id)

/-- **The store of accounts keeps one record for an identifier and one for an address,** whatever
    calls it has answered. -/
theorem orderly (calls : List UserCall) : (ofCalls calls).Orderly where
  ids := (distinct_ofCalls calls).keyed
  emails := (distinct_ofCalls calls).addressed
  byId _ _ := (distinct_ofCalls calls).findById_iff
  byEmail _ _ := (distinct_ofCalls calls).findByEmail_iff
  known _ := (distinct_ofCalls calls).existsByEmail_iff
  agree _ _ := (distinct_ofCalls calls).findByEmail_iff_findById
  shuffled _ h c := (distinct_ofCalls calls).perform_perm h c
  refusesNew _ := refuses_create_iff
  refusesChange _ := refuses_update_iff
  fails _ _ h := perform_error h
  writes _ _ h := findById_perform h

end UserStore

end Gatehouse
