/-
  Gatehouse — the book of the token store.

  Each call to the store of tokens is entered in a book, with its answer. From the dealings in the
  book alone one can tell what the store holds: the tokens that were added and not removed since,
  each as it was added, except that a call to revoke it may have come in between.

  * `TokenStore.records_perform`: what a call makes of the records, told from its dealing;
  * `TokenBook.mem_records_iff`: what the store holds, told from the book;
  * `TokenBook.countP_wins`: while a token stays in the store, one caller at most is told to have
    revoked it;
  * `TokenBook.balanced`: what was added is what is held and what was removed.
-/
import Gatehouse.Proofs.Calm
import Gatehouse.Proofs.Secrets
import Mathlib.Algebra.Ring.Nat

namespace Gatehouse

/-! ## Dealings -/

/-- A call to the store of tokens, with its answer. -/
structure Dealing where
  call : TokenCall
  answer : Except StoreError call.Answer

namespace Dealing

/-- The token that was added. -/
def added? : Dealing → Option Token
  | ⟨.create t, .ok _⟩ => some t
  | _ => none

/-- The call is to revoke the token with a secret. -/
def revokes (secret : String) (x : Dealing) : Bool :=
  match x.call with
  | .blacklist other => other == secret
  | .revokeIfActive other => other == secret
  | _ => false

/-- The caller was told to have revoked the token with a secret. -/
def wins (secret : String) : Dealing → Bool
  | ⟨.revokeIfActive other, .ok active⟩ => other == secret && active
  | _ => false

/-- The call is to remove tokens, this one among them. -/
def removes (t : Token) (x : Dealing) : Bool :=
  match x.call with
  | .deleteAllForUser id => t.userId = id
  | .sweepExpired now => t.expiresAt < now
  | _ => false

/-- How many tokens were removed, as the caller was told. -/
def removed : Dealing → Nat
  | ⟨.deleteAllForUser _, .ok n⟩ => n
  | ⟨.sweepExpired _, .ok n⟩ => n
  | _ => 0

theorem revokes_of_wins {x : Dealing} {secret : String} (h : x.wins secret = true) :
    x.revokes secret = true := by
  unfold wins at h
  split at h
  · exact (Bool.and_eq_true_iff.1 h).1
  · cases h

end Dealing

/-- The token, after some dealings. -/
def Token.after (t : Token) (l : List Dealing) : Token :=
  { t with revoked := t.revoked || l.any (·.revokes t.secret) }

namespace Token

variable {t : Token} {l : List Dealing} {x : Dealing}

@[simp]
theorem after_id : (t.after l).id = t.id := rfl

@[simp]
theorem after_secret : (t.after l).secret = t.secret := rfl

@[simp]
theorem after_nil : t.after [] = t := by simp [after]

theorem after_concat : t.after (l ++ [x]) = (t.after l).after [x] := by
  simp [after, Bool.or_assoc]

/-- What is live has been live before. -/
theorem revoked_of_after (h : (t.after l).revoked = false) : t.revoked = false :=
  (Bool.or_eq_false_iff.1 h).1

theorem after_of_not_revokes (h : x.revokes t.secret = false) : t.after [x] = t := by
  simp [after, h]

theorem after_of_revokes (h : x.revokes t.secret = true) :
    t.after [x] = { t with revoked := true } := by
  simp [after, h]

end Token

/-- A token is removed for what does not change. -/
@[simp]
theorem Dealing.removes_after (x : Dealing) (t : Token) (l : List Dealing) :
    x.removes (t.after l) = x.removes t := rfl

/-! ## One call -/

namespace TokenStore

variable {s : TokenStore} {t : Token} {x : Dealing} {secret : String}

/-- No two records have one secret. -/
def Keyed (s : TokenStore) : Prop := (s.records.map (·.secret)).Nodup

/-- A call to a store with its answer. -/
def dealing (s : TokenStore) (c : TokenCall) : Dealing := ⟨c, (s.perform c).1⟩

/-- What a dealing leaves of the records. -/
def left (s : TokenStore) (x : Dealing) : List Token :=
  (s.records.filter fun t => !x.removes t).map (·.after [x])

theorem Keyed.isActive_iff (hs : s.Keyed) :
    s.isActive secret = true ↔ ∃ t ∈ s.records, t.secret = secret ∧ t.revoked = false := by
  refine ⟨exists_of_isActive, ?_⟩
  rintro ⟨t, ht, rfl, hlive⟩
  rw [isActive, findBySecret_mem hs ht, Option.any_some, hlive]
  rfl

/-- What becomes of a token that is to be added: nothing, or it comes last. -/
theorem perform_create_cases (s : TokenStore) (t : Token) :
    (∃ e, s.perform (.create t) = (.error e, s)) ∨
      s.perform (.create t) = (.ok (), ⟨s.records ++ [t]⟩) ∧
        ∀ u ∈ s.records, u.secret ≠ t.secret ∧ u.id ≠ t.id := by
  cases h : s.create t with
  | error e => exact .inl ⟨e, by simp [perform, h]⟩
  | ok after =>
    refine .inr ⟨?_, new_of_create h⟩
    rw [perform_create h, (create_ok h).2]

/-- A token can be added exactly if its secret and its identifier are new. -/
theorem create_ok_iff :
    (s.perform (.create t)).1 = .ok () ↔ ∀ u ∈ s.records, u.secret ≠ t.secret ∧ u.id ≠ t.id := by
  refine ⟨fun h => ?_, fun hnew => by rw [perform_create (create_new hnew)]⟩
  obtain ⟨e, hc⟩ | ⟨-, hnew⟩ := s.perform_create_cases t
  · rw [hc] at h
    cases h
  · exact hnew

/-- A token that cannot be added leaves the store as it is. -/
theorem perform_create_error {e : StoreError} (h : (s.perform (.create t)).1 = .error e) :
    (s.perform (.create t)).2 = s := by
  obtain ⟨e', hc⟩ | ⟨hc, -⟩ := s.perform_create_cases t
  · rw [hc]
  · rw [hc] at h
    cases h

/-- A dealing that removes nothing and revokes nothing that is live leaves all as it is. -/
theorem left_of_idle (hremoves : ∀ t, x.removes t = false)
    (hrevokes : ∀ t ∈ s.records, x.revokes t.secret = true → t.revoked = true) :
    s.left x = s.records := by
  unfold left
  simp only [hremoves, Bool.not_false, List.filter_true]
  refine (List.map_congr_left fun t ht => ?_).trans s.records.map_id
  cases hr : x.revokes t.secret with
  | false => exact Token.after_of_not_revokes hr
  | true =>
    rw [Token.after_of_revokes hr, ← hrevokes t ht hr]
    rfl

theorem left_of_revokes (secret : String) (hremoves : ∀ t, x.removes t = false)
    (hrevokes : ∀ other, x.revokes other = (secret == other)) :
    s.left x = (s.blacklist secret).records := by
  unfold left
  simp only [hremoves, Bool.not_false, List.filter_true]
  refine List.map_congr_left fun t _ => ?_
  by_cases h : t.secret = secret
  · rw [if_pos h, Token.after_of_revokes (by simp [hrevokes, h])]
  · rw [if_neg h, Token.after_of_not_revokes (by simp [hrevokes, Ne.symm h])]

theorem left_of_removes (dead : Token → Bool) (hremoves : ∀ t, x.removes t = dead t)
    (hrevokes : ∀ other, x.revokes other = false) : s.left x = (s.dropAll dead).records := by
  unfold left
  simp only [hremoves]
  exact (List.map_congr_left fun t _ => Token.after_of_not_revokes (hrevokes _)).trans
    (List.map_id _)

/-- **What a call makes of the records.** Those that it removes are gone, the others are kept, and
    revoked if they are the ones that it revokes; what it adds comes last. -/
theorem records_perform (hs : s.Keyed) (c : TokenCall) :
    (s.perform c).2.records = s.left (s.dealing c) ++ (s.dealing c).added?.toList := by
  cases c with
  | create t =>
    have hleft : s.left (s.dealing (.create t)) = s.records :=
      left_of_idle (fun _ => rfl) (fun _ _ hr => by cases hr)
    rw [hleft, dealing]
    obtain ⟨e, h⟩ | ⟨h, -⟩ := s.perform_create_cases t
    · rw [h]
      exact (List.append_nil _).symm
    · rw [h]
      rfl
  | findBySecret secret =>
    rw [left_of_idle (fun _ => rfl) fun _ _ hr => by cases hr]
    exact (List.append_nil _).symm
  | blacklist secret =>
    rw [left_of_revokes secret (fun _ => rfl) fun _ => rfl]
    exact (List.append_nil _).symm
  | revokeIfActive secret =>
    have hadded : (s.dealing (.revokeIfActive secret)).added? = none := rfl
    rw [hadded, Option.toList_none, List.append_nil]
    by_cases h : s.isActive secret = true
    · rw [left_of_revokes secret (fun _ => rfl) fun _ => rfl, perform, if_pos h]
    · rw [left_of_idle (fun _ => rfl), perform, if_neg h]
      intro t ht hr
      have hsecret : secret = t.secret := eq_of_beq hr
      by_contra hlive
      exact h (hs.isActive_iff.2 ⟨t, ht, hsecret.symm, by simpa using hlive⟩)
  | deleteAllForUser id =>
    rw [left_of_removes (isOwnedBy id) (fun _ => rfl) fun _ => rfl]
    exact (List.append_nil _).symm
  | sweepExpired now =>
    rw [left_of_removes (isSwept now) (fun t => ?_) fun _ => rfl]
    · exact (List.append_nil _).symm
    · exact Bool.decide_coe _

/-- As many tokens are removed as the caller is told. -/
theorem removed_perform (s : TokenStore) (c : TokenCall) :
    (s.dealing c).removed = s.records.countP (s.dealing c).removes := by
  have hnone : ∀ x : Dealing, (∀ t, x.removes t = false) → 0 = s.records.countP x.removes := by
    intro x hx
    exact (List.countP_eq_zero.2 fun t _ => by simp [hx]).symm
  cases c with
  | deleteAllForUser id => rfl
  | sweepExpired now =>
    refine List.countP_congr fun t _ => ?_
    exact (decide_eq_true_iff (p := t.expiresAt < now)).symm
  | create t => exact hnone _ fun _ => rfl
  | findBySecret secret => exact hnone _ fun _ => rfl
  | blacklist secret => exact hnone _ fun _ => rfl
  | revokeIfActive secret => exact hnone _ fun _ => rfl

/-- Exactly the one who revokes a token that is active is told to have revoked it. -/
theorem wins_dealing_iff {c : TokenCall} : (s.dealing c).wins secret = true ↔
    c = .revokeIfActive secret ∧ s.isActive secret = true := by
  cases c with
  | revokeIfActive other =>
    rw [TokenCall.revokeIfActive.injEq]
    by_cases h : s.isActive other = true
    · have hperform : s.perform (.revokeIfActive other) = (.ok true, s.blacklist other) := if_pos h
      rw [dealing, hperform]
      simp only [Dealing.wins, Bool.and_true, beq_iff_eq]
      exact ⟨fun hother => ⟨hother, hother ▸ h⟩, And.left⟩
    · have hperform : s.perform (.revokeIfActive other) = (.ok false, s) := if_neg h
      rw [dealing, hperform]
      simp only [Dealing.wins, Bool.and_false, Bool.false_eq_true, false_iff]
      rintro ⟨rfl, hactive⟩
      exact h hactive
  | _ => simp [dealing, Dealing.wins]

/-- What is not left was removed. -/
theorem length_left (s : TokenStore) (c : TokenCall) :
    (s.left (s.dealing c)).length + (s.dealing c).removed = s.records.length := by
  have hleft : (s.left (s.dealing c)).length =
      s.records.countP fun t => !(s.dealing c).removes t := by
    rw [left, List.length_map, List.countP_eq_length_filter]
  rw [removed_perform, hleft, Nat.add_comm]
  simpa using (List.length_eq_countP_add_countP ((s.dealing c).removes ·) (l := s.records)).symm

/-- A token that is added has a secret and an identifier that are new. -/
theorem new_of_added {c : TokenCall} (h : (s.dealing c).added? = some t) :
    ∀ u ∈ s.records, u.secret ≠ t.secret ∧ u.id ≠ t.id := by
  cases c with
  | create t' =>
    obtain ⟨e, hc⟩ | ⟨hc, hnew⟩ := s.perform_create_cases t'
    · rw [dealing, hc] at h
      cases h
    · rw [dealing, hc] at h
      cases h
      exact hnew
  | _ => cases h

/-- What no call changes of a token, and what is new of a token that is added, tells the tokens
    apart. -/
theorem nodup_perform {β : Type} {f : Token → β} (hs : s.Keyed) (c : TokenCall)
    (hf : ∀ t l, f (Token.after t l) = f t)
    (hnew : ∀ u t : Token, u.secret ≠ t.secret ∧ u.id ≠ t.id → f u ≠ f t)
    (hnodup : (s.records.map f).Nodup) : ((s.perform c).2.records.map f).Nodup := by
  have hleft : (s.left (s.dealing c)).map f =
      (s.records.filter fun t => !(s.dealing c).removes t).map f := by
    unfold left
    rw [List.map_map]
    exact List.map_congr_left fun t _ => hf t _
  have hkept : ((s.left (s.dealing c)).map f).Nodup :=
    hleft ▸ hnodup.sublist (List.filter_sublist.map f)
  rw [records_perform hs, List.map_append]
  cases hadded : (s.dealing c).added? with
  | none => simpa using hkept
  | some t =>
    refine List.nodup_append.2 ⟨hkept, List.nodup_singleton _, ?_⟩
    rintro _ hx _ hy rfl
    rw [hleft] at hx
    obtain ⟨u, hu, hut⟩ := List.mem_map.1 hx
    rw [Option.toList_some, List.map_singleton, List.mem_singleton] at hy
    exact hnew u t (new_of_added hadded u (List.mem_of_mem_filter hu)) (hut.trans hy)

end TokenStore

/-! ## The book -/

/-- The dealings with a store, and the store that they have led to. -/
structure TokenBook where
  dealings : List Dealing := []
  store : TokenStore := {}

namespace TokenBook

/-- Make a call, and enter it. -/
def enter (b : TokenBook) (c : TokenCall) : TokenBook where
  dealings := b.dealings ++ [b.store.dealing c]
  store := (b.store.perform c).2

/-- The book of some calls, which begins with an empty store. -/
def ofCalls (calls : List TokenCall) : TokenBook := calls.foldl enter {}

/-- A token was added as `t`, and has stayed from there to the end of `l`, all through `during`. -/
structure Stays (l : List Dealing) (t : Token) (during : List Dealing) : Prop where
  added : ∃ before x, l = before ++ x :: during ∧ x.added? = some t
  kept : ∀ x ∈ during, x.removes t = false

variable {l during : List Dealing} {x : Dealing} {t u : Token}

theorem ofCalls_concat (calls : List TokenCall) (c : TokenCall) :
    ofCalls (calls ++ [c]) = (ofCalls calls).enter c := by
  simp [ofCalls]

/-- A stay begins with the last dealing, or goes on through it. -/
theorem stays_concat_iff : Stays (l ++ [x]) t during ↔ during = [] ∧ x.added? = some t ∨
    ∃ during', during = during' ++ [x] ∧ Stays l t during' ∧ x.removes t = false := by
  constructor
  · rintro ⟨⟨before, y, hl, hy⟩, hkept⟩
    rcases List.eq_nil_or_concat' during with rfl | ⟨during, z, rfl⟩
    · obtain ⟨-, hxy⟩ := List.append_inj' hl rfl
      cases hxy
      exact .inl ⟨rfl, hy⟩
    · rw [← List.cons_append, ← List.append_assoc] at hl
      obtain ⟨rfl, hxz⟩ := List.append_inj' hl rfl
      cases hxz
      refine .inr ⟨during, rfl, ⟨⟨before, y, rfl, hy⟩, ?_⟩, hkept _ (by simp)⟩
      intro x hx
      exact hkept x (by simp [hx])
  · rintro (⟨rfl, hx⟩ | ⟨during, rfl, ⟨⟨before, y, rfl, hy⟩, hkept⟩, hx⟩)
    · exact ⟨⟨l, x, rfl, hx⟩, by simp⟩
    · refine ⟨⟨before, y, by simp, hy⟩, ?_⟩
      simpa [or_imp, forall_and] using ⟨hkept, hx⟩

/-- No two tokens in the store have one secret, or one identifier. -/
theorem nodup (calls : List TokenCall) : (ofCalls calls).store.Keyed ∧
    ((ofCalls calls).store.records.map (·.id)).Nodup := by
  induction calls using List.reverseRecOn with
  | nil => exact ⟨List.nodup_nil, List.nodup_nil⟩
  | append_singleton calls c ih =>
    obtain ⟨hsecrets, hids⟩ := ih
    rw [ofCalls_concat]
    constructor
    · exact TokenStore.nodup_perform hsecrets c (fun _ _ => rfl) (fun _ _ h => h.1) hsecrets
    · exact TokenStore.nodup_perform hsecrets c (fun _ _ => rfl) (fun _ _ h => h.2) hids

theorem keyed (calls : List TokenCall) : (ofCalls calls).store.Keyed := (nodup calls).1

/-- What a call leaves of a token. -/
theorem mem_left {s : TokenStore} :
    u ∈ s.left x ↔ ∃ v ∈ s.records, x.removes v = false ∧ u = v.after [x] := by
  simp only [TokenStore.left, List.mem_map, List.mem_filter, Bool.not_eq_true', and_assoc,
    eq_comm (a := u)]

/-- **What the store holds, told from the book:** the tokens that were added and have stayed since,
    as the dealings since then have left them. -/
theorem mem_records_iff (calls : List TokenCall) :
    u ∈ (ofCalls calls).store.records ↔
      ∃ t during, Stays (ofCalls calls).dealings t during ∧ u = t.after during := by
  induction calls using List.reverseRecOn generalizing u with
  | nil =>
    constructor
    · rintro ⟨⟩
    · rintro ⟨t, during, ⟨⟨before, x, hl, -⟩, -⟩, -⟩
      cases before <;> cases hl
  | append_singleton calls c ih =>
    have hrecords := TokenStore.records_perform (keyed calls) c
    rw [ofCalls_concat]
    simp only [enter, hrecords, stays_concat_iff, List.mem_append, Option.mem_toList, mem_left]
    generalize (ofCalls calls).store.dealing c = x
    constructor
    · rintro (⟨v, hv, hx, rfl⟩ | hx)
      · obtain ⟨t, during, hstays, rfl⟩ := ih.1 hv
        exact ⟨t, during ++ [x], .inr ⟨during, rfl, hstays, hx⟩, Token.after_concat.symm⟩
      · exact ⟨u, [], .inl ⟨rfl, hx⟩, Token.after_nil.symm⟩
    · rintro ⟨t, _, ⟨rfl, hx⟩ | ⟨during, rfl, hstays, hx⟩, rfl⟩
      · rw [Token.after_nil]
        exact .inr hx
      · exact .inl ⟨t.after during, ih.2 ⟨t, during, hstays, rfl⟩, hx, Token.after_concat⟩

/-- Tokens in the store that have one secret are one token. -/
theorem eq_of_secret (calls : List TokenCall) {t u : Token}
    (ht : t ∈ (ofCalls calls).store.records) (hu : u ∈ (ofCalls calls).store.records)
    (h : t.secret = u.secret) : t = u :=
  List.inj_on_of_nodup_map (keyed calls) ht hu h

/-- A caller is told to have revoked a secret exactly if a token with the secret is there, and
    nobody has revoked it yet. -/
theorem wins_iff (calls : List TokenCall) {c : TokenCall} {secret : String} :
    ((ofCalls calls).store.dealing c).wins secret = true ↔ c = .revokeIfActive secret ∧
      ∃ t during, Stays (ofCalls calls).dealings t during ∧ t.secret = secret ∧
        (t.after during).revoked = false := by
  rw [TokenStore.wins_dealing_iff, (keyed calls).isActive_iff]
  refine and_congr_right fun _ => ?_
  constructor
  · rintro ⟨u, hu, rfl, hlive⟩
    obtain ⟨t, during, hstays, rfl⟩ := (mem_records_iff calls).1 hu
    exact ⟨t, during, hstays, rfl, hlive⟩
  · rintro ⟨t, during, hstays, rfl, hlive⟩
    exact ⟨t.after during, (mem_records_iff calls).2 ⟨t, during, hstays, rfl⟩, rfl, hlive⟩

/-- **While a token stays, one caller at most is told to have revoked it,** and none as long as it
    is not revoked. -/
theorem countP_wins (calls : List TokenCall) (h : Stays (ofCalls calls).dealings t during) :
    during.countP (·.wins t.secret) ≤ 1 ∧
      ((t.after during).revoked = false → during.countP (·.wins t.secret) = 0) := by
  induction calls using List.reverseRecOn generalizing during with
  | nil =>
    obtain ⟨⟨before, x, hl, -⟩, -⟩ := h
    cases before <;> cases hl
  | append_singleton calls c ih =>
    rw [ofCalls_concat] at h
    obtain ⟨rfl, -⟩ | ⟨during, rfl, hstays, hx⟩ := stays_concat_iff.1 h
    · simp
    · obtain ⟨honce, hnone⟩ := ih hstays
      rw [List.countP_append, List.countP_singleton, Token.after_concat]
      cases hwins : ((ofCalls calls).store.dealing c).wins t.secret with
      | false => exact ⟨honce, fun hlive => hnone (Token.revoked_of_after hlive)⟩
      | true =>
        -- the token that was found live is the one that stays
        obtain ⟨-, t', during', hstays', hsecret, hlive⟩ := (wins_iff calls).1 hwins
        have hsame : t'.after during' = t.after during :=
          eq_of_secret calls ((mem_records_iff calls).2 ⟨t', during', hstays', rfl⟩)
            ((mem_records_iff calls).2 ⟨t, during, hstays, rfl⟩) hsecret
        have hrevoked := Token.after_of_revokes (t := t.after during)
          (Dealing.revokes_of_wins hwins)
        rw [hnone (hsame ▸ hlive), hrevoked]
        exact ⟨le_rfl, fun h => by cases h⟩

/-! ## The whole book -/

/-- Every dealing in a book was entered after those before it. -/
theorem exists_of_dealings {calls : List TokenCall} {rest : List Dealing}
    (h : (ofCalls calls).dealings = l ++ x :: rest) :
    ∃ before c, (ofCalls before).dealings = l ∧ x = (ofCalls before).store.dealing c := by
  induction calls using List.reverseRecOn generalizing rest with
  | nil => cases l <;> cases h
  | append_singleton calls c ih =>
    rw [ofCalls_concat] at h
    rcases List.eq_nil_or_concat' rest with rfl | ⟨rest, y, rfl⟩
    · obtain ⟨rfl, hx⟩ := List.append_inj' h rfl
      cases hx
      exact ⟨calls, c, rfl, rfl⟩
    · rw [← List.cons_append, ← List.append_assoc] at h
      exact ih (List.append_inj' h rfl).1

/-- The beginning of a book is a book. -/
theorem exists_of_prefix {calls : List TokenCall} {rest : List Dealing}
    (h : (ofCalls calls).dealings = l ++ rest) : ∃ before, (ofCalls before).dealings = l := by
  cases rest with
  | nil => exact ⟨calls, h.trans (List.append_nil l)⟩
  | cons x rest =>
    obtain ⟨before, -, hbefore, -⟩ := exists_of_dealings h
    exact ⟨before, hbefore⟩

/-- What was added is held, or was removed. -/
theorem countP_added (calls : List TokenCall) :
    (ofCalls calls).dealings.countP (·.added?.isSome) =
      (ofCalls calls).store.records.length + ((ofCalls calls).dealings.map (·.removed)).sum := by
  induction calls using List.reverseRecOn with
  | nil => rfl
  | append_singleton calls c ih =>
    have hrecords := TokenStore.records_perform (keyed calls) c
    have hleft := (ofCalls calls).store.length_left c
    have hadded : ((ofCalls calls).store.dealing c).added?.toList.length =
        if ((ofCalls calls).store.dealing c).added?.isSome then 1 else 0 := by
      cases ((ofCalls calls).store.dealing c).added? <;> rfl
    rw [ofCalls_concat]
    simp only [enter, hrecords, List.countP_append, List.countP_singleton, List.length_append,
      List.map_append, List.map_singleton, List.sum_append, List.sum_singleton, hadded]
    omega

/-- What a book shows of its store. -/
structure Balanced (b : TokenBook) : Prop where
  ids : (b.store.records.map (·.id)).Nodup
  secrets : (b.store.records.map (·.secret)).Nodup
  found : ∀ t ∈ b.store.records, b.store.findBySecret t.secret = some t
  /-- What is in the store was added and has stayed. It is as it was added, but for the mark: it is
      revoked if it was added so, or if a call to revoke it has come since. -/
  held : ∀ u, u ∈ b.store.records ↔ ∃ t during, Stays b.dealings t during ∧ u = t.after during
  /-- Of those who revoke a token during one stay, whether or not that has ended, one at most is
      told so. -/
  once : ∀ {l rest t during}, b.dealings = l ++ rest → Stays l t during →
    during.countP (·.wins t.secret) ≤ 1
  /-- It is the one who found the token there and not revoked. -/
  first : ∀ {l x rest secret}, b.dealings = l ++ x :: rest → (x.wins secret = true ↔
    x.call = .revokeIfActive secret ∧
      ∃ t during, Stays l t during ∧ t.secret = secret ∧ (t.after during).revoked = false)
  /-- A token is added unless its secret or its identifier is in use. -/
  adds : ∀ t, (b.store.perform (.create t)).1 = .ok () ↔
    ∀ u ∈ b.store.records, u.secret ≠ t.secret ∧ u.id ≠ t.id
  /-- A token that is not added changes nothing. -/
  fails : ∀ t e, (b.store.perform (.create t)).1 = .error e → (b.enter (.create t)).store = b.store
  /-- What was added is held, or was removed. -/
  total : b.dealings.countP (·.added?.isSome) =
    b.store.records.length + (b.dealings.map (·.removed)).sum

/-- **The store of tokens neither loses nor duplicates a token,** whatever calls it has answered. -/
theorem balanced (calls : List TokenCall) : (ofCalls calls).Balanced where
  ids := (nodup calls).2
  secrets := keyed calls
  found _ ht := TokenStore.findBySecret_mem (keyed calls) ht
  held _ := mem_records_iff calls
  once h hstays := by
    obtain ⟨before, rfl⟩ := exists_of_prefix h
    exact (countP_wins before hstays).1
  first h := by
    obtain ⟨before, c, rfl, rfl⟩ := exists_of_dealings h
    exact wins_iff before
  adds t := TokenStore.create_ok_iff
  fails t e h := TokenStore.perform_create_error h
  total := countP_added calls

end TokenBook

end Gatehouse
