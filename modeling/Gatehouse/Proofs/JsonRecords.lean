/-
  Gatehouse — the records of a JSON text.

  A record is read from an object member by member. `Takes` is what one member does to the draft,
  `Chain` what all of them do.

  * `Record.chain_of_readMembers`, `Record.readMembers_of_chain`: members are read along a chain,
    and the fuel is never used up;
  * `Record.readAll_written`: a record is read back from the text of a document whose members
    fill it.
-/
import Gatehouse.Proofs.JsonValues

namespace Gatehouse.Json

/-! ## Keys and ends -/

/-- The place of a member behind the comma that is due in front of it. -/
def passComma (first : Bool) (c : Cursor) : Except Error Cursor :=
  if c.rest.head? = some (ascii ',') ∧ !first then .ok c.next.skipSpace
  else if first then .ok c
  else .error (c.behind .noCommaInObject)

/-- The key at a place. -/
def keyAt (c : Cursor) : Except Error (Option String × Cursor) :=
  match c.rest with
  | [] => .error (c.behind .endInValue)
  | b :: _ =>
    if b = ascii '"' then (readString c.next).map fun (key, c) => (some key, c)
    else if b = ascii '\x7d' then .error (c.behind .trailingComma)
    else .error (c.behind .keyNotString)

/-- The next key is looked for in two steps. -/
theorem nextKey_eq (first : Bool) {c : Cursor} {b : UInt8} (h : c.skipSpace.rest.head? = some b) :
    nextKey first c = if b = ascii '\x7d' then .ok (none, c.skipSpace)
      else (passComma first c.skipSpace >>= keyAt) := by
  obtain ⟨t, ht⟩ := cons_of_head? h
  have hkey : ∀ c : Cursor, (match c.rest with
      | [] => throw (c.behind .endInValue)
      | b :: _ =>
        if b = ascii '"' then do
          let (key, c) ← readString c.next
          return (some key, c)
        else if b = ascii '\x7d' then throw (c.behind .trailingComma)
        else throw (c.behind .keyNotString)) = keyAt c := by
    intro c
    unfold keyAt
    split
    · rfl
    · cases readString c.next <;> rfl
  rw [nextKey]
  simp only [ht, passComma, List.head?_cons, Option.some.injEq]
  split_ifs with hclose hcomma hfirst
  · rfl
  · exact hkey _
  · exact hkey _
  · rfl

theorem past_passComma {first : Bool} {c c' : Cursor} (h : passComma first c = .ok c') :
    ∃ sep, Separator first sep ∧ c.Past sep c' := by
  rw [passComma] at h
  split_ifs at h with hcomma hfirst
  · cases h
    obtain ⟨s, hs, hpast, -⟩ := past_skipSpace c.next
    obtain rfl : first = false := by simpa using hcomma.2
    exact ⟨_, .comma hs, (Cursor.past_next hcomma.1).trans hpast⟩
  · cases h
    subst hfirst
    exact ⟨[], .first, .refl _⟩

theorem body_of_keyAt {c c' : Cursor} {key : Option String} (h : keyAt c = .ok (key, c')) :
    ∃ k raw, key = some k ∧ c.Past (ascii '"' :: (raw ++ [ascii '"'])) c' ∧
      Body raw (Jwt.bytesOf k.toList) := by
  rw [keyAt] at h
  split at h
  · cases h
  · rename_i b t hc
    split_ifs at h with hquote
    cases hread : readString c.next with
    | error e =>
      rw [hread] at h
      cases h
    | ok x =>
      obtain ⟨k, after⟩ := x
      rw [hread] at h
      cases h
      obtain ⟨raw, bs, hraw, hbody, hutf⟩ := body_of_readString hread
      rw [Jwt.bytesOf_of_fromUTF8 hutf] at hbody
      exact ⟨k, raw, rfl, (Cursor.past_next (by rw [hc, hquote]; rfl)).trans hraw, hbody⟩

theorem head_of_nextKey {first : Bool} {c : Cursor} {x : Option String × Cursor}
    (h : nextKey first c = .ok x) : ∃ b, c.skipSpace.rest.head? = some b := by
  rw [nextKey] at h
  split at h
  · cases h
  · rename_i b t hc
    exact ⟨b, by rw [hc]; rfl⟩

/-- A key is a string behind what separates its member from the one before. -/
theorem body_of_nextKey {first : Bool} {c c' : Cursor} {key : String}
    (h : nextKey first c = .ok (some key, c')) : ∃ s sep raw, Spaces s ∧ Separator first sep ∧
      c.Past (s ++ (sep ++ ascii '"' :: (raw ++ [ascii '"']))) c' ∧
      Body raw (Jwt.bytesOf key.toList) := by
  obtain ⟨s, hs, hpast, -⟩ := past_skipSpace c
  obtain ⟨b, hb⟩ := head_of_nextKey h
  rw [nextKey_eq first hb] at h
  split_ifs at h with hclose
  · cases h
  · obtain ⟨start, hstart, h⟩ := ok_of_bind h
    obtain ⟨sep, hsep, hpast'⟩ := past_passComma hstart
    obtain ⟨k, raw, hk, hraw, hbody⟩ := body_of_keyAt h
    cases hk
    exact ⟨s, sep, raw, hs, hsep, hpast.trans (hpast'.trans hraw), hbody⟩

/-- There is no further key in front of the closing brace. -/
theorem closing_of_nextKey {first : Bool} {c c' : Cursor}
    (h : nextKey first c = .ok (none, c')) :
    c' = c.skipSpace ∧ c'.rest.head? = some (ascii '\x7d') := by
  obtain ⟨b, hb⟩ := head_of_nextKey h
  rw [nextKey_eq first hb] at h
  split_ifs at h with hclose
  · cases h
    exact ⟨rfl, by rw [hb, hclose]⟩
  · obtain ⟨start, -, h⟩ := ok_of_bind h
    obtain ⟨k, raw, hk, -⟩ := body_of_keyAt h
    cases hk

theorem nextKey_close (first : Bool) {c : Cursor} (h : c.rest.head? = some (ascii '\x7d')) :
    nextKey first c = .ok (none, c) := by
  have hskip := skipSpace_of_head h (by decide)
  rw [nextKey_eq first (by rw [hskip]; exact h), if_pos rfl, hskip]

/-- A key is read behind what separates its member from the one before. -/
theorem nextKey_past {first : Bool} {s sep raw : List UInt8} {key : String} {c c' : Cursor}
    (hs : Spaces s) (hsep : Separator first sep) (hbody : Body raw (Jwt.bytesOf key.toList))
    (hpast : c.Past (s ++ (sep ++ ascii '"' :: (raw ++ [ascii '"']))) c') :
    nextKey first c = .ok (some key, c') := by
  have hkey : ∀ {c₁ : Cursor}, c₁.Past (ascii '"' :: (raw ++ [ascii '"'])) c' →
      keyAt c₁ = .ok (some key, c') := by
    intro c₁ h₁
    obtain ⟨hquote, hnext⟩ := h₁.next
    obtain ⟨t, ht⟩ := cons_of_head? hquote
    rw [keyAt, ht]
    simp only [if_true, readString_past hbody hnext]
    rfl
  cases hsep with
  | first =>
    have hskip := past_skipSpace_of_spaces hs (by decide) hpast
    rw [nextKey_eq true hskip.next.1, if_neg (by decide), passComma, if_neg (by simp), if_pos rfl]
    exact hkey hskip
  | comma hs' =>
    have hskip := past_skipSpace_of_spaces hs (by decide) hpast
    have hskip' := past_skipSpace_of_spaces hs' (by decide) hskip.next.2
    rw [nextKey_eq false hskip.next.1, if_neg (by decide), passComma, if_pos ⟨hskip.next.1, rfl⟩]
    exact hkey hskip'

/-- The comma in front of a member that is not the first. -/
def comma : Bool → List UInt8
  | true => []
  | false => [ascii ',']

theorem separator_comma (first : Bool) : Separator first (comma first) := by
  cases first with
  | true => exact .first
  | false => exact .comma .nil

/-! ## Members -/

namespace Record

variable {σ α : Type} {r : Record σ α}

/-- Reading the value of a member into the draft. -/
inductive Takes (r : Record σ α) (d : σ) (key : String) (c : Cursor) : σ → Cursor → Prop
  | field {f d' c'} : r.fields.find? (·.name = key) = some f → f.filled d = false →
      f.read d c = .ok (d', c') → Takes r d key c d' c'
  | other {c'} : r.fields.find? (·.name = key) = none → skipValue c = .ok c' → Takes r d key c d c'

/-- Reading members into the draft one after the other, up to the closing brace: their keys, and
    where their values start and end. -/
inductive Chain (r : Record σ α) :
    Bool → σ → Cursor → List (String × Cursor × Cursor) → σ → Cursor → Prop
  | close {first d c c'} : nextKey first c = .ok (none, c') → Chain r first d c [] d c'
  | member {first d c key c₁ c₂ d₁ c₃ ms d' c'} : nextKey first c = .ok (some key, c₁) →
      readColon c₁ = .ok c₂ → Takes r d key c₂ d₁ c₃ → Chain r false d₁ c₃ ms d' c' →
      Chain r first d c ((key, c₂, c₃) :: ms) d' c'

theorem Takes.cases {d d' : σ} {key : String} {c c' : Cursor} (h : Takes r d key c d' c') :
    ((∀ f ∈ r.fields, f.name ≠ key) ∧ d' = d ∧ skipValue c = .ok c') ∨
      ∃ f ∈ r.fields, f.name = key ∧ f.filled d = false ∧ f.read d c = .ok (d', c') := by
  cases h with
  | field hfind hfilled hread =>
    have hname := List.find?_some hfind
    exact .inr ⟨_, List.mem_of_find?_eq_some hfind, by simpa using hname, hfilled, hread⟩
  | other hfind hskip =>
    refine .inl ⟨fun f hf => ?_, rfl, hskip⟩
    simpa using List.find?_eq_none.1 hfind f hf

/-- A field that is read by a reader keeps what the reader reads. -/
theorem read_of {β : Type} {name : String} {get : σ → Option β} {keep : σ → β → σ} {read : Reader β}
    {default : Option β} {d d' : σ} {c c' : Cursor}
    (h : (Field.of name get keep read default).read d c = .ok (d', c')) :
    ∃ b, read c = .ok (b, c') ∧ d' = keep d b := by
  simp only [Field.of] at h
  cases hread : read c with
  | error e =>
    rw [hread] at h
    cases h
  | ok x =>
    obtain ⟨b, after⟩ := x
    rw [hread] at h
    cases h
    exact ⟨b, rfl, rfl⟩

theorem Takes.of_field {β : Type} {name : String} {get : σ → Option β} {keep : σ → β → σ}
    {read : Reader β} {default : Option β} {d d' : σ} {c c' : Cursor}
    (hfind : r.fields.find? (·.name = name) = some (.of name get keep read default))
    (h : Takes r d name c d' c') : ∃ b, read c = .ok (b, c') ∧ d' = keep d b := by
  cases h with
  | field hfind' _ hread =>
    cases hfind.symm.trans hfind'
    exact read_of hread
  | other hnone => cases hfind.symm.trans hnone

theorem between_ok {β : Type} {x : Except Error β} {b : β} (h : between x = .ok b) : x = .ok b := by
  cases x with
  | error e => cases h
  | ok b' => cases h; rfl

theorem within_ok {β : Type} {part : String} {x : Except Error β} {b : β}
    (h : within part x = .ok b) : x = .ok b := by
  cases x with
  | error e => cases h
  | ok b' => cases h; rfl

/-- Members are read along a chain. -/
theorem readMembers_of_chain {first : Bool} {d d' : σ} {c c' : Cursor}
    {ms : List (String × Cursor × Cursor)} (h : Chain r first d c ms d' c') {fuel : Nat}
    (hfuel : ms.length < fuel) : r.readMembers fuel first d c = .ok (d', c') := by
  induction h generalizing fuel with
  | close hkey =>
    obtain ⟨fuel, rfl⟩ := Nat.exists_eq_succ_of_ne_zero (Nat.ne_of_gt hfuel)
    rw [readMembers, hkey]
    rfl
  | member hkey hcolon htakes _ ih =>
    obtain ⟨fuel, rfl⟩ := Nat.exists_eq_succ_of_ne_zero (Nat.ne_of_gt (Nat.zero_lt_of_lt hfuel))
    have hrest := ih (Nat.lt_of_succ_lt_succ hfuel)
    rw [readMembers, hkey]
    cases htakes with
    | field hfind hfilled hread =>
      simp only [between, within, bind, Except.bind, Except.mapError, hfind, hfilled, hcolon, hread,
        hrest, Bool.false_eq_true, if_false]
    | other hfind hskip =>
      simp only [between, within, bind, Except.bind, Except.mapError, hfind, hcolon, hskip, hrest]

/-- No reader of a field goes back. -/
def Forward (r : Record σ α) : Prop :=
  ∀ f ∈ r.fields, ∀ d c d' c', f.read d c = .ok (d', c') → c'.rest.length ≤ c.rest.length

theorem length_of_skipValue {c c' : Cursor} (h : skipValue c = .ok c') :
    c'.rest.length ≤ c.rest.length := by
  obtain ⟨s, -, hpast, -⟩ := past_skipSpace c
  obtain ⟨v, hv, -⟩ := forms_of_skipValue h
  rw [(hpast.trans hv).1, List.length_append]
  omega

/-- Readers of fields read no other values than those that are passed over, and go as far. -/
def Strict (r : Record σ α) : Prop :=
  ∀ f ∈ r.fields, ∀ d c d' c', f.read d c = .ok (d', c') → skipValue c = .ok c'

theorem Strict.forward (hr : r.Strict) : r.Forward :=
  fun f hf d c d' c' h => length_of_skipValue (hr f hf d c d' c' h)

theorem Takes.skipValue (hr : r.Strict) {d d' : σ} {key : String} {c c' : Cursor}
    (h : Takes r d key c d' c') : skipValue c = .ok c' := by
  cases h with
  | field hfind _ hread => exact hr _ (List.mem_of_find?_eq_some hfind) _ _ _ _ hread
  | other _ hskip => exact hskip

theorem Takes.length_le (hr : r.Forward) {d d' : σ} {key : String} {c c' : Cursor}
    (h : Takes r d key c d' c') : c'.rest.length ≤ c.rest.length := by
  cases h with
  | field hfind _ hread => exact hr _ (List.mem_of_find?_eq_some hfind) _ _ _ _ hread
  | other _ hskip => exact length_of_skipValue hskip

/-- What was read is a chain. -/
theorem chain_of_readMembers (hr : r.Forward) {fuel : Nat} {first : Bool} {d d' : σ} {c c' : Cursor}
    (hfuel : c.rest.length < fuel) (h : r.readMembers fuel first d c = .ok (d', c')) :
    ∃ ms, Chain r first d c ms d' c' := by
  induction fuel generalizing first d c with
  | zero => exact absurd hfuel (Nat.not_lt_zero _)
  | succ fuel ih =>
    rw [readMembers] at h
    obtain ⟨⟨key, c₁⟩, hkey, h⟩ := ok_of_bind h
    have hkey := between_ok hkey
    cases key with
    | none =>
      cases h
      exact ⟨[], .close hkey⟩
    | some key =>
      simp only at h
      obtain ⟨s, sep, raw, -, -, hpast, -⟩ := body_of_nextKey hkey
      -- the quotes of the key are two bytes at least
      have hlen : c₁.rest.length < fuel := by
        have := congrArg List.length hpast.1
        simp only [List.length_append, List.length_cons] at this
        omega
      have rest : ∀ {c₂ d₁ c₃}, readColon c₁ = .ok c₂ → Takes r d key c₂ d₁ c₃ →
          r.readMembers fuel false d₁ c₃ = .ok (d', c') →
          ∃ ms, Chain r first d c ms d' c' := by
        intro c₂ d₁ c₃ hcolon htakes hrest
        obtain ⟨s, -, hpast'⟩ := past_readColon hcolon
        have := congrArg List.length hpast'.1
        simp only [List.length_append] at this
        obtain ⟨ms, hms⟩ := ih (by have := htakes.length_le hr; omega) hrest
        exact ⟨_, .member hkey hcolon htakes hms⟩
      split at h
      · rename_i f hfind
        by_cases hfilled : f.filled d = true
        · simp only [hfilled, if_true] at h
          cases h
        · simp only [hfilled, Bool.false_eq_true, if_false] at h
          obtain ⟨c₂, hcolon, h⟩ := ok_of_bind h
          obtain ⟨⟨d₁, c₃⟩, hread, h⟩ := ok_of_bind h
          exact rest (between_ok hcolon) (.field hfind (by simpa using hfilled) (within_ok hread)) h
      · rename_i hfind
        obtain ⟨c₂, hcolon, h⟩ := ok_of_bind h
        obtain ⟨c₃, hskip, h⟩ := ok_of_bind h
        exact rest (between_ok hcolon) (.other hfind (within_ok hskip)) h

theorem Chain.closing {first : Bool} {d d' : σ} {c c' : Cursor}
    {ms : List (String × Cursor × Cursor)} (h : Chain r first d c ms d' c') :
    c'.rest.head? = some (ascii '\x7d') := by
  induction h with
  | close hkey => exact (closing_of_nextKey hkey).2
  | member _ _ _ _ ih => exact ih

theorem Chain.length_le (hr : r.Forward) {first : Bool} {d d' : σ} {c c' : Cursor}
    {ms : List (String × Cursor × Cursor)} (h : Chain r first d c ms d' c') :
    ms.length ≤ c.rest.length := by
  induction h with
  | close => exact Nat.zero_le _
  | member hkey hcolon htakes _ ih =>
    obtain ⟨s, sep, raw, -, -, hpast, -⟩ := body_of_nextKey hkey
    obtain ⟨s', -, hpast'⟩ := past_readColon hcolon
    have h₁ := congrArg List.length hpast.1
    have h₂ := congrArg List.length hpast'.1
    have h₃ := htakes.length_le hr
    simp only [List.length_append, List.length_cons] at h₁ h₂ ⊢
    omega

/-! ## Records -/

theorem endObject_closing {c : Cursor} (h : c.rest.head? = some (ascii '\x7d')) :
    endObject c = (.ok (), c.next) := by
  obtain ⟨t, ht⟩ := cons_of_head? h
  rw [endObject, skipSpace_of_head h (by decide)]
  simp only [ht, if_true]

theorem length_next {c : Cursor} {b : UInt8} (h : c.rest.head? = some b) :
    c.rest.length = c.next.rest.length + 1 := by
  obtain ⟨t, ht⟩ := cons_of_head? h
  simp [Cursor.next, ht]

/-- A record is read from an object along a chain. -/
theorem read_of_chain (hr : r.Forward) {d : σ} {a : α} {c c' : Cursor}
    {ms : List (String × Cursor × Cursor)} (hopen : c.skipSpace.rest.head? = some (ascii '\x7b'))
    (h : Chain r true r.start c.skipSpace.next ms d c') (hfinish : r.finish d = .ok a) :
    r.read c = .ok (a, c'.next) := by
  have hlen := h.length_le hr
  have hnext := length_next hopen
  rw [Record.read, atValue_of_some hopen, ok_bind, if_pos hopen,
    readMembers_of_chain h (by omega)]
  simp only [conclude, hfinish, closeWith, endObject_closing h.closing]
  rfl

/-- What was read from an object was read along a chain. -/
theorem chain_of_read (hr : r.Forward) {a : α} {c c' : Cursor}
    (hopen : c.skipSpace.rest.head? = some (ascii '\x7b')) (h : r.read c = .ok (a, c')) :
    ∃ ms d c₁, Chain r true r.start c.skipSpace.next ms d c₁ ∧ r.finish d = .ok a ∧
      c' = c₁.next := by
  have hnext := length_next hopen
  rw [Record.read, atValue_of_some hopen, ok_bind, if_pos hopen] at h
  cases hread : r.readMembers (c.skipSpace.rest.length + 1) true r.start c.skipSpace.next with
  | error t =>
    rw [hread] at h
    cases t <;> cases h
  | ok x =>
    obtain ⟨d, c₁⟩ := x
    obtain ⟨ms, hms⟩ := chain_of_readMembers hr (by omega) hread
    rw [hread] at h
    simp only [conclude] at h
    cases hfinish : r.finish d with
    | error fault =>
      rw [hfinish] at h
      cases h
    | ok a' =>
      simp only [hfinish, closeWith, endObject_closing hms.closing] at h
      cases h
      exact ⟨ms, d, c₁, hms, hfinish, rfl⟩

/-! ## Records that were written -/

/-- The members fill the draft one after the other, wherever their values are read. -/
inductive Fills (r : Record σ α) : σ → List (String × Doc) → σ → Prop
  | nil {d} : Fills r d [] d
  | cons {d key v d₁ ms d'} :
      (∀ c c', c.Past (Jwt.bytesOf (write v)) c' → NumberEnd c'.rest → Takes r d key c d₁ c') →
      Fills r d₁ ms d' → Fills r d ((key, v) :: ms) d'

theorem Fills.append {d d₁ d' : σ} {ms ms' : List (String × Doc)} (h : Fills r d ms d₁)
    (h' : Fills r d₁ ms' d') : Fills r d (ms ++ ms') d' := by
  induction h with
  | nil => exact h'
  | cons htakes _ ih => exact .cons htakes (ih h')

/-- The members as they are written, the first without a comma. -/
def writtenMembers : Bool → List (String × Doc) → List UInt8
  | _, [] => []
  | first, (k, v) :: ms =>
    (comma first ++ ascii '"' :: (Jwt.bytesOf (k.toList.flatMap writeChar) ++ [ascii '"'])) ++
      ([ascii ':'] ++ (Jwt.bytesOf (write v) ++ writtenMembers false ms))

theorem bytesOf_writeText (s : String) : Jwt.bytesOf (writeText s) =
    ascii '"' :: (Jwt.bytesOf (s.toList.flatMap writeChar) ++ [ascii '"']) := by
  have hquote : Jwt.bytesOf ['"'] = [ascii '"'] := Jwt.bytesOf_ascii (by simp)
  rw [writeText, List.cons_append, ← List.singleton_append, Jwt.bytesOf_append,
    Jwt.bytesOf_append, hquote]
  rfl

theorem bytesOf_writeMembers (ms : List (String × Doc)) :
    Jwt.bytesOf (writeMembers ms) = writtenMembers false ms := by
  induction ms with
  | nil => rw [writeMembers, writtenMembers, Jwt.bytesOf_nil]
  | cons m ms ih =>
    obtain ⟨k, v⟩ := m
    have hcomma : Jwt.bytesOf [','] = [ascii ','] := Jwt.bytesOf_ascii (by simp)
    have hcolon : Jwt.bytesOf [':'] = [ascii ':'] := Jwt.bytesOf_ascii (by simp)
    rw [writeMembers, writtenMembers, ← ih, ← bytesOf_writeText, comma, ← hcomma, ← hcolon]
    simp only [← Jwt.bytesOf_append]
    simp

theorem bytesOf_writeObject (ms : List (String × Doc)) : Jwt.bytesOf (write (.object ms)) =
    ascii '\x7b' :: (writtenMembers true ms ++ [ascii '\x7d']) := by
  have hopen : Jwt.bytesOf ['\x7b'] = [ascii '\x7b'] := Jwt.bytesOf_ascii (by simp)
  have hclose : Jwt.bytesOf ['\x7d'] = [ascii '\x7d'] := Jwt.bytesOf_ascii (by simp)
  rw [← List.singleton_append, ← hopen, ← hclose]
  cases ms with
  | nil =>
    rw [write, writtenMembers, List.nil_append, ← Jwt.bytesOf_append]
    rfl
  | cons m ms =>
    obtain ⟨k, v⟩ := m
    have hcolon : Jwt.bytesOf [':'] = [ascii ':'] := Jwt.bytesOf_ascii (by simp)
    rw [write, writtenMembers, ← bytesOf_writeMembers, ← bytesOf_writeText, comma, List.nil_append,
      ← hcolon]
    simp only [← Jwt.bytesOf_append]
    simp

theorem numberEnd_of_head {t : List UInt8} {b : UInt8} (h : t.head? = some b)
    (hb : b = ascii ',' ∨ b = ascii '\x7d') : NumberEnd t := by
  refine ⟨fun b' h' => ?_, fun b' h' => ?_⟩
  · obtain rfl := Option.some.inj (h.symm.trans h')
    rcases hb with rfl | rfl <;> decide
  · obtain rfl := Option.some.inj (h.symm.trans h')
    rcases hb with rfl | rfl <;> decide

/-- Written members are read along a chain. -/
theorem chain_of_fills {d d' : σ} {ms : List (String × Doc)} (h : Fills r d ms d') {first : Bool}
    {c c' : Cursor} (hpast : c.Past (writtenMembers first ms) c')
    (hclose : c'.rest.head? = some (ascii '\x7d')) : ∃ steps, Chain r first d c steps d' c' := by
  induction h generalizing first c with
  | nil =>
    rw [writtenMembers] at hpast
    obtain rfl := (Cursor.Past.refl c).unique hpast
    exact ⟨[], .close (nextKey_close first hclose)⟩
  | cons htakes _ ih =>
    rename_i key v d₁ ms d' _
    rw [writtenMembers] at hpast
    obtain ⟨c₁, hkey, hpast⟩ := hpast.split
    obtain ⟨c₂, hcolon, hpast⟩ := hpast.split
    obtain ⟨c₃, hvalue, hpast⟩ := hpast.split
    have hend : NumberEnd c₃.rest := by
      cases ms with
      | nil =>
        refine numberEnd_of_head (b := ascii '\x7d') ?_ (.inr rfl)
        rw [writtenMembers] at hpast
        rw [hpast.1]
        exact hclose
      | cons m ms =>
        refine numberEnd_of_head (b := ascii ',') ?_ (.inl rfl)
        rw [hpast.1]
        rfl
    obtain ⟨steps, hsteps⟩ := ih hpast
    have hwritten := nextKey_past .nil (separator_comma first) (Body.writeText key.toList) hkey
    exact ⟨_, .member hwritten
      (readColon_past .nil hcolon) (htakes c₂ c₃ hvalue hend) hsteps⟩

/-- **A record is read from a document whose members fill it.** -/
theorem readAll_written (hr : r.Forward) {ms : List (String × Doc)} {d : σ} {a : α}
    (h : Fills r r.start ms d) (hfinish : r.finish d = .ok a) :
    readAll r.read (Jwt.bytesOf (write (.object ms))) = .ok a := by
  rw [bytesOf_writeObject]
  have hall := Cursor.past_start (ascii '\x7b' :: (writtenMembers true ms ++ [ascii '\x7d']))
  obtain ⟨hopen, hnext⟩ := hall.next
  obtain ⟨c₁, hmembers, hlast⟩ := hnext.split
  have hskip := skipSpace_of_head hopen (by decide)
  obtain ⟨steps, hchain⟩ := chain_of_fills h hmembers hlast.next.1
  have hread : r.read (Cursor.start _) = .ok (a, c₁.next) :=
    read_of_chain hr (by rw [hskip]; exact hopen) (by rw [hskip]; exact hchain) hfinish
  have hend : c₁.next.rest = [] := by rw [hlast.next.2.1, List.append_nil]
  rw [readAll, hread, ok_bind]
  simp only [atEnd, Cursor.skipSpace, hend, skipFrom, List.isEmpty_nil, if_true]
  rfl

end Record

end Gatehouse.Json
