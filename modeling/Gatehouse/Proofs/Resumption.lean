/-
  Gatehouse — where a lenient reader goes on.

  A lenient reader that meets a value of another form goes on where the fault showed. Behind a
  string that is well-formed but spells nothing, that is inside of the string.

  * `left_of_readString`: a string that is not read is left at its end or inside of it;
  * `Jwt.resumed_of_readSeconds`: other values are left at their end, or where no member of the
    object can follow.
-/
import Gatehouse.Proofs.AccessTokens
import Gatehouse.Proofs.JsonQuotes

namespace Gatehouse

namespace Json

/-! ## Strings that spell nothing -/

/-- What is left of a text where a string was left: all that follows the string, or some of the
    string too. -/
def Left (rest t : List UInt8) : Prop :=
  t = rest ∨ ∃ raw, Loose raw ∧ t = raw ++ ascii '"' :: rest

theorem left_of_scanString {rest : List UInt8} {e : Error} (n : Nat) {raw : List UInt8}
    (hn : raw.length ≤ n) (hraw : Loose raw) {offset : Nat} {acc : List UInt8}
    (h : scanString offset acc (raw ++ ascii '"' :: rest) = .error e) :
    ∃ x t, Cursor.Past ⟨raw ++ ascii '"' :: rest, offset⟩ x ⟨t, e.offset⟩ ∧ Left rest t := by
  induction n using Nat.strongRecOn generalizing raw offset acc with
  | _ n ih =>
  have step : ∀ {x raw' acc'}, raw = x ++ raw' → x ≠ [] → Loose raw' →
      scanString (offset + x.length) acc' (raw' ++ ascii '"' :: rest) = .error e →
      ∃ x t, Cursor.Past ⟨raw ++ ascii '"' :: rest, offset⟩ x ⟨t, e.offset⟩ ∧ Left rest t := by
    intro x raw' acc' hx hne hloose h
    have := List.length_pos_iff.2 hne
    rw [hx, List.length_append] at hn
    obtain ⟨x', t, hpast, hleft⟩ := ih raw'.length (by omega) (Nat.le_refl _) hloose h
    have hfirst : Cursor.Past ⟨raw ++ ascii '"' :: rest, offset⟩ x
        ⟨raw' ++ ascii '"' :: rest, offset + x.length⟩ := ⟨by rw [hx, List.append_assoc], rfl⟩
    exact ⟨_, t, hfirst.trans hpast, hleft⟩
  have stop : ∀ {x raw' fault}, raw = x ++ raw' → Loose raw' →
      ({ fault, offset := offset + x.length } : Error) = e →
      ∃ x t, Cursor.Past ⟨raw ++ ascii '"' :: rest, offset⟩ x ⟨t, e.offset⟩ ∧ Left rest t := by
    rintro x raw' fault hx hloose rfl
    exact ⟨x, _, ⟨by rw [hx, List.append_assoc], rfl⟩, .inr ⟨raw', hloose, rfl⟩⟩
  cases hraw with
  | nil =>
    simp at h
  | @plain b raw h₁ h₂ h₃ hraw =>
    rw [List.cons_append, scanString.eq_def] at h
    simp only [h₁, h₂, h₃, if_false] at h
    exact step (x := [b]) rfl (by simp) hraw h
  | @escape e' b raw he hraw =>
    simp only [List.cons_append] at h
    rw [scanString.eq_def] at h
    simp only [backslash_ne_quote, ne_u_of_escape he, he, if_false, if_true] at h
    exact step (x := [ascii '\\', e']) rfl (by simp) hraw h
  | @code p q r s k raw hk hraw =>
    simp only [List.cons_append] at h
    rw [scanString.eq_def] at h
    simp only [backslash_ne_quote, hk, if_false, if_true] at h
    split_ifs at h with hlow hhigh
    · cases h
      exact stop (x := [ascii '\\', ascii 'u', p, q, r, s]) rfl hraw rfl
    · -- the second half of a pair is due
      have hquote : ascii '"' ≠ ascii '\\' := by decide
      cases hraw with
      | nil =>
        simp only [List.nil_append, hquote, if_false] at h
        cases h
        refine ⟨[ascii '\\', ascii 'u', p, q, r, s, ascii '"'], rest, ⟨rfl, rfl⟩, .inl rfl⟩
      | @plain b raw h₁ h₂ h₃ hraw =>
        simp only [List.cons_append, h₂, if_false] at h
        cases h
        exact stop (x := [ascii '\\', ascii 'u', p, q, r, s, b]) rfl hraw rfl
      | @escape e' b raw he hraw =>
        simp only [List.cons_append, ne_u_of_escape he, if_true, if_false] at h
        cases h
        exact stop (x := [ascii '\\', ascii 'u', p, q, r, s, ascii '\\', e']) rfl hraw rfl
      | @code p' q' r' s' m raw hm hraw =>
        simp only [List.cons_append, if_true, hm] at h
        split_ifs at h with hlow'
        · exact step
            (x := [ascii '\\', ascii 'u', p, q, r, s, ascii '\\', ascii 'u', p', q', r', s'])
            rfl (by simp) hraw h
        · cases h
          exact stop
            (x := [ascii '\\', ascii 'u', p, q, r, s, ascii '\\', ascii 'u', p', q', r', s'])
            rfl hraw rfl
    · exact step (x := [ascii '\\', ascii 'u', p, q, r, s]) rfl (by simp) hraw h

/-- The count stops at the end, or in front of a byte that is not ASCII. -/
theorem wellFormedPrefixLength_spec (n : Nat) (bytes : List UInt8) :
    ∃ x t, bytes = x ++ t ∧ Text.wellFormedPrefixLength n bytes = n + x.length ∧
      ∀ b, t.head? = some b → ¬ b < 0x80 := by
  have stop : ∀ {n : Nat} {a : UInt8} {t : List UInt8}, ¬ a < 0x80 → ∃ x t', a :: t = x ++ t' ∧
      n = n + x.length ∧ ∀ b, t'.head? = some b → ¬ b < 0x80 := by
    intro n a t ha
    refine ⟨[], a :: t, rfl, rfl, ?_⟩
    rintro b ⟨⟩
    exact ha
  have step : ∀ {n m : Nat} (first : List UInt8) {t : List UInt8}, (∃ x t', t = x ++ t' ∧
      m = n + first.length + x.length ∧ ∀ b, t'.head? = some b → ¬ b < 0x80) →
      ∃ x t', first ++ t = x ++ t' ∧ m = n + x.length ∧ ∀ b, t'.head? = some b → ¬ b < 0x80 := by
    rintro n m first t ⟨x, t', rfl, rfl, hhead⟩
    exact ⟨first ++ x, t', (List.append_assoc _ _ _).symm,
      by rw [List.length_append, Nat.add_assoc], hhead⟩
  fun_induction Text.wellFormedPrefixLength n bytes with
  | case1 n => exact ⟨[], [], rfl, rfl, by simp⟩
  | case2 n a rest ha ih => exact step [a] ih
  | case4 n a ha b rest _ ih => exact step [a, b] ih
  | case6 n a ha b _ c rest _ ih => exact step [a, b, c] ih
  | case8 n a ha b _ c _ d rest _ ih => exact step [a, b, c, d] ih
  | _ => exact stop ‹_›

theorem ascii_of_hexValue {b : UInt8} {n : Nat} (h : hexValue? b = some n) : b < 0x80 := by
  have hall : ∀ k < 256, 128 ≤ k → hexValue? (UInt8.ofNat k) = none := by decide +kernel
  by_contra hb
  have hb : 128 ≤ b.toNat := by simpa [UInt8.lt_iff_toNat_lt] using hb
  have := hall b.toNat b.toNat_lt hb
  rw [UInt8.ofNat_toNat, h] at this
  cases this

theorem ascii_of_escapeByte {e b : UInt8} (h : escapeByte? e = some b) : e < 0x80 := by
  unfold escapeByte? at h
  split_ifs at h with h₁ h₂ h₃ h₄ h₅ h₆
  · rcases h₁ with rfl | rfl | rfl <;> decide
  · subst h₂; decide
  · subst h₃; decide
  · subst h₄; decide
  · subst h₅; decide
  · subst h₆; decide

/-- Behind a byte that is not ASCII the string goes on. -/
theorem Loose.behind {x t : List UInt8} {b : UInt8} (hb : ¬ b < 0x80) (h : Loose (x ++ b :: t)) :
    Loose t := by
  generalize htext : x ++ b :: t = text at h
  induction h generalizing x with
  | nil => simp at htext
  | plain _ _ _ hraw ih =>
    cases x with
    | nil =>
      cases htext
      exact hraw
    | cons a x =>
      rw [List.cons_append, List.cons.injEq] at htext
      exact ih htext.2
  | escape he _ ih =>
    rcases x with _ | ⟨_, _ | ⟨_, x⟩⟩
    · cases htext
      exact absurd (by decide) hb
    · cases htext
      exact absurd (ascii_of_escapeByte he) hb
    · simp only [List.cons_append, List.cons.injEq] at htext
      exact ih htext.2.2
  | code hn _ ih =>
    simp only [hexFour?, Option.bind_eq_bind, Option.bind_eq_some_iff] at hn
    obtain ⟨_, hp, _, hq, _, hr, _, hs, -⟩ := hn
    -- the byte is one of the six of the escape, or it comes after them
    rcases x with _ | ⟨_, _ | ⟨_, _ | ⟨_, _ | ⟨_, _ | ⟨_, _ | ⟨_, x⟩⟩⟩⟩⟩⟩
    · cases htext
      exact absurd (by decide) hb
    · cases htext
      exact absurd (by decide) hb
    · cases htext
      exact absurd (ascii_of_hexValue hp) hb
    · cases htext
      exact absurd (ascii_of_hexValue hq) hb
    · cases htext
      exact absurd (ascii_of_hexValue hr) hb
    · cases htext
      exact absurd (ascii_of_hexValue hs) hb
    · simp only [List.cons_append, List.cons.injEq] at htext
      exact ih htext.2.2.2.2.2.2

/-- **A string that is not read is left at its end or inside of it.** -/
theorem left_of_readString {c c' : Cursor} (hskip : skipString c.offset c.rest = .ok c') {e : Error}
    (h : readString c = .error e) : ∃ x t, c.Past x ⟨t, e.offset⟩ ∧ Left c'.rest t := by
  obtain ⟨raw, hraw, hoff, hloose⟩ := loose_of_skipString hskip
  obtain ⟨rest, offset⟩ := c
  simp only at hraw hoff
  subst hraw
  rw [readString] at h
  cases hscan : scanString offset [] (raw ++ ascii '"' :: c'.rest) with
  | error e' =>
    rw [hscan] at h
    cases h
    exact left_of_scanString raw.length (Nat.le_refl _) hloose hscan
  | ok x =>
    obtain ⟨bytes, after⟩ := x
    obtain ⟨raw', content, hraw', -, hoff', hbody⟩ := body_of_scanString hscan
    -- both readers see the same end of the string
    have hafter : after = c' := by
      have := skipString_loose hbody.loose after.rest offset
      rw [← hraw', hskip, ← hoff'] at this
      exact (Except.ok.inj this).symm
    subst hafter
    simp only [hscan, ok_bind] at h
    split at h
    · cases h
    · cases h
      have htake : (raw ++ ascii '"' :: after.rest).take (after.offset - offset - 1) = raw := by
        rw [hoff, Nat.add_assoc, Nat.add_sub_cancel_left, Nat.add_sub_cancel, List.take_left]
      obtain ⟨x, t, hx, hlen, hhead⟩ := wellFormedPrefixLength_spec offset raw
      simp only [htake, hlen]
      cases t with
      | nil =>
        rw [List.append_nil] at hx
        subst hx
        exact ⟨raw ++ [ascii '"'], after.rest, ⟨by simp, by simp; omega⟩, .inl rfl⟩
      | cons b t =>
        subst hx
        refine ⟨x ++ [b], t ++ ascii '"' :: after.rest, ⟨by simp, by simp; omega⟩,
          .inr ⟨t, ?_, rfl⟩⟩
        exact hloose.behind (hhead b rfl)

/-! ## Values of another form -/

/-- Where a lenient reader goes on with an object after a value that ends at a place: there, where
    no member and no end of the object can follow, or inside of a string. -/
inductive Resumed (c' c'' : Cursor) : Prop
  | behind : c'' = c' → Resumed c' c''
  | lost : (∀ x, nextKey false c'' ≠ .ok x) → Resumed c' c''
  | inside {raw} : Loose raw → c''.rest = raw ++ ascii '"' :: c'.rest → Resumed c' c''

theorem resumed_of_head {c' c : Cursor} {b : UInt8} (h : c.rest.head? = some b)
    (hspace : isSpace b = false) (hcomma : b ≠ ascii ',') (hclose : b ≠ ascii '\x7d') :
    Resumed c' c := by
  refine .lost fun x hx => ?_
  have hskip := skipSpace_of_head h hspace
  rw [nextKey_eq false (by rw [hskip]; exact h), if_neg hclose, hskip, passComma, h,
    if_neg fun hand => hcomma (Option.some.inj hand.1), if_neg (by decide)] at hx
  cases hx

theorem Cursor.Past.eq_of_rest {c c' c'' : Cursor} {raw raw' : List UInt8} (h : c.Past raw c')
    (h' : c.Past raw' c'') (hrest : c''.rest = c'.rest) : c'' = c' := by
  have hraw : raw' = raw := by
    have := h'.1.symm.trans h.1
    rw [hrest] at this
    exact List.append_cancel_right this
  rw [hraw] at h'
  exact h'.unique h

theorem DigitRun.head {raw : List UInt8} (h : DigitRun raw) : ∃ b t, raw = b :: t ∧
    (digit? b).isSome := by
  obtain ⟨hne, hall⟩ := h
  cases raw with
  | nil => exact absurd rfl hne
  | cons b t => exact ⟨b, t, rfl, hall b List.mem_cons_self⟩

theorem Numeral.head {raw : List UInt8} (h : Numeral raw) :
    ∃ b t, raw = b :: t ∧ (digit? b).isSome := by
  cases h with
  | mk hw =>
    obtain ⟨b, t, rfl, hb⟩ := hw.1.head
    exact ⟨b, _, rfl, hb⟩

theorem ne_of_digit {a b : UInt8} (ha : (digit? a).isSome = false) (hb : (digit? b).isSome) :
    b ≠ a := by
  rintro rfl
  rw [ha] at hb
  cases hb

/-- A value starts with none of the bytes between values. -/
theorem Forms.head {v : List UInt8} (h : Forms .value v) : ∃ b t, v = b :: t ∧
    isSpace b = false ∧ b ≠ ascii ',' ∧ b ≠ ascii ']' ∧ b ≠ ascii '\x7d' := by
  cases h with
  | word hw =>
    simp only [List.mem_cons, List.not_mem_nil, or_false] at hw
    rcases hw with rfl | rfl | rfl <;> exact ⟨_, _, rfl, by decide⟩
  | number hn =>
    obtain ⟨b, t, rfl, hdigit⟩ := hn.head
    exact ⟨b, t, rfl, not_space_of_digit hdigit, ne_of_digit (by decide) hdigit,
      ne_of_digit (by decide) hdigit, ne_of_digit (by decide) hdigit⟩
  | negative => exact ⟨_, _, rfl, by decide⟩
  | text => exact ⟨_, _, rfl, by decide⟩
  | @compound frame =>
    refine ⟨_, _, rfl, ?_⟩
    cases frame <;> decide

/-- The first byte behind the opening of a list or an object: its closing, or that of an entry. -/
theorem Forms.opened {frame : Frame} {raw : List UInt8} (h : Forms (.rest frame true) raw)
    {c c' : Cursor} (hpast : c.Past raw c') :
    c.skipSpace.Past [frame.closing] c' ∨ ∃ b, c.skipSpace.rest.head? = some b ∧
      isSpace b = false ∧ b ≠ ascii ',' ∧ b ≠ frame.closing ∧ b ≠ ascii '\x7d' ∧
      (frame = .object → b = ascii '"') := by
  cases h with
  | close hs => exact .inl (past_skipSpace_of_spaces hs (by cases frame <;> decide) hpast)
  | @entry _ _ s sep label s' v raw' hs hsep hlabel hs' hv _ =>
    right
    cases hsep
    cases hlabel with
    | list =>
      obtain ⟨b, t, rfl, hspace, hcomma, hlist, hobject⟩ := hv.head
      have hskip := past_skipSpace_of_spaces (t := t ++ raw') (hs.append hs') hspace
        (by simpa using hpast)
      exact ⟨b, hskip.next.1, hspace, hcomma, hlist, hobject, nofun⟩
    | @object raw s₁ _ _ =>
      have hskip := past_skipSpace_of_spaces (b := ascii '"')
        (t := raw ++ ascii '"' :: (s₁ ++ ascii ':' :: (s' ++ (v ++ raw')))) hs (by decide)
        (by simpa using hpast)
      exact ⟨_, hskip.next.1, by decide, by decide, by decide, by decide, fun _ => rfl⟩

/-- A word of another form is left at its end. -/
theorem mismatch_word {w : String} (hw : w ∈ ["null", "true", "false"]) {c c' : Cursor}
    (hpast : c.Past (w.toList.map ascii) c') (expected : String) :
    ∃ found, mismatch c expected = c'.here (.invalidType found expected) := by
  have word : ∀ (a : Char) (tail : String), c.Past (ascii a :: tail.toList.map ascii) c' →
      (∃ t, c.rest = ascii a :: t) ∧ readWord tail.toList c.next = .ok c' := fun _ _ h =>
    ⟨cons_of_head? h.next.1, readWord_past h.next.2⟩
  simp only [List.mem_cons, List.not_mem_nil, or_false] at hw
  rcases hw with rfl | rfl | rfl
  · obtain ⟨⟨t, ht⟩, hword⟩ := word 'n' "ull" hpast
    refine ⟨.null, ?_⟩
    simp only [mismatch, ht]
    rw [if_pos trivial, hword]
  · obtain ⟨⟨t, ht⟩, hword⟩ := word 't' "rue" hpast
    refine ⟨.bool true, ?_⟩
    simp only [mismatch, ht]
    rw [if_neg (by decide), if_pos trivial, hword]
  · obtain ⟨⟨t, ht⟩, hword⟩ := word 'f' "alse" hpast
    refine ⟨.bool false, ?_⟩
    simp only [mismatch, ht]
    rw [if_neg (by decide), if_neg (by decide), if_pos trivial, hword]

/-- A string of another form is read. -/
theorem mismatch_quote {c : Cursor} (h : c.rest.head? = some (ascii '"')) (expected : String) :
    mismatch c expected = match readString c.next with
      | .ok (s, after) => after.here (.invalidType (.text s) expected)
      | .error e => e := by
  obtain ⟨t, ht⟩ := cons_of_head? h
  simp only [mismatch, ht]
  rw [if_neg (by decide), if_neg (by decide), if_neg (by decide), if_neg (by decide)]
  exact if_pos trivial

end Json

namespace Jwt

open Json

/-- A number as one of seconds. -/
def secondsOf : Number × Cursor → Except Json.Error (Int × Cursor)
  | (.natural n, after) => .ok (n, after)
  | (n, after) => .error (after.here (.invalidType n.found "seconds"))

/-- What is made of a value depends on its first byte. -/
theorem readSeconds_eq {c : Cursor} {b : UInt8} (hb : c.skipSpace.rest.head? = some b) :
    Signer.readSeconds c =
      if b = ascii '-' ∨ (digit? b).isSome then readNumber c.skipSpace >>= secondsOf
      else if b = ascii '[' then .error ((endList c.skipSpace.next).2.here .noValue)
      else if b = ascii '\x7b' then .error ((endObject c.skipSpace.next).2.here .noValue)
      else .error (mismatch c.skipSpace "seconds") := by
  rw [Signer.readSeconds, atValue_of_some hb, ok_bind, hb]
  simp only [Option.any_some, Bool.or_eq_true, decide_eq_true_eq, Option.some.injEq]
  split_ifs
  · congr 1
  · rfl
  · rfl
  · rfl

/-- The search for the end of a list stops behind its closing. -/
theorem endList_at_closing {c c' : Cursor} (h : c.skipSpace.Past [ascii ']'] c') :
    (endList c).2 = c' := by
  obtain ⟨t, ht⟩ := cons_of_head? h.next.1
  rw [endList]
  simp only [ht, if_true]
  exact (Cursor.past_next h.next.1).unique h

/-- The search for the end of a list stops in front of an entry. -/
theorem endList_at_entry {c : Cursor} {b : UInt8} (hb : c.skipSpace.rest.head? = some b)
    (hcomma : b ≠ ascii ',') (hclose : b ≠ ascii ']') : (endList c).2 = c.skipSpace := by
  obtain ⟨t, ht⟩ := cons_of_head? hb
  rw [endList]
  simp only [ht, hcomma, hclose, if_false]

/-- The search for the end of an object stops behind its closing. -/
theorem endObject_at_closing {c c' : Cursor} (h : c.skipSpace.Past [ascii '\x7d'] c') :
    (endObject c).2 = c' := by
  obtain ⟨t, ht⟩ := cons_of_head? h.next.1
  rw [endObject]
  simp only [ht, if_true]
  exact (Cursor.past_next h.next.1).unique h

/-- The search for the end of an object stops in front of an entry. -/
theorem endObject_at_entry {c : Cursor} {b : UInt8} (hb : c.skipSpace.rest.head? = some b)
    (hcomma : b ≠ ascii ',') (hclose : b ≠ ascii '\x7d') : (endObject c).2 = c.skipSpace := by
  obtain ⟨t, ht⟩ := cons_of_head? hb
  rw [endObject]
  simp only [ht, hcomma, hclose, if_false]

/-- Both readers of strings that do not fail see the same end. -/
theorem end_of_readString {c c' after : Cursor} {s : String}
    (hskip : skipString c.offset c.rest = .ok c') (h : readString c = .ok (s, after)) :
    after = c' := by
  obtain ⟨raw, bs, hpast, hbody, -⟩ := body_of_readString h
  exact Except.ok.inj ((skipString_past hbody.loose hpast).symm.trans hskip)

section

variable {c c' c'' : Cursor} {n : Option Int} (hskip : skipValue c = .ok c')
  (h : readLeniently Signer.readSeconds c = .ok (n, c''))

include h

/-- Where the fault shows behind a place, reading goes on there. -/
theorem place_of_fault {e : Json.Error} {raw : List UInt8} {c₁ : Cursor}
    (he : Signer.readSeconds c = .error e) (h₁ : c.skipSpace.Past raw c₁)
    (hoff : e.offset = c₁.offset) : c'' = c₁ := by
  obtain ⟨s, -, hspace, -⟩ := past_skipSpace c
  rw [readLeniently, he] at h
  cases h
  rw [hoff]
  exact (hspace.trans h₁).advance

/-- A list or an object is left at its end if it is empty, and in front of its first entry
    otherwise. -/
theorem resumed_of_compound {frame : Frame} {raw : List UInt8}
    (hopened : Forms (.rest frame true) raw)
    (hpast : c.skipSpace.Past (frame.opening :: raw) c') : Resumed c' c'' := by
  obtain ⟨hopen, hnext⟩ := hpast.next
  obtain ⟨s', -, hspace', -⟩ := past_skipSpace c.skipSpace.next
  have hentry := (Cursor.past_next hopen).trans hspace'
  cases frame with
  | list =>
    have hread := readSeconds_eq hopen
    rw [if_neg (by decide), if_pos (by decide)] at hread
    rcases hopened.opened hnext with hclose | ⟨b, hb, hbspace, hcomma, hclosing, hbrace, -⟩
    · exact .behind (place_of_fault h hread hpast
        (congrArg Cursor.offset (endList_at_closing hclose)))
    · rw [place_of_fault h hread hentry
        (congrArg Cursor.offset (endList_at_entry hb hcomma hclosing))]
      exact resumed_of_head hb hbspace hcomma hbrace
  | object =>
    have hread := readSeconds_eq hopen
    rw [if_neg (by decide), if_neg (by decide), if_pos (by decide)] at hread
    rcases hopened.opened hnext with hclose | ⟨b, hb, hbspace, hcomma, hclosing, hbrace, -⟩
    · exact .behind (place_of_fault h hread hpast
        (congrArg Cursor.offset (endObject_at_closing hclose)))
    · rw [place_of_fault h hread hentry
        (congrArg Cursor.offset (endObject_at_entry hb hcomma hclosing))]
      exact resumed_of_head hb hbspace hcomma hbrace

include hskip

/-- A number that is none of seconds is left at its end, or in front of a digit of it. -/
theorem resumed_of_number {b : UInt8} {t : List UInt8} (hpast : c.skipSpace.Past (b :: t) c')
    (hb : b = ascii '-' ∨ (digit? b).isSome) : Resumed c' c'' := by
  have hagree := agree_number hpast.next.1 hb
  have hread := readSeconds_eq hpast.next.1
  rw [if_pos hb] at hread
  cases hnumber : readNumber c.skipSpace with
  | error e =>
    rw [hnumber] at hread
    obtain ⟨raw, c₁, h₁, hoff, hend⟩ := hagree.error e c' hnumber hskip
    rw [place_of_fault h hread h₁ hoff]
    rcases hend with rfl | ⟨d, hd, hdigit⟩
    · exact .behind rfl
    · exact resumed_of_head hd (not_space_of_digit hdigit) (ne_of_digit (by decide) hdigit)
        (ne_of_digit (by decide) hdigit)
  | ok x =>
    obtain ⟨x, after⟩ := x
    obtain rfl : after = c' := Except.ok.inj ((hagree.ok x after hnumber).symm.trans hskip)
    rw [hnumber, ok_bind] at hread
    cases x with
    | natural k =>
      rw [secondsOf] at hread
      rw [readLeniently_of_ok hread] at h
      cases h
      exact .behind rfl
    | negative k => exact .behind (place_of_fault h hread hpast rfl)
    | real r => exact .behind (place_of_fault h hread hpast rfl)

/-- A string is left at its end or inside of it. -/
theorem resumed_of_text {raw : List UInt8} (hpast : c.skipSpace.Past (ascii '"' :: raw) c') :
    Resumed c' c'' := by
  have hquote := hpast.next.1
  rw [skipValue_quote hquote] at hskip
  have hread : Signer.readSeconds c = .error (mismatch c.skipSpace "seconds") :=
    readSeconds_eq hquote
  rw [mismatch_quote hquote] at hread
  cases hstring : readString c.skipSpace.next with
  | ok x =>
    obtain ⟨s, after⟩ := x
    rw [hstring] at hread
    obtain rfl := end_of_readString hskip hstring
    exact .behind (place_of_fault h hread hpast rfl)
  | error e =>
    rw [hstring] at hread
    obtain ⟨x, t', hx, hleft⟩ := left_of_readString hskip hstring
    have hplace := (Cursor.past_next hquote).trans hx
    rw [place_of_fault h hread hplace rfl]
    rcases hleft with hleft | ⟨raw, hraw, hleft⟩
    · exact .behind (hpast.eq_of_rest hplace hleft)
    · exact .inside hraw hleft

/-- **A value that is no number of seconds** is left at its end, where no member of the object can
    follow, or inside of a string. -/
theorem resumed_of_readSeconds : Resumed c' c'' := by
  obtain ⟨v, hpast, hv⟩ := forms_of_skipValue hskip
  cases hv with
  | word hw =>
    obtain ⟨found, hfault⟩ := mismatch_word hw hpast "seconds"
    refine .behind (place_of_fault h ?_ hpast (congrArg Json.Error.offset hfault))
    simp only [List.mem_cons, List.not_mem_nil, or_false] at hw
    rcases hw with rfl | rfl | rfl
    · exact readSeconds_eq (b := ascii 'n') hpast.next.1
    · exact readSeconds_eq (b := ascii 't') hpast.next.1
    · exact readSeconds_eq (b := ascii 'f') hpast.next.1
  | number hn =>
    obtain ⟨b, t, rfl, hdigit⟩ := hn.head
    exact resumed_of_number hskip h hpast (.inr hdigit)
  | negative => exact resumed_of_number hskip h hpast (.inl rfl)
  | text => exact resumed_of_text hskip h hpast
  | compound hopened => exact resumed_of_compound h hopened hpast

end

/-- A text that is read is no number of seconds, and is left at its end. -/
theorem readSeconds_of_readText {t : String} {c c' : Cursor} (h : readText c = .ok (t, c')) :
    readLeniently Signer.readSeconds c = .ok (none, c') := by
  obtain ⟨-, raw, hpast, hbody⟩ := skipValue_of_readText h
  obtain ⟨hquote, hnext⟩ := hpast.next
  obtain ⟨s, -, hspace, -⟩ := past_skipSpace c
  have hread : Signer.readSeconds c = .error (mismatch c.skipSpace "seconds") :=
    readSeconds_eq hquote
  rw [mismatch_quote hquote, readString_past hbody hnext] at hread
  rw [readLeniently, hread]
  simp only [Cursor.here, (hspace.trans hpast).advance]

end Jwt

end Gatehouse
