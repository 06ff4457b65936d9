/-
  Gatehouse — the only reading of a JSON text.

  The grammar tells of no more values than are passed over: a value that is followed by what may
  stand behind one is passed over to its end, and so ends there only.

  * `skipUnsigned_numeral`: a numeral is passed over;
  * `skipSteps_of_forms`, `skipValue_of_forms`: so is every value, in fewer steps than there is
    fuel for;
  * `Object.unique`: a text is an object of these members and of no others;
  * `Spells.unique`: a text spells one document only.
-/
import Gatehouse.Proofs.JsonObjects
import Gatehouse.Proofs.Resumption

namespace Gatehouse.Json

/-! ## Numbers -/

/-- What may stand behind a value ends a number. -/
theorem Follows.numberEnd {t : List UInt8} (h : Follows t) : NumberEnd t := by
  have hall : ∀ b : UInt8, isSpace b = true ∨ b ∈ [ascii ',', ascii ':', ascii ']', ascii '\x7d'] →
      digit? b = none ∧ b ≠ ascii '.' ∧ b ≠ ascii 'e' ∧ b ≠ ascii 'E' := by
    intro b hb
    rcases hb with hb | hb
    · simp only [isSpace, Bool.or_eq_true, decide_eq_true_eq] at hb
      rcases hb with ((rfl | rfl) | rfl) | rfl <;> decide
    · simp only [List.mem_cons, List.not_mem_nil, or_false] at hb
      rcases hb with rfl | rfl | rfl | rfl <;> decide
  exact ⟨fun b hb => (hall b (h b hb)).1, fun b hb => (hall b (h b hb)).2⟩

/-- A run of digits is one of their values. -/
theorem DigitRun.exists_digits {raw : List UInt8} (h : DigitRun raw) :
    ∃ ds : List Nat, raw = ds.map digitByte ∧ ∀ d ∈ ds, d < 10 := by
  obtain ⟨-, hall⟩ := h
  induction raw with
  | nil => exact ⟨[], rfl, by simp⟩
  | cons b raw ih =>
    obtain ⟨d, hd⟩ := Option.isSome_iff_exists.1 (hall b List.mem_cons_self)
    obtain ⟨hlt, rfl⟩ := digitByte_of_digit hd
    obtain ⟨ds, rfl, hds⟩ := ih fun x hx => hall x (List.mem_cons_of_mem _ hx)
    exact ⟨d :: ds, rfl, List.forall_mem_cons.2 ⟨hlt, hds⟩⟩

/-- A run of digits is taken as a whole. -/
theorem DigitRun.taken {raw : List UInt8} (h : DigitRun raw) {c c' : Cursor} (hpast : c.Past raw c')
    (hend : NoDigit c'.rest) : ∃ ds, ds ≠ [] ∧ takeDigits c = (ds, c') := by
  obtain ⟨ds, rfl, hds⟩ := h.exists_digits
  exact ⟨ds, by simpa using h.1, takeDigits_digits hds hpast hend⟩

theorem DigitRun.skipped {raw : List UInt8} (h : DigitRun raw) {c c' : Cursor}
    (hpast : c.Past raw c') (hend : NoDigit c'.rest) : skipDigits c = c' := by
  obtain ⟨ds, -, htake⟩ := h.taken hpast hend
  rw [skipDigits, htake]

/-- An exponent goes on with no digit. -/
theorem Exponent.noDigit {e t : List UInt8} (h : Exponent e) (ht : NumberEnd t) :
    NoDigit (e ++ t) := by
  cases h with
  | none => exact ht.1
  | some hletter =>
    rintro b ⟨⟩
    rcases hletter with rfl | rfl <;> decide

theorem Fraction.noDigit {f e t : List UInt8} (h : Fraction f) (he : Exponent e)
    (ht : NumberEnd t) : NoDigit (f ++ (e ++ t)) := by
  cases h with
  | none => exact he.noDigit ht
  | some =>
    rintro b ⟨⟩
    decide

/-- A sign is passed over. -/
theorem skipSign_past {sign ds : List UInt8} (hsign : sign ∈ [[], [ascii '-'], [ascii '+']])
    (hds : DigitRun ds) {c c' : Cursor} (h : c.Past (sign ++ ds) c') :
    (skipSign c).Past ds c' := by
  obtain ⟨b, t, rfl, hb⟩ := hds.head
  have signed : ∀ a : UInt8, (a = ascii '-' ∨ a = ascii '+') → c.Past (a :: b :: t) c' →
      (skipSign c).Past (b :: t) c' := by
    intro a ha h
    obtain ⟨x, hx⟩ := cons_of_head? h.next.1
    rw [skipSign, hx]
    simp only
    rw [if_pos ha]
    exact h.next.2
  simp only [List.mem_cons, List.not_mem_nil, or_false] at hsign
  rcases hsign with rfl | rfl | rfl
  · obtain ⟨x, hx⟩ := cons_of_head? h.next.1
    have hno : ¬ (b = ascii '-' ∨ b = ascii '+') := by
      rintro (rfl | rfl) <;> exact absurd hb (by decide)
    rw [skipSign, hx]
    simp only
    rw [if_neg hno]
    exact h
  · exact signed _ (.inl rfl) h
  · exact signed _ (.inr rfl) h

theorem skipExponent_past {e : List UInt8} (he : Exponent e) {c c' : Cursor} (h : c.Past e c')
    (hend : NumberEnd c'.rest) : skipExponent c = .ok c' := by
  cases he with
  | none =>
    obtain rfl := (Cursor.Past.refl c).unique h
    rw [skipExponent, atExponent_end hend, if_neg (by decide)]
  | @some b sign ds hletter hsign hds =>
    have hsigned := skipSign_past hsign hds h.next.2
    obtain ⟨a, t, rfl, ha⟩ := hds.head
    obtain ⟨x, hx⟩ := cons_of_head? hsigned.next.1
    rw [skipExponent_of_letter (atExponent_of_letter hletter h), hx]
    simp only
    rw [if_pos ha, hds.skipped hsigned hend.1]

theorem skipTail_past {f e : List UInt8} (hf : Fraction f) (he : Exponent e) {c c' : Cursor}
    (h : c.Past (f ++ e) c') (hend : NumberEnd c'.rest) : skipTail c = .ok c' := by
  cases hf with
  | none =>
    have hskip := skipExponent_past he h hend
    cases hc : c.rest with
    | nil =>
      rw [skipExponent, atExponent, hc] at hskip
      rw [skipTail, hc]
      exact hskip
    | cons b t =>
      have hpoint : b ≠ ascii '.' := by
        have hhead : (e ++ c'.rest).head? = some b := by
          rw [← List.nil_append e, ← h.1, hc]
          rfl
        cases he with
        | none => exact (hend.2 b hhead).1
        | some hletter =>
          cases hhead
          rcases hletter with rfl | rfl <;> decide
      rw [skipTail, hc]
      simp only
      rw [if_neg hpoint, hskip]
  | some hds =>
    obtain ⟨hpoint, hnext⟩ := h.next
    obtain ⟨after, hdigits, hexp⟩ := hnext.split
    obtain ⟨ds, hne, htake⟩ := hds.taken hdigits (by rw [hexp.1]; exact he.noDigit hend)
    obtain ⟨t, ht⟩ := cons_of_head? hpoint
    rw [skipTail, ht]
    simp only [if_true, htake]
    rw [if_neg (by simpa using hne), skipExponent_past he hexp hend]

/-- **A numeral is passed over to its end.** -/
theorem skipUnsigned_numeral {raw : List UInt8} (h : Numeral raw) {c c' : Cursor}
    (hpast : c.Past raw c') (hend : NumberEnd c'.rest) : skipUnsigned c = .ok c' := by
  cases h with
  | @mk w f e hw hf he =>
    obtain ⟨c₁, hwhole, htail⟩ := hpast.split
    have hskip := skipTail_past hf he htail hend
    have hno : NoDigit c₁.rest := by
      rw [htail.1, List.append_assoc]
      exact hf.noDigit he hend
    obtain ⟨b, t, rfl, hb⟩ := hw.1.head
    obtain ⟨x, hx⟩ := cons_of_head? hwhole.next.1
    obtain ⟨d, hd⟩ := Option.isSome_iff_exists.1 hb
    rw [skipUnsigned, hx]
    simp only [hd]
    cases d with
    | zero =>
      obtain ⟨-, rfl⟩ := digitByte_of_digit hd
      obtain rfl : t = [] := by simpa using hw.2 rfl
      obtain rfl := (Cursor.past_next hwhole.next.1).unique hwhole
      simp only [hno.any_eq_false, Bool.false_eq_true, if_false]
      exact hskip
    | succ d =>
      simp only
      rw [hw.1.skipped hwhole hno]
      exact hskip

/-! ## Steps -/

/-- The stage at which a part is passed over. -/
def Part.stage : Part → Stage
  | value => .value
  | rest _ true => .opened
  | rest _ false => .closed

/-- The frames that are closed with a part. -/
def Part.frames : Part → List Frame
  | value => []
  | rest frame _ => [frame]

/-- From one place on, a part is passed over to another one in so many steps. -/
def PassedIn (k : Nat) (part : Part) (c c' : Cursor) : Prop :=
  ∀ fuel frames, skipSteps (k + fuel) part.stage (part.frames ++ frames) c =
    skipSteps fuel .closed frames c'

/-- A label is passed over; in a list there is none. -/
theorem enter_past {frame : Frame} {s label s' v : List UInt8} (hs : Spaces s)
    (hlabel : Label frame label) (hs' : Spaces s') {c c' : Cursor}
    (h : c.Past (s ++ (label ++ (s' ++ v))) c') :
    ∃ c₁ s'', enter frame c = .ok c₁ ∧ Spaces s'' ∧ c₁.Past (s'' ++ v) c' := by
  cases hlabel with
  | list => exact ⟨c, s ++ s', rfl, hs.append hs', by simpa using h⟩
  | @object raw s₁ hraw hs₁ =>
    have hlabelled : c.Past (s ++ ascii '"' :: ((raw ++ [ascii '"']) ++ ((s₁ ++ [ascii ':']) ++
        (s' ++ v)))) c' := by simpa using h
    have hskip := past_skipSpace_of_spaces hs (by decide) hlabelled
    obtain ⟨hquote, hnext⟩ := hskip.next
    obtain ⟨c₂, hstring, hnext⟩ := hnext.split
    obtain ⟨c₁, hcolon, hvalue⟩ := hnext.split
    obtain ⟨t, ht⟩ := cons_of_head? hquote
    refine ⟨c₁, s', ?_, hs', hvalue⟩
    rw [enter, skipKey, ht]
    simp only [if_true]
    rw [skipString_past hraw hstring, ok_bind, readColon_past hs₁ hcolon]

section

variable {c c' : Cursor} (fuel : Nat) (frames : List Frame)

/-- A word is passed over from behind its first letter. -/
theorem skipSteps_word {w : String} (hw : w ∈ ["null", "true", "false"])
    (h : c.skipSpace.Past (w.toList.map ascii) c') :
    skipSteps (fuel + 1) .value frames c = skipSteps fuel .closed frames c' := by
  have word : ∀ (a : Char) (tail : String), c.skipSpace.Past (ascii a :: tail.toList.map ascii) c' →
      c.skipSpace.rest.head? = some (ascii a) ∧ readWord tail.toList c.skipSpace.next = .ok c' :=
    fun _ _ h => ⟨h.next.1, readWord_past h.next.2⟩
  simp only [List.mem_cons, List.not_mem_nil, or_false] at hw
  rcases hw with rfl | rfl | rfl
  · obtain ⟨hhead, hword⟩ := word 'n' "ull" h
    obtain ⟨t, ht⟩ := cons_of_head? hhead
    rw [skipSteps, atValue_of_some hhead, ok_bind, ht]
    simp only
    rw [if_pos trivial, hword, ok_bind]
  · obtain ⟨hhead, hword⟩ := word 't' "rue" h
    obtain ⟨t, ht⟩ := cons_of_head? hhead
    rw [skipSteps, atValue_of_some hhead, ok_bind, ht]
    simp only
    rw [if_neg (by decide), if_pos trivial, hword, ok_bind]
  · obtain ⟨hhead, hword⟩ := word 'f' "alse" h
    obtain ⟨t, ht⟩ := cons_of_head? hhead
    rw [skipSteps, atValue_of_some hhead, ok_bind, ht]
    simp only
    rw [if_neg (by decide), if_neg (by decide), if_pos trivial, hword, ok_bind]

/-- A list or an object is entered. -/
theorem skipSteps_opening {frame : Frame} (h : c.skipSpace.rest.head? = some frame.opening) :
    skipSteps (fuel + 1) .value frames c =
      skipSteps fuel .opened (frame :: frames) c.skipSpace.next := by
  obtain ⟨t, ht⟩ := cons_of_head? h
  rw [skipSteps, atValue_of_some h, ok_bind, ht]
  cases frame with
  | list =>
    simp only
    rw [if_neg (by decide), if_neg (by decide), if_neg (by decide), if_neg (by decide),
      if_neg (by decide), if_neg (by decide), if_pos (by decide)]
  | object =>
    simp only
    rw [if_neg (by decide), if_neg (by decide), if_neg (by decide), if_neg (by decide),
      if_neg (by decide), if_neg (by decide), if_neg (by decide), if_pos (by decide)]

/-- A list or an object is left behind its closing byte. -/
theorem skipSteps_closing {frame : Frame} {first : Bool}
    (h : c.skipSpace.Past [frame.closing] c') :
    skipSteps (fuel + 1) (Part.rest frame first).stage (frame :: frames) c =
      skipSteps fuel .closed frames c' := by
  obtain ⟨t, ht⟩ := cons_of_head? h.next.1
  rw [← (Cursor.past_next h.next.1).unique h]
  cases first with
  | true =>
    simp only [Part.stage, skipSteps, ht]
    rw [if_pos trivial]
  | false =>
    have hcomma : frame.closing ≠ ascii ',' := by cases frame <;> decide
    simp only [Part.stage, skipSteps, ht]
    rw [if_neg hcomma, if_pos trivial]

/-- An entry is entered from behind the comma that separates it from the one before. -/
theorem skipSteps_entry {frame : Frame} {first : Bool} {s sep label s' b t} (hs : Spaces s)
    (hsep : Separator first sep) (hlabel : Label frame label) (hs' : Spaces s')
    (hb : isSpace b = false ∧ b ≠ ascii ',' ∧ b ≠ frame.closing)
    (h : c.Past (s ++ (sep ++ (label ++ (s' ++ b :: t)))) c') :
    ∃ c₁ s'', Spaces s'' ∧ c₁.Past (s'' ++ b :: t) c' ∧
      ∀ fuel frames, skipSteps (fuel + 1) (Part.rest frame first).stage (frame :: frames) c =
        skipSteps fuel .value (frame :: frames) c₁ := by
  cases hsep with
  | first =>
    -- what is met first is the key of a member, or the element itself
    have hfirst : ∃ s₁ v, Spaces s₁ ∧ c.skipSpace.Past (label ++ (s₁ ++ v)) c' ∧ v = b :: t ∧
        ∃ a, c.skipSpace.rest.head? = some a ∧ a ≠ frame.closing := by
      cases hlabel with
      | list =>
        have hskip := past_skipSpace_of_spaces (t := t) (hs.append hs') hb.1 (by simpa using h)
        exact ⟨[], _, .nil, hskip, rfl, b, hskip.next.1, hb.2.2⟩
      | @object raw s₁ =>
        have hskip := past_skipSpace_of_spaces (b := ascii '"')
          (t := raw ++ ascii '"' :: (s₁ ++ ascii ':' :: (s' ++ b :: t))) hs (by decide)
          (by simpa using h)
        exact ⟨s', _, hs', by simpa using hskip, rfl, _, hskip.next.1, by decide⟩
    obtain ⟨s₁, v, hs₁, hpast, rfl, a, ha, hclosing⟩ := hfirst
    obtain ⟨c₁, s'', henter, hs'', hvalue⟩ := enter_past (s := []) .nil hlabel hs₁ hpast
    obtain ⟨x, hx⟩ := cons_of_head? ha
    refine ⟨c₁, s'', hs'', hvalue, fun fuel frames => ?_⟩
    simp only [Part.stage, skipSteps, hx]
    rw [if_neg hclosing, henter, ok_bind]
  | @comma s₁ hs₁ =>
    have hskip := past_skipSpace_of_spaces (b := ascii ',') (t := s₁ ++ (label ++ (s' ++ b :: t)))
      hs (by decide) (by simpa using h)
    obtain ⟨c₁, s'', henter, hs'', hvalue⟩ := enter_past hs₁ hlabel hs' hskip.next.2
    obtain ⟨x, hx⟩ := cons_of_head? hskip.next.1
    refine ⟨c₁, s'', hs'', hvalue, fun fuel frames => ?_⟩
    simp only [Part.stage, skipSteps, hx]
    rw [if_pos trivial, henter, ok_bind]

end

/-- A value stands behind the spaces in front of it. -/
theorem Forms.past_skipSpace {v : List UInt8} (h : Forms .value v) {s : List UInt8}
    (hs : Spaces s) {c c' : Cursor} (hpast : c.Past (s ++ v) c') : c.skipSpace.Past v c' := by
  obtain ⟨b, t, rfl, hspace, -⟩ := h.head
  exact past_skipSpace_of_spaces hs hspace hpast

/-- **A value is passed over to its end**, and so is what is left of a list or an object; the steps
    are no more than two for each byte. -/
theorem skipSteps_of_forms {part : Part} {raw : List UInt8} (h : Forms part raw) {s : List UInt8}
    (hs : Spaces s) {c c' : Cursor} (hpast : c.Past (s ++ raw) c')
    (hend : part = .value → Follows c'.rest) :
    ∃ k < 2 * raw.length + part.frames.length, PassedIn k part c c' := by
  -- a scalar takes one step
  have one : ∀ {v : List UInt8} {c c' : Cursor}, Forms .value v →
      (∀ fuel frames, skipSteps (fuel + 1) .value frames c = skipSteps fuel .closed frames c') →
      ∃ k < 2 * v.length + Part.value.frames.length, PassedIn k .value c c' := by
    intro v c c' hv hstep
    have := List.length_pos_iff.2 hv.ne_nil
    refine ⟨1, by simp only [Part.frames, List.length_nil]; omega, fun fuel frames => ?_⟩
    rw [Nat.add_comm]
    exact hstep fuel _
  induction h generalizing s c c' with
  | word hw =>
    have hskip := (Forms.word hw).past_skipSpace hs hpast
    exact one (.word hw) fun fuel frames => skipSteps_word fuel frames hw hskip
  | number hn =>
    have hskip := (Forms.number hn).past_skipSpace hs hpast
    refine one (.number hn) fun fuel frames => ?_
    obtain ⟨b, t, rfl, hb⟩ := hn.head
    rw [skipSteps_digit _ _ hskip.next.1 hb, skipUnsigned_numeral hn hskip (hend rfl).numberEnd,
      ok_bind]
  | negative hn =>
    have hskip := (Forms.negative hn).past_skipSpace hs hpast
    refine one (.negative hn) fun fuel frames => ?_
    rw [skipSteps_minus _ _ hskip.next.1,
      skipUnsigned_numeral hn hskip.next.2 (hend rfl).numberEnd, ok_bind]
  | text hraw =>
    have hskip := (Forms.text hraw).past_skipSpace hs hpast
    refine one (.text hraw) fun fuel frames => ?_
    rw [skipSteps_quote _ _ hskip.next.1, skipString_past hraw hskip.next.2, ok_bind]
  | @compound frame raw hrest ih =>
    have hskip := (Forms.compound hrest).past_skipSpace hs hpast
    obtain ⟨k, hk, hpassed⟩ := ih .nil hskip.next.2 nofun
    refine ⟨k + 1, ?_, fun fuel frames => ?_⟩
    · simp only [Part.frames, List.length_cons, List.length_nil] at hk ⊢
      omega
    · rw [Nat.add_right_comm]
      exact (skipSteps_opening _ _ hskip.next.1).trans (hpassed fuel frames)
  | @close frame first s' hs' =>
    have hspace : isSpace frame.closing = false := by cases frame <;> decide
    have hskip := past_skipSpace_of_spaces (hs.append hs') hspace (by simpa using hpast)
    refine ⟨1, ?_, fun fuel frames => ?_⟩
    · simp only [Part.frames, List.length_append, List.length_cons, List.length_nil]
      omega
    · rw [Nat.add_comm]
      exact skipSteps_closing fuel frames hskip
  | @entry frame first s₁ sep label s' v raw hs₁ hsep hlabel hs' hv hrest ihv ihrest =>
    obtain ⟨b, t, hbt, hspace, hcomma, hlist, hobject⟩ := hv.head
    have hclosing : b ≠ frame.closing := by cases frame <;> assumption
    obtain ⟨c₁, s'', hs'', hentered, hstep⟩ := skipSteps_entry (t := t ++ raw) (hs.append hs₁) hsep
      hlabel hs' ⟨hspace, hcomma, hclosing⟩ (by simpa [hbt] using hpast)
    rw [← List.cons_append, ← hbt, ← List.append_assoc] at hentered
    obtain ⟨c₂, hvalue, hbehind⟩ := hentered.split
    obtain ⟨k, hk, hpassed⟩ := ihv hs'' hvalue fun _ => by rw [hbehind.1]; exact hrest.follows
    obtain ⟨l, hl, hpassed'⟩ := ihrest .nil hbehind nofun
    refine ⟨k + l + 1, ?_, fun fuel frames => ?_⟩
    · simp only [Part.frames, List.length_append, List.length_cons, List.length_nil] at hk hl ⊢
      omega
    · rw [Nat.add_right_comm, Nat.add_assoc k]
      exact ((hstep _ _).trans (hpassed _ _)).trans (hpassed' fuel frames)

/-- **What is passed over are the values**, where what follows may stand behind one. -/
theorem skipValue_of_forms {v : List UInt8} (h : Forms .value v) {s : List UInt8} (hs : Spaces s)
    {c c' : Cursor} (hpast : c.Past (s ++ v) c') (hend : Follows c'.rest) :
    skipValue c = .ok c' := by
  obtain ⟨k, hk, hpassed⟩ := skipSteps_of_forms h hs hpast fun _ => hend
  have hlen : v.length ≤ c.rest.length := by
    rw [hpast.1, List.length_append, List.length_append]
    omega
  simp only [Part.frames, List.length_nil] at hk
  obtain ⟨fuel, hfuel⟩ := Nat.exists_eq_add_of_le (show k ≤ 2 * c.rest.length + 2 by omega)
  rw [skipValue, hfuel]
  exact (hpassed fuel []).trans (skipSteps_closed fuel c')

/-! ## Objects -/

/-- A value ends in one place only. -/
theorem Forms.unique {v v' t t' : List UInt8} (h : Forms .value v) (h' : Forms .value v')
    (ht : Follows t) (ht' : Follows t') (heq : v ++ t = v' ++ t') : v = v' ∧ t = t' := by
  have past : ∀ {v t : List UInt8}, Forms .value v → Follows t →
      skipValue ⟨v ++ t, 0⟩ = .ok ⟨t, v.length⟩ := fun h ht =>
    skipValue_of_forms h .nil ⟨rfl, (Nat.zero_add _).symm⟩ ht
  have hsame := past h ht
  rw [heq, past h' ht'] at hsame
  obtain rfl : t' = t := congrArg Cursor.rest (Except.ok.inj hsame)
  exact ⟨List.append_cancel_right heq, rfl⟩

/-- A string ends in one place only. -/
theorem Loose.unique {raw raw' t t' : List UInt8} (h : Loose raw) (h' : Loose raw')
    (heq : raw ++ ascii '"' :: t = raw' ++ ascii '"' :: t') : raw = raw' ∧ t = t' := by
  have hsame := skipString_loose h t 0
  rw [heq, skipString_loose h' t' 0] at hsame
  obtain rfl : t' = t := congrArg Cursor.rest (Except.ok.inj hsame)
  exact ⟨List.append_cancel_right heq, rfl⟩

/-- A string spells one text only. -/
theorem Body.unique {raw : List UInt8} {s s' : String} (h : Body raw (Jwt.bytesOf s.toList))
    (h' : Body raw (Jwt.bytesOf s'.toList)) : s = s' := by
  have hsame := (readString_body h [] 0).symm.trans (readString_body h' [] 0)
  exact congrArg Prod.fst (Except.ok.inj hsame)

theorem Spaces.unique {s s' t t' : List UInt8} {b b' : UInt8} (hs : Spaces s) (hs' : Spaces s')
    (hb : isSpace b = false) (hb' : isSpace b' = false) (heq : s ++ b :: t = s' ++ b' :: t') :
    s = s' ∧ b = b' ∧ t = t' := by
  have hsame := past_skipSpace_of_spaces hs hb (Cursor.past_start (s ++ b :: t))
  have hsame' := past_skipSpace_of_spaces hs' hb' (Cursor.past_start (s' ++ b' :: t'))
  rw [heq] at hsame
  have htail : b :: t = b' :: t' := by simpa using hsame.1.symm.trans hsame'.1
  rw [htail] at heq
  exact ⟨List.append_cancel_right heq, List.head_eq_of_cons_eq htail, List.tail_eq_of_cons_eq htail⟩

/-- The closing brace is no key. -/
theorem Separator.not_closing {first : Bool} {s s' sep t x : List UInt8} (hs : Spaces s)
    (hs' : Spaces s') (hsep : Separator first sep) :
    s ++ ascii '\x7d' :: t ≠ s' ++ (sep ++ ascii '"' :: x) := by
  intro heq
  cases hsep with
  | first =>
    have hbrace := (hs.unique hs' (by decide) (by decide) heq).2.1
    exact absurd hbrace (by decide)
  | comma =>
    rw [List.cons_append] at heq
    have hbrace := (hs.unique hs' (by decide) (by decide) heq).2.1
    exact absurd hbrace (by decide)

/-- What separates a key from what is in front of it ends in one place only. -/
theorem Separator.unique {first : Bool} {s s' sep sep' x x' : List UInt8} (hs : Spaces s)
    (hs' : Spaces s') (hsep : Separator first sep) (hsep' : Separator first sep')
    (heq : s ++ (sep ++ ascii '"' :: x) = s' ++ (sep' ++ ascii '"' :: x')) :
    s = s' ∧ sep = sep' ∧ x = x' := by
  cases hsep with
  | first =>
    cases hsep'
    obtain ⟨rfl, -, rfl⟩ := hs.unique hs' (by decide) (by decide) heq
    exact ⟨rfl, rfl, rfl⟩
  | comma hs₁ =>
    cases hsep' with
    | comma hs₁' =>
      simp only [List.cons_append] at heq
      obtain ⟨rfl, -, htail⟩ := hs.unique hs' (by decide) (by decide) heq
      obtain ⟨rfl, -, rfl⟩ := hs₁.unique hs₁' (by decide) (by decide) htail
      exact ⟨rfl, rfl, rfl⟩

/-- The members of an object end in one place only. -/
theorem Members.unique {first : Bool} {ms ms' : List (String × List UInt8)} {t t' u u' : List UInt8}
    (h : Members first ms t) (h' : Members first ms' t') (heq : t ++ u = t' ++ u') :
    ms = ms' ∧ t = t' := by
  induction h generalizing ms' t' with
  | close hs =>
    cases h' with
    | close hs' =>
      simp only [List.append_assoc, List.singleton_append] at heq
      obtain ⟨rfl, -, -⟩ := hs.unique hs' (by decide) (by decide) heq
      exact ⟨rfl, rfl⟩
    | member hs' hsep' =>
      simp only [List.append_assoc, List.cons_append] at heq
      exact absurd heq (hsep'.not_closing hs hs')
  | member hs hsep hbody hs₁ hs₂ hv hms ih =>
    cases h' with
    | close hs' =>
      simp only [List.append_assoc, List.cons_append] at heq
      exact absurd heq.symm (hsep.not_closing hs' hs)
    | member hs' hsep' hbody' hs₁' hs₂' hv' hms' =>
      simp only [List.append_assoc, List.cons_append, List.nil_append] at heq
      obtain ⟨rfl, rfl, hkey⟩ := hsep.unique hs hs' hsep' heq
      obtain ⟨rfl, hcolon⟩ := hbody.loose.unique hbody'.loose hkey
      obtain rfl := hbody.unique hbody'
      obtain ⟨rfl, -, hspace⟩ := hs₁.unique hs₁' (by decide) (by decide) hcolon
      obtain ⟨b, x, rfl, hb, -⟩ := hv.head
      obtain ⟨b', x', rfl, hb', -⟩ := hv'.head
      obtain ⟨rfl, rfl, hvalue⟩ := hs₂.unique hs₂' hb hb' hspace
      obtain ⟨htext, hrest⟩ := hv.unique hv' (hms.forms.follows (t := u))
        (hms'.forms.follows (t := u')) (congrArg (b :: ·) hvalue)
      obtain ⟨rfl, rfl⟩ := ih hms' hrest
      rw [htext]
      exact ⟨rfl, rfl⟩

/-- **A text is an object in one way only.** -/
theorem Object.unique {ms ms' : List (String × List UInt8)} {text : List UInt8}
    (h : Object ms text) (h' : Object ms' text) : ms = ms' := by
  generalize htext : text = text' at h'
  cases h with
  | mk hs hms _ =>
    cases h' with
    | mk hs' hms' _ =>
      obtain ⟨-, -, heq⟩ := hs.unique hs' (by decide) (by decide) htext
      exact (hms.unique hms' heq).1

/-! ## Documents -/

theorem digits_of_map {ds ds' : List Nat} (h : ∀ d ∈ ds, d < 10) (h' : ∀ d ∈ ds', d < 10)
    (heq : ds.map digitByte = ds'.map digitByte) : ds = ds' := by
  have back : ∀ {ds : List Nat}, (∀ d ∈ ds, d < 10) →
      (ds.map digitByte).map digit? = ds.map some := by
    intro ds h
    rw [List.map_map]
    exact List.map_congr_left fun d hd => digit_digitByte d (h d hd)
  have hsome := back h
  rw [heq, back h'] at hsome
  exact ((List.map_inj_right fun _ _ => Option.some.inj).1 hsome).symm

/-- A number is written as the digits of no other one. -/
theorem Digits.unique {n n' : Nat} {ds ds' : List Nat} (h : Digits n ds) (h' : Digits n' ds')
    (heq : ds.map digitByte = ds'.map digitByte) : n = n' := by
  obtain rfl := digits_of_map h.small h'.small heq
  exact h.value.symm.trans h'.value

/-- Nothing but a digit is first in a number without a sign. -/
theorem Digits.ne_cons {n : Nat} {ds : List Nat} (h : Digits n ds) {b : UInt8}
    (hb : (digit? b).isSome = false) (t : List UInt8) : ds.map digitByte ≠ b :: t := by
  intro heq
  have hdigit := isSome_digitByte h.small b (by rw [heq]; exact List.mem_cons_self)
  rw [hb] at hdigit
  cases hdigit

theorem intBytes_injective : Function.Injective intBytes := by
  intro n m heq
  rcases natural_or_negative n with ⟨k, rfl⟩ | ⟨k, hk, rfl⟩ <;>
    rcases natural_or_negative m with ⟨l, rfl⟩ | ⟨l, hl, rfl⟩ <;>
    obtain ⟨ds, hds, -⟩ := Digits.exists k <;> obtain ⟨ds', hds', -⟩ := Digits.exists l
  · rw [intBytes_natural hds, intBytes_natural hds'] at heq
    rw [hds.unique hds' heq]
  · rw [intBytes_natural hds, intBytes_negative hl hds'] at heq
    exact absurd heq (hds.ne_cons (by decide) _)
  · rw [intBytes_negative hk hds, intBytes_natural hds'] at heq
    exact absurd heq.symm (hds'.ne_cons (by decide) _)
  · rw [intBytes_negative hk hds, intBytes_negative hl hds'] at heq
    rw [hds.unique hds' (List.tail_eq_of_cons_eq heq)]

/-- No number is a string. -/
theorem intBytes_ne_quote (n : Int) (t : List UInt8) : intBytes n ≠ ascii '"' :: t := by
  rcases natural_or_negative n with ⟨k, rfl⟩ | ⟨k, hk, rfl⟩ <;>
    obtain ⟨ds, hds, -⟩ := Digits.exists k
  · rw [intBytes_natural hds]
    exact hds.ne_cons (by decide) t
  · rw [intBytes_negative hk hds]
    exact fun heq => absurd (List.head_eq_of_cons_eq heq) (by decide)

/-- **A text spells one document only.** -/
theorem Spells.unique {raw : List UInt8} {d d' : Doc} (h : Spells raw d) (h' : Spells raw d') :
    d = d' := by
  generalize hraw : raw = raw' at h'
  cases h with
  | text hbody =>
    cases h' with
    | text hbody' =>
      obtain rfl := List.append_cancel_right (List.tail_eq_of_cons_eq hraw)
      rw [hbody.unique hbody']
    | int => exact absurd hraw.symm (intBytes_ne_quote _ _)
  | int =>
    cases h' with
    | text => exact absurd hraw (intBytes_ne_quote _ _)
    | int => rw [intBytes_injective hraw]

end Gatehouse.Json
