/-
  Gatehouse — the values of a JSON text.

  `Forms` is the grammar of the values that are passed over where nobody asks for them.

  * `forms_of_skipValue`: what is passed over is a value, and the fuel is never used up;
  * `skipValue_of_readText`, `skipValue_of_readInt64`: a value that is read is passed over to the
    same place.
-/
import Gatehouse.Proofs.JsonNumbers

namespace Gatehouse.Json

/-- Two steps went well one after the other. -/
theorem ok_of_bind {ε α β : Type} {x : Except ε α} {f : α → Except ε β} {b : β}
    (h : (x >>= f) = .ok b) : ∃ a, x = .ok a ∧ f a = .ok b := by
  cases x with
  | error e => cases h
  | ok a => exact ⟨a, rfl, h⟩

/-! ## Grammar -/

/-- A value, or what is left of a list or an object: of all of it, or of what follows an entry. -/
inductive Part
  | value
  | rest (frame : Frame) (first : Bool)

/-- The byte that opens a frame. -/
def Frame.opening : Frame → UInt8
  | list => ascii '['
  | object => ascii '\x7b'

/-- What separates an entry from the one before, if there is one. -/
inductive Separator : Bool → List UInt8 → Prop
  | first : Separator true []
  | comma {s} : Spaces s → Separator false (ascii ',' :: s)

/-- What stands in front of the value of an entry. -/
inductive Label : Frame → List UInt8 → Prop
  | list : Label .list []
  | object {raw s} : Loose raw → Spaces s →
      Label .object (ascii '"' :: (raw ++ ascii '"' :: (s ++ [ascii ':'])))

/-- The grammar of JSON. -/
inductive Forms : Part → List UInt8 → Prop
  | word {w} : w ∈ ["null", "true", "false"] → Forms .value (w.toList.map ascii)
  | number {raw} : Numeral raw → Forms .value raw
  | negative {raw} : Numeral raw → Forms .value (ascii '-' :: raw)
  | text {raw} : Loose raw → Forms .value (ascii '"' :: (raw ++ [ascii '"']))
  | compound {frame raw} : Forms (.rest frame true) raw → Forms .value (frame.opening :: raw)
  | close {frame first s} : Spaces s → Forms (.rest frame first) (s ++ [frame.closing])
  | entry {frame first s sep label s' v raw} : Spaces s → Separator first sep → Label frame label →
      Spaces s' → Forms .value v → Forms (.rest frame false) raw →
      Forms (.rest frame first) (s ++ (sep ++ (label ++ (s' ++ (v ++ raw)))))

/-! ## Values that are passed over -/

/-- The rest of a word is read as it stands. -/
theorem past_readWord {w : List Char} {c c' : Cursor} (h : readWord w c = .ok c') :
    c.Past (w.map ascii) c' := by
  induction w generalizing c with
  | nil =>
    cases h
    exact .refl _
  | cons a w ih =>
    rw [readWord] at h
    split at h
    · cases h
    · rename_i b t hc
      split_ifs at h with hb
      have hnext : c.Past [ascii a] c.next := Cursor.past_next (by rw [hc, hb]; rfl)
      exact hnext.trans (ih h)

theorem readWord_past {w : List Char} {c c' : Cursor} (h : c.Past (w.map ascii) c') :
    readWord w c = .ok c' := by
  induction w generalizing c with
  | nil =>
    rw [readWord, (Cursor.Past.refl c).unique h]
  | cons a w ih =>
    obtain ⟨ha, hnext⟩ := h.next
    obtain ⟨t, ht⟩ := cons_of_head? ha
    rw [readWord, ht]
    simp only [if_true]
    exact ih hnext

theorem past_readColon {c c' : Cursor} (h : readColon c = .ok c') :
    ∃ s, Spaces s ∧ c.Past (s ++ [ascii ':']) c' := by
  obtain ⟨s, hs, hpast, -⟩ := past_skipSpace c
  rw [readColon] at h
  split at h
  · cases h
  · rename_i b t hc
    split_ifs at h with hb
    cases h
    exact ⟨s, hs, hpast.trans (Cursor.past_next (by rw [hc, hb]; rfl))⟩

theorem readColon_past {s : List UInt8} (hs : Spaces s) {c c' : Cursor}
    (h : c.Past (s ++ [ascii ':']) c') : readColon c = .ok c' := by
  have hskip := past_skipSpace_of_spaces hs (by decide) h
  obtain ⟨t, ht⟩ := cons_of_head? hskip.next.1
  rw [readColon, ht]
  simp only [if_true]
  rw [(Cursor.past_next hskip.next.1).unique hskip]

theorem label_of_enter {frame : Frame} {c c' : Cursor} (h : enter frame c = .ok c') :
    ∃ s label, Spaces s ∧ Label frame label ∧ c.Past (s ++ label) c' := by
  cases frame with
  | list =>
    cases h
    exact ⟨[], [], .nil, .list, .refl c⟩
  | object =>
    obtain ⟨s, hs, hpast, -⟩ := past_skipSpace c
    rw [enter, skipKey] at h
    split at h
    · cases h
    · rename_i b t hc
      split_ifs at h with hb
      obtain ⟨behind, hskip, hcolon⟩ := ok_of_bind h
      obtain ⟨raw, hkey, hloose⟩ := past_skipString hskip
      obtain ⟨s', hs', hpast'⟩ := past_readColon hcolon
      have hquote : c.skipSpace.Past [ascii '"'] c.skipSpace.next :=
        Cursor.past_next (by rw [hc, hb]; rfl)
      refine ⟨s, _, hs, .object hloose hs', ?_⟩
      simpa using hpast.trans (hquote.trans (hkey.trans hpast'))

/-- What is left to pass over when a value was passed over inside these frames. -/
def Closes : List Frame → List UInt8 → Prop
  | [], raw => raw = []
  | frame :: frames, raw => ∃ u t, Forms (.rest frame false) u ∧ Closes frames t ∧ raw = u ++ t

/-- What is passed over from a stage on. -/
def Run : Stage → List Frame → List UInt8 → Prop
  | .value, frames, raw =>
    ∃ s v t, Spaces s ∧ Forms .value v ∧ Closes frames t ∧ raw = s ++ (v ++ t)
  | .opened, [], raw => raw = []
  | .opened, frame :: frames, raw =>
    ∃ u t, Forms (.rest frame true) u ∧ Closes frames t ∧ raw = u ++ t
  | .closed, frames, raw => Closes frames raw

/-- Fuel for the steps from a stage on. -/
def enough : Stage → Nat → Nat
  | .opened, n => 2 * n + 2
  | _, n => 2 * n + 1

theorem Numeral.ne_nil {raw : List UInt8} (h : Numeral raw) : raw ≠ [] := by
  cases h with
  | mk hw => simp [hw.1.1]

theorem Forms.ne_nil {v : List UInt8} (h : Forms .value v) : v ≠ [] := by
  cases h with
  | word hw =>
    simp only [List.mem_cons, List.not_mem_nil, or_false] at hw
    rcases hw with rfl | rfl | rfl <;> decide
  | number hn => exact hn.ne_nil
  | negative => simp
  | text => simp
  | compound => simp

theorem length_le_of_past {c c₁ : Cursor} {v : List UInt8} (h : c.skipSpace.Past v c₁) :
    v.length + c₁.rest.length ≤ c.rest.length := by
  obtain ⟨s, -, hpast, -⟩ := past_skipSpace c
  rw [hpast.1, h.1, List.length_append, List.length_append]
  omega

/-- Whatever this fuel is enough for is in the grammar if it is passed over. -/
def Sound (fuel : Nat) : Prop :=
  ∀ {stage frames c c'}, enough stage c.rest.length ≤ fuel →
    skipSteps fuel stage frames c = .ok c' → ∃ raw, c.Past raw c' ∧ Run stage frames raw

section

variable {fuel : Nat} {frames : List Frame} {frame : Frame} {c c₁ c' : Cursor}

/-- A scalar, and what is passed over behind it. -/
theorem run_of_scalar (ih : Sound fuel) {v : List UInt8} (h₁ : c.skipSpace.Past v c₁)
    (hv : Forms .value v) (hfuel : enough .value c.rest.length ≤ fuel + 1)
    (h : skipSteps fuel .closed frames c₁ = .ok c') :
    ∃ raw, c.Past raw c' ∧ Run .value frames raw := by
  obtain ⟨s, hs, hpast, -⟩ := past_skipSpace c
  have := length_le_of_past h₁
  have := List.length_pos_iff.2 hv.ne_nil
  obtain ⟨t, ht, hclose⟩ := ih (by simp only [enough] at *; omega) h
  exact ⟨_, hpast.trans (h₁.trans ht), s, v, t, hs, hv, hclose, rfl⟩

/-- A list or an object, and what is passed over behind it. -/
theorem run_of_opening (ih : Sound fuel) (hopen : c.skipSpace.rest.head? = some frame.opening)
    (hfuel : enough .value c.rest.length ≤ fuel + 1)
    (h : skipSteps fuel .opened (frame :: frames) c.skipSpace.next = .ok c') :
    ∃ raw, c.Past raw c' ∧ Run .value frames raw := by
  obtain ⟨s, hs, hpast, -⟩ := past_skipSpace c
  have h₁ := Cursor.past_next hopen
  have := length_le_of_past h₁
  simp only [List.length_singleton] at this
  obtain ⟨_, ht, u, t, hu, hclose, rfl⟩ := ih (by simp only [enough] at *; omega) h
  exact ⟨_, hpast.trans (h₁.trans ht), s, _, t, hs, .compound hu, hclose, by simp⟩

/-- What is left of a list or an object may be its closing byte. -/
theorem run_of_closing (ih : Sound fuel) {first : Bool}
    (hclosing : c.skipSpace.rest.head? = some frame.closing)
    (hfuel : enough .closed c.rest.length ≤ fuel + 2)
    (h : skipSteps fuel .closed frames c.skipSpace.next = .ok c') :
    ∃ u t, c.Past (u ++ t) c' ∧ Forms (.rest frame first) u ∧ Closes frames t := by
  obtain ⟨s, hs, hpast, -⟩ := past_skipSpace c
  have h₁ := Cursor.past_next hclosing
  have := length_le_of_past h₁
  simp only [List.length_singleton] at this
  obtain ⟨t, ht, hclose⟩ := ih (by simp only [enough] at *; omega) h
  exact ⟨_, t, by simpa using hpast.trans (h₁.trans ht), .close hs, hclose⟩

/-- Or it is an entry and what follows it. -/
theorem run_of_entry (ih : Sound fuel) {first : Bool} {sep : List UInt8} {c₂ : Cursor}
    (h₁ : c.skipSpace.Past sep c₁) (henter : enter frame c₁ = .ok c₂)
    (hsep : sep = [] ∧ first = true ∨ sep = [ascii ','] ∧ first = false)
    (hfuel : 2 * c.rest.length + 1 ≤ fuel + sep.length)
    (h : skipSteps fuel .value (frame :: frames) c₂ = .ok c') :
    ∃ u t, c.Past (u ++ t) c' ∧ Forms (.rest frame first) u ∧ Closes frames t := by
  obtain ⟨s, hs, hpast, -⟩ := past_skipSpace c
  obtain ⟨s₁, label, hs₁, hlabel, h₂⟩ := label_of_enter henter
  have := length_le_of_past (h₁.trans h₂)
  simp only [List.length_append] at this
  obtain ⟨_, ht, s', v, _, hs', hv, ⟨u, t, hu, hclose, rfl⟩, rfl⟩ :=
    ih (by simp only [enough]; omega) h
  have hall := hpast.trans (h₁.trans (h₂.trans ht))
  rcases hsep with ⟨rfl, rfl⟩ | ⟨rfl, rfl⟩
  · exact ⟨_, t, by simpa using hall, .entry (hs.append hs₁) .first hlabel hs' hv hu, hclose⟩
  · exact ⟨_, t, by simpa using hall, .entry hs (.comma hs₁) hlabel hs' hv hu, hclose⟩

end

/-- No fuel that is enough is used up in front of the end. -/
theorem run_of_skipSteps (fuel : Nat) : Sound fuel := by
  induction fuel with
  | zero =>
    intro stage frames c c' hfuel _
    cases stage <;> simp [enough] at hfuel
  | succ fuel ih =>
    intro stage frames c c' hfuel h
    cases stage with
    | value =>
      simp only [skipSteps] at h
      obtain ⟨start, hat, h⟩ := ok_of_bind h
      obtain ⟨rfl, -⟩ := atValue_ok.1 hat
      split at h
      · cases h
      · rename_i b t hc
        have hhead : c.skipSpace.rest.head? = some b := by rw [hc]; rfl
        have h₁ := Cursor.past_next hhead
        split_ifs at h with hn ht hf hminus hdigit hquote hlist hobject
        · obtain ⟨c₁, hword, h⟩ := ok_of_bind h
          subst hn
          exact run_of_scalar ih (h₁.trans (past_readWord hword)) (.word (w := "null") (by decide))
            hfuel h
        · obtain ⟨c₁, hword, h⟩ := ok_of_bind h
          subst ht
          exact run_of_scalar ih (h₁.trans (past_readWord hword)) (.word (w := "true") (by decide))
            hfuel h
        · obtain ⟨c₁, hword, h⟩ := ok_of_bind h
          subst hf
          exact run_of_scalar ih (h₁.trans (past_readWord hword)) (.word (w := "false") (by decide))
            hfuel h
        · obtain ⟨c₁, hnum, h⟩ := ok_of_bind h
          obtain ⟨raw, hraw, hnumeral⟩ := numeral_of_skipUnsigned hnum
          subst hminus
          exact run_of_scalar ih (h₁.trans hraw) (.negative hnumeral) hfuel h
        · obtain ⟨c₁, hnum, h⟩ := ok_of_bind h
          obtain ⟨raw, hraw, hnumeral⟩ := numeral_of_skipUnsigned hnum
          exact run_of_scalar ih hraw (.number hnumeral) hfuel h
        · obtain ⟨c₁, hstring, h⟩ := ok_of_bind h
          obtain ⟨raw, h₂, hloose⟩ := past_skipString hstring
          subst hquote
          exact run_of_scalar ih (h₁.trans h₂) (.text hloose) hfuel h
        · have hopen : c.skipSpace.rest.head? = some Frame.list.opening := by rw [hhead, hlist]; rfl
          exact run_of_opening ih hopen hfuel h
        · have hopen : c.skipSpace.rest.head? = some Frame.object.opening := by
            rw [hhead, hobject]
            rfl
          exact run_of_opening ih hopen hfuel h
    | opened =>
      cases frames with
      | nil =>
        simp only [skipSteps] at h
        cases h
        exact ⟨[], .refl _, rfl⟩
      | cons frame frames =>
        simp only [enough] at hfuel
        simp only [skipSteps] at h
        split at h
        · cases h
        · rename_i b t hc
          have hhead : c.skipSpace.rest.head? = some b := by rw [hc]; rfl
          suffices h : ∃ u t, c.Past (u ++ t) c' ∧ Forms (.rest frame true) u ∧ Closes frames t by
            obtain ⟨u, t, hpast, hu, ht⟩ := h
            exact ⟨_, hpast, u, t, hu, ht, rfl⟩
          split_ifs at h with hclosing
          · exact run_of_closing ih (by rw [hhead, hclosing]) (by simp only [enough]; omega) h
          · obtain ⟨c₂, henter, h⟩ := ok_of_bind h
            exact run_of_entry ih (.refl _) henter (.inl ⟨rfl, rfl⟩) (by simpa using hfuel) h
    | closed =>
      cases frames with
      | nil =>
        simp only [skipSteps] at h
        cases h
        exact ⟨[], .refl _, rfl⟩
      | cons frame frames =>
        simp only [enough] at hfuel
        simp only [skipSteps] at h
        split at h
        · cases h
        · rename_i b t hc
          have hhead : c.skipSpace.rest.head? = some b := by rw [hc]; rfl
          suffices h : ∃ u t, c.Past (u ++ t) c' ∧ Forms (.rest frame false) u ∧ Closes frames t by
            obtain ⟨u, t, hpast, hu, ht⟩ := h
            exact ⟨_, hpast, u, t, hu, ht, rfl⟩
          split_ifs at h with hcomma hclosing
          · obtain ⟨c₂, henter, h⟩ := ok_of_bind h
            subst hcomma
            exact run_of_entry ih (Cursor.past_next hhead) henter (.inr ⟨rfl, rfl⟩)
              (by simpa using hfuel) h
          · exact run_of_closing ih (by rw [hhead, hclosing]) (by simp only [enough]; omega) h

/-- **What is passed over is a value.** -/
theorem forms_of_skipValue {c c' : Cursor} (h : skipValue c = .ok c') :
    ∃ v, c.skipSpace.Past v c' ∧ Forms .value v := by
  obtain ⟨s₀, -, hpast₀, hhead⟩ := past_skipSpace c
  have hlen : c.skipSpace.rest.length ≤ c.rest.length := by
    rw [hpast₀.1, List.length_append]
    omega
  have hskip : skipSteps (2 * c.rest.length + 2) .value [] c.skipSpace = .ok c' := by
    rw [← h, skipValue]
    simp only [skipSteps, atValue, skipSpace_skipSpace]
  obtain ⟨_, hpast, s, v, _, hs, hv, rfl, rfl⟩ :=
    run_of_skipSteps _ (by simp only [enough]; omega) hskip
  rw [hpast.1, List.append_assoc] at hhead
  obtain rfl := hs.eq_nil hhead
  exact ⟨v, by simpa using hpast, hv⟩

/-! ## Values that are read -/

theorem ok_bind {ε α β : Type} (a : α) (f : α → Except ε β) : (Except.ok a >>= f) = f a := rfl

theorem atValue_of_some {c : Cursor} {b : UInt8} (h : c.skipSpace.rest.head? = some b) :
    atValue c = .ok c.skipSpace := by
  refine atValue_ok.2 ⟨rfl, fun hnil => ?_⟩
  rw [hnil] at h
  cases h

theorem bind_closed (x : Except Error Cursor) (fuel : Nat) :
    (x >>= skipSteps fuel .closed []) = x := by
  cases x with
  | error e => rfl
  | ok c => exact skipSteps_closed fuel c

section

variable {c : Cursor} (fuel : Nat) (frames : List Frame)

/-- A string is passed over from behind its quote. -/
theorem skipSteps_quote (h : c.skipSpace.rest.head? = some (ascii '"')) :
    skipSteps (fuel + 1) .value frames c =
      skipString c.skipSpace.next.offset c.skipSpace.next.rest >>=
        skipSteps fuel .closed frames := by
  obtain ⟨t, ht⟩ := cons_of_head? h
  rw [skipSteps, atValue_of_some h, ok_bind, ht]
  simp only
  rw [if_neg (by decide), if_neg (by decide), if_neg (by decide), if_neg (by decide),
    if_neg (by decide), if_pos trivial]

/-- A number is passed over from behind its sign. -/
theorem skipSteps_minus (h : c.skipSpace.rest.head? = some (ascii '-')) :
    skipSteps (fuel + 1) .value frames c =
      skipUnsigned c.skipSpace.next >>= skipSteps fuel .closed frames := by
  obtain ⟨t, ht⟩ := cons_of_head? h
  rw [skipSteps, atValue_of_some h, ok_bind, ht]
  simp only
  rw [if_neg (by decide), if_neg (by decide), if_neg (by decide), if_pos trivial]

theorem skipSteps_digit {b : UInt8} (h : c.skipSpace.rest.head? = some b)
    (hb : (digit? b).isSome) : skipSteps (fuel + 1) .value frames c =
      skipUnsigned c.skipSpace >>= skipSteps fuel .closed frames := by
  obtain ⟨t, ht⟩ := cons_of_head? h
  have hletter : ∀ {a : UInt8}, digit? a = none → b ≠ a := by
    rintro a ha rfl
    rw [ha] at hb
    cases hb
  rw [skipSteps, atValue_of_some h, ok_bind, ht]
  simp only
  rw [if_neg (hletter (by decide)), if_neg (hletter (by decide)), if_neg (hletter (by decide)),
    if_neg (hletter (by decide)), if_pos hb]

end

theorem skipValue_quote {c : Cursor} (h : c.skipSpace.rest.head? = some (ascii '"')) :
    skipValue c = skipString c.skipSpace.next.offset c.skipSpace.next.rest := by
  rw [skipValue, skipSteps_quote _ _ h, bind_closed]

theorem skipValue_minus {c : Cursor} (h : c.skipSpace.rest.head? = some (ascii '-')) :
    skipValue c = skipUnsigned c.skipSpace.next := by
  rw [skipValue, skipSteps_minus _ _ h, bind_closed]

theorem skipValue_digit {c : Cursor} {b : UInt8} (h : c.skipSpace.rest.head? = some b)
    (hb : (digit? b).isSome) : skipValue c = skipUnsigned c.skipSpace := by
  rw [skipValue, skipSteps_digit _ _ h hb, bind_closed]

/-- A number is passed over as far as it is read. -/
theorem agree_number {c : Cursor} {b : UInt8} (h : c.skipSpace.rest.head? = some b)
    (hb : b = ascii '-' ∨ (digit? b).isSome) :
    Agree c.skipSpace (skipValue c) (readNumber c.skipSpace) := by
  unfold readNumber
  rcases hb with rfl | hb
  · rw [if_pos h, skipValue_minus h]
    exact (agree_unsigned true _).behind (Cursor.past_next h)
  · have hminus : c.skipSpace.rest.head? ≠ some (ascii '-') := by
      rw [h]
      exact fun hs => minus_ne_digit hb (Option.some.inj hs)
    rw [if_neg hminus, skipValue_digit h hb]
    exact agree_unsigned false _

/-- A text that is read is a string of its bytes, and is passed over. -/
theorem skipValue_of_readText {c c' : Cursor} {t : String} (h : readText c = .ok (t, c')) :
    skipValue c = .ok c' ∧ ∃ raw, c.skipSpace.Past (ascii '"' :: (raw ++ [ascii '"'])) c' ∧
      Body raw (Jwt.bytesOf t.toList) := by
  rw [readText] at h
  obtain ⟨start, hat, h⟩ := ok_of_bind h
  obtain ⟨rfl, -⟩ := atValue_ok.1 hat
  split_ifs at h with hquote
  obtain ⟨raw, bs, hpast, hbody, hutf⟩ := body_of_readString h
  rw [Jwt.bytesOf_of_fromUTF8 hutf] at hbody
  refine ⟨?_, raw, (Cursor.past_next hquote).trans hpast, hbody⟩
  rw [skipValue_quote hquote, skipString_past hbody.loose hpast]

/-- A number of 64 bits that is read is passed over. -/
theorem skipValue_of_readInt64 {c c' : Cursor} {n : Int} (h : readInt64 c = .ok (n, c')) :
    skipValue c = .ok c' := by
  obtain ⟨b, x, hb, hkind, hread, -⟩ := number_of_readInt64 h
  exact (agree_number hb hkind).ok x c' hread

end Gatehouse.Json
