/-
  Gatehouse — the numbers of a JSON text.

  What the readers of numbers accept, and where they stop. A number that is read as a whole one is
  spelled in one way only, in its decimal digits; a number that is passed over is a `Numeral`.

  * `readInt64_decimal`, `decimal_of_readInt64`: a number of 64 bits is read if and only if it is
    spelled in decimal digits;
  * `numeral_of_skipUnsigned`: what is passed over is a numeral;
  * `agree_unsigned`: a number is passed over as far as it is read, and where it is too great to be
    read, the fault shows at its end or in front of a digit.
-/
import Gatehouse.Proofs.JsonText

namespace Gatehouse.Json

/-! ## Digits -/

/-- The byte of a digit. -/
def digitByte (d : Nat) : UInt8 := ascii (Nat.digitChar d)

theorem digit_digitByte : ∀ d < 10, digit? (digitByte d) = some d := by decide

theorem digitByte_of_digit {b : UInt8} {d : Nat} (h : digit? b = some d) :
    d < 10 ∧ b = digitByte d := by
  have hall : ∀ n < 256, ∀ d, digit? (UInt8.ofNat n) = some d →
      d < 10 ∧ UInt8.ofNat n = digitByte d := by
    intro n hn d hd
    simp only [digit?, UInt8.toNat_ofNat', Nat.mod_eq_of_lt hn, Char.reduceToNat] at hd
    split_ifs at hd with hr
    cases hd
    refine ⟨by omega, ?_⟩
    have : ∀ k < 10, UInt8.ofNat (48 + k) = digitByte k := by decide
    rw [← this (n - 48) (by omega)]
    congr 1
    omega
  rw [← UInt8.ofNat_toNat (x := b)] at h ⊢
  exact hall _ b.toNat_lt d h

/-- The number that digits make behind the number `n`. -/
def valueFrom (n : Nat) (ds : List Nat) : Nat := ds.foldl (fun n d => n * 10 + d) n

theorem valueFrom_cons (n d : Nat) (ds : List Nat) :
    valueFrom n (d :: ds) = valueFrom (n * 10 + d) ds := rfl

theorem valueFrom_concat (n : Nat) (ds : List Nat) (d : Nat) :
    valueFrom n (ds ++ [d]) = valueFrom n ds * 10 + d := by
  simp [valueFrom]

theorem le_valueFrom (n : Nat) (ds : List Nat) : n ≤ valueFrom n ds := by
  induction ds generalizing n with
  | nil => exact Nat.le_refl n
  | cons d ds ih =>
    have := ih (n * 10 + d)
    rw [valueFrom_cons]
    omega

/-- The digits of a number. -/
structure Digits (n : Nat) (ds : List Nat) : Prop where
  small : ∀ d ∈ ds, d < 10
  value : valueFrom 0 ds = n
  /-- No zero stands in front. -/
  head : ds = [0] ∨ ∃ d rest, ds = d :: rest ∧ d ≠ 0

/-- Every number has digits, those that are written. -/
theorem Digits.exists (n : Nat) : ∃ ds, Digits n ds ∧ Nat.toDigits 10 n = ds.map Nat.digitChar := by
  induction n using Nat.strongRecOn with
  | _ n ih =>
  rcases Nat.lt_or_ge n 10 with hn | hn
  · refine ⟨[n], ⟨by simpa using hn, by simp [valueFrom], ?_⟩, Nat.toDigits_of_lt_base hn⟩
    by_cases h0 : n = 0
    · exact .inl (by rw [h0])
    · exact .inr ⟨n, [], rfl, h0⟩
  · obtain ⟨ds, hds, hw⟩ := ih (n / 10) (by omega)
    refine ⟨ds ++ [n % 10], ⟨?_, ?_, ?_⟩, ?_⟩
    · intro d hd
      rcases List.mem_append.1 hd with hd | hd
      · exact hds.small d hd
      · rw [List.mem_singleton.1 hd]
        omega
    · rw [valueFrom_concat, hds.value]
      omega
    · rcases hds.head with rfl | ⟨d, rest, rfl, hd⟩
      · have := hds.value
        simp [valueFrom] at this
        omega
      · exact .inr ⟨d, rest ++ [n % 10], rfl, hd⟩
    · rw [Nat.toDigits_of_base_le (by omega) hn, hw]
      simp

/-- Digits behind a number are written behind it. -/
theorem toDigits_append {n : Nat} (hn : 0 < n) {ds : List Nat} (hds : ∀ d ∈ ds, d < 10) :
    Nat.toDigits 10 n ++ ds.map Nat.digitChar = Nat.toDigits 10 (valueFrom n ds) := by
  induction ds generalizing n with
  | nil => simp [valueFrom]
  | cons d ds ih =>
    have hd : d < 10 := hds d List.mem_cons_self
    have hstep : Nat.toDigits 10 n ++ [Nat.digitChar d] = Nat.toDigits 10 (n * 10 + d) := by
      rw [Nat.mul_comm, ← Nat.toDigits_append_toDigits (by omega) hn hd, Nat.toDigits_of_lt_base hd]
    calc
      _ = Nat.toDigits 10 n ++ [Nat.digitChar d] ++ ds.map Nat.digitChar := by simp
      _ = Nat.toDigits 10 (n * 10 + d) ++ ds.map Nat.digitChar := by rw [hstep]
      _ = _ := ih (by omega) fun x hx => hds x (List.mem_cons_of_mem _ hx)

/-- The digits of a number are those that are written. -/
theorem Digits.eq_toDigits {n : Nat} {ds : List Nat} (h : Digits n ds) :
    Nat.toDigits 10 n = ds.map Nat.digitChar := by
  rw [← h.value]
  rcases h.head with rfl | ⟨d, rest, rfl, hd⟩
  · rfl
  · have hsmall := h.small d List.mem_cons_self
    have hrest : ∀ x ∈ rest, x < 10 := fun x hx => h.small x (List.mem_cons_of_mem _ hx)
    have := toDigits_append (Nat.pos_of_ne_zero hd) hrest
    rw [Nat.toDigits_of_lt_base hsmall] at this
    rw [valueFrom_cons, Nat.zero_mul, Nat.zero_add, ← this]
    rfl

/-! ### Reading digits -/

/-- No digit stands there. -/
def NoDigit (t : List UInt8) : Prop := ∀ b, t.head? = some b → digit? b = none

theorem NoDigit.any_eq_false {t : List UInt8} (h : NoDigit t) :
    (t.head?.any fun b => (digit? b).isSome) = false := by
  rw [Option.any_eq_false]
  intro b hb
  rw [h b hb]
  decide

theorem takeDigitsFrom_spec (offset : Nat) (acc : List Nat) (t : List UInt8) :
    ∃ ds c, takeDigitsFrom offset acc t = (acc.reverse ++ ds, c) ∧
      Cursor.Past ⟨t, offset⟩ (ds.map digitByte) c ∧ (∀ d ∈ ds, d < 10) ∧ NoDigit c.rest := by
  fun_induction takeDigitsFrom offset acc t with
  | case1 offset acc => exact ⟨[], _, by simp, .refl _, by simp, by simp [NoDigit]⟩
  | case2 offset acc b rest d hd ih =>
    obtain ⟨ds, c, heq, hpast, hsmall, hstop⟩ := ih
    obtain ⟨hlt, rfl⟩ := digitByte_of_digit hd
    refine ⟨d :: ds, c, by simp [heq], ?_, by simpa [hlt] using hsmall, hstop⟩
    have hb : Cursor.Past ⟨digitByte d :: rest, offset⟩ [digitByte d] ⟨rest, offset + 1⟩ :=
      ⟨rfl, rfl⟩
    exact hb.trans hpast
  | case3 offset acc b rest hd =>
    refine ⟨[], _, by simp, .refl _, by simp, ?_⟩
    rintro x ⟨⟩
    exact hd

/-- The digits at a place are read as far as they go. -/
theorem takeDigits_spec (c : Cursor) :
    ∃ ds c', takeDigits c = (ds, c') ∧ c.Past (ds.map digitByte) c' ∧ (∀ d ∈ ds, d < 10) ∧
      NoDigit c'.rest := by
  obtain ⟨ds, c', heq, h⟩ := takeDigitsFrom_spec c.offset [] c.rest
  exact ⟨ds, c', by simpa [takeDigits] using heq, h⟩

/-- Digits up to what is none are read. -/
theorem takeDigits_digits {ds : List Nat} (hds : ∀ d ∈ ds, d < 10) {c c' : Cursor}
    (hpast : c.Past (ds.map digitByte) c') (hstop : NoDigit c'.rest) : takeDigits c = (ds, c') := by
  have hfrom : ∀ offset acc, takeDigitsFrom offset acc (ds.map digitByte ++ c'.rest) =
      (acc.reverse ++ ds, ⟨c'.rest, offset + ds.length⟩) := by
    clear hpast
    induction ds with
    | nil =>
      intro offset acc
      cases hrest : c'.rest with
      | nil => simp [takeDigitsFrom]
      | cons b t => simp [takeDigitsFrom, hstop b (by rw [hrest]; rfl)]
    | cons d ds ih =>
      intro offset acc
      rw [List.map_cons, List.cons_append, takeDigitsFrom,
        digit_digitByte d (hds d List.mem_cons_self)]
      simp only [ih fun x hx => hds x (List.mem_cons_of_mem _ hx), List.reverse_cons,
        List.append_assoc, List.singleton_append, List.length_cons]
      congr 2
      omega
  rw [takeDigits, hpast.1, hfrom, List.reverse_nil, List.nil_append, ← List.length_map digitByte,
    ← hpast.2]

/-- A significand within the limit keeps all of its digits. -/
theorem accumulate_of_le {n : Nat} {ds : List Nat} (h : valueFrom n ds ≤ significandLimit) :
    accumulate n ds = (valueFrom n ds, []) := by
  induction ds generalizing n with
  | nil => rfl
  | cons d ds ih =>
    have := le_valueFrom (n * 10 + d) ds
    rw [valueFrom_cons] at h
    rw [accumulate, if_neg (by omega), ih h, valueFrom_cons]

/-- A significand that kept all of its digits is their number. -/
theorem valueFrom_of_accumulate {n m : Nat} {ds : List Nat} (h : accumulate n ds = (m, [])) :
    valueFrom n ds = m := by
  induction ds generalizing n with
  | nil =>
    cases h
    rfl
  | cons d ds ih =>
    rw [accumulate] at h
    split_ifs at h
    · cases h
    · exact ih h

/-! ## Numerals -/

/-- One or more digits. -/
def DigitRun (raw : List UInt8) : Prop := raw ≠ [] ∧ ∀ b ∈ raw, (digit? b).isSome

/-- The whole digits of a number: no zero stands in front of others. -/
def Whole (raw : List UInt8) : Prop :=
  DigitRun raw ∧ (raw.head? = some (ascii '0') → raw.length = 1)

/-- A point and digits, or nothing. -/
inductive Fraction : List UInt8 → Prop
  | none : Fraction []
  | some {ds} : DigitRun ds → Fraction (ascii '.' :: ds)

/-- The letter of an exponent, a sign or none, and digits; or nothing. -/
inductive Exponent : List UInt8 → Prop
  | none : Exponent []
  | some {e sign ds} : e = ascii 'e' ∨ e = ascii 'E' → sign ∈ [[], [ascii '-'], [ascii '+']] →
      DigitRun ds → Exponent (e :: (sign ++ ds))

/-- A number without a sign. -/
inductive Numeral : List UInt8 → Prop
  | mk {w f e} : Whole w → Fraction f → Exponent e → Numeral (w ++ (f ++ e))

theorem isSome_digitByte {ds : List Nat} (h : ∀ d ∈ ds, d < 10) :
    ∀ b ∈ ds.map digitByte, (digit? b).isSome := by
  intro b hb
  obtain ⟨d, hd, rfl⟩ := List.mem_map.1 hb
  rw [digit_digitByte d (h d hd)]
  rfl

/-- Digits that start with one are passed over to their end. -/
theorem digitRun_of_skipDigits {c : Cursor} {b : UInt8} (hb : c.rest.head? = some b)
    (hd : (digit? b).isSome) : ∃ raw, c.Past raw (skipDigits c) ∧ DigitRun raw ∧
      raw.head? = some b := by
  obtain ⟨ds, c', heq, hpast, hsmall, hstop⟩ := takeDigits_spec c
  have hraw : (ds.map digitByte).head? = some b := by
    cases ds with
    | nil =>
      rw [hpast.1] at hb
      rw [hstop b hb] at hd
      cases hd
    | cons d ds =>
      rw [hpast.1] at hb
      simpa using hb
  refine ⟨ds.map digitByte, by simpa [skipDigits, heq] using hpast,
    ⟨?_, isSome_digitByte hsmall⟩, hraw⟩
  intro hnil
  rw [hnil] at hraw
  cases hraw

/-- The letter of an exponent stands there. -/
theorem letter_of_atExponent {c : Cursor} (h : atExponent c = true) :
    ∃ b, c.rest.head? = some b ∧ (b = ascii 'e' ∨ b = ascii 'E') := by
  rw [atExponent, Option.any_eq_true] at h
  obtain ⟨b, hb, he⟩ := h
  exact ⟨b, hb, by simpa using he⟩

/-- The place behind the sign of an exponent. -/
def skipSign (c : Cursor) : Cursor :=
  match c.rest with
  | b :: _ => if b = ascii '-' ∨ b = ascii '+' then c.next else c
  | [] => c

theorem past_skipSign (c : Cursor) :
    ∃ sign ∈ [[], [ascii '-'], [ascii '+']], c.Past sign (skipSign c) := by
  unfold skipSign
  split
  · rename_i b t hc
    split_ifs with hb
    · refine ⟨[b], ?_, Cursor.past_next (by rw [hc]; rfl)⟩
      rcases hb with rfl | rfl <;> simp
    · exact ⟨[], by simp, .refl c⟩
  · exact ⟨[], by simp, .refl c⟩

theorem skipExponent_of_letter {c : Cursor} (h : atExponent c = true) :
    skipExponent c = match (skipSign c.next).rest with
      | b :: _ => if (digit? b).isSome then .ok (skipDigits (skipSign c.next))
          else .error ((skipSign c.next).next.here .badNumber)
      | [] => .error ((skipSign c.next).here .badNumber) := by
  rw [skipExponent, if_pos h]
  rfl

theorem exponent_of_skipExponent {c c' : Cursor} (h : skipExponent c = .ok c') :
    ∃ raw, c.Past raw c' ∧ Exponent raw := by
  by_cases hat : atExponent c = true
  · obtain ⟨e, he, hletter⟩ := letter_of_atExponent hat
    obtain ⟨sign, hsign, hpast⟩ := past_skipSign c.next
    rw [skipExponent_of_letter hat] at h
    split at h
    · rename_i b t hb
      split_ifs at h with hd
      cases h
      obtain ⟨ds, hds, hrun, -⟩ := digitRun_of_skipDigits (by rw [hb]; rfl) hd
      refine ⟨e :: (sign ++ ds), (Cursor.past_next he).trans (hpast.trans hds), ?_⟩
      exact .some hletter hsign hrun
    · cases h
  · rw [skipExponent, if_neg hat] at h
    cases h
    exact ⟨[], .refl c, .none⟩

theorem numeral_of_skipTail {c c' : Cursor} (h : skipTail c = .ok c') :
    ∃ f e, c.Past (f ++ e) c' ∧ Fraction f ∧ Exponent e := by
  rw [skipTail] at h
  split at h
  · rename_i b t hc
    split_ifs at h with hpoint
    · obtain ⟨ds, after, heq, hpast, hsmall, -⟩ := takeDigits_spec c.next
      simp only [heq] at h
      split_ifs at h with hempty
      obtain ⟨e, he, hexp⟩ := exponent_of_skipExponent h
      have hdot : c.Past [ascii '.'] c.next := Cursor.past_next (by rw [hc, hpoint]; rfl)
      refine ⟨_, e, (hdot.trans hpast).trans he, .some ⟨?_, isSome_digitByte hsmall⟩, hexp⟩
      simpa using hempty
    · obtain ⟨e, he, hexp⟩ := exponent_of_skipExponent h
      exact ⟨[], e, he, .none, hexp⟩
  · cases h
    exact ⟨[], [], .refl c, .none, .none⟩

/-- **A number that is passed over is a numeral.** -/
theorem numeral_of_skipUnsigned {c c' : Cursor} (h : skipUnsigned c = .ok c') :
    ∃ raw, c.Past raw c' ∧ Numeral raw := by
  rw [skipUnsigned] at h
  split at h
  · cases h
  · rename_i b t hc
    have hhead : c.rest.head? = some b := by rw [hc]; rfl
    split at h
    · cases h
    · rename_i hzero
      obtain ⟨-, rfl⟩ := digitByte_of_digit hzero
      simp only at h
      split_ifs at h
      obtain ⟨f, e, hpast, hf, he⟩ := numeral_of_skipTail h
      refine ⟨_, (Cursor.past_next hhead).trans hpast, .mk ⟨⟨by simp, ?_⟩, fun _ => rfl⟩ hf he⟩
      simp [hzero]
    · rename_i d hne hd
      obtain ⟨w, hw, hrun, hhead'⟩ := digitRun_of_skipDigits hhead (by rw [hd]; rfl)
      obtain ⟨f, e, hpast, hf, he⟩ := numeral_of_skipTail h
      refine ⟨_, hw.trans hpast, .mk ⟨hrun, fun hz => ?_⟩ hf he⟩
      rw [hhead'] at hz
      cases hz
      exact absurd (Option.some.inj (hd.symm.trans (digit_digitByte 0 (by decide)))) hne

/-! ## Reading and passing over -/

/-- Reading a number from `c` on ends where passing over it ends; if the number can only be passed
    over, the fault shows at its end or in front of a digit. -/
structure Agree (c : Cursor) (skip : Except Error Cursor)
    (read : Except Error (Number × Cursor)) : Prop where
  ok : ∀ n c', read = .ok (n, c') → skip = .ok c'
  error : ∀ e c', read = .error e → skip = .ok c' → ∃ raw c'', c.Past raw c'' ∧
    e.offset = c''.offset ∧ (c'' = c' ∨ ∃ b, c''.rest.head? = some b ∧ (digit? b).isSome)

namespace Agree

variable {c c' : Cursor} {skip : Except Error Cursor} {read : Except Error (Number × Cursor)}

theorem behind {raw : List UInt8} (hpast : c.Past raw c') (h : Agree c' skip read) :
    Agree c skip read := by
  refine ⟨h.ok, fun e end' he hskip => ?_⟩
  obtain ⟨raw', c'', hpast', h'⟩ := h.error e end' he hskip
  exact ⟨_, c'', hpast.trans hpast', h'⟩

/-- Nothing has to be said of what neither is read nor passed over. -/
theorem refused (e e' : Error) : Agree c (.error e) (.error e') :=
  ⟨fun _ _ h => (by cases h), fun _ _ _ h => (by cases h)⟩

end Agree

theorem finishReal_cases (negative : Bool) (significand : Nat) (e : Int) (c : Cursor) :
    (∃ x, finishReal negative significand e c = .ok (.real x, c)) ∨
      ∃ fault, finishReal negative significand e c = .error (c.here fault) := by
  unfold finishReal
  split
  · exact .inl ⟨_, rfl⟩
  · exact .inr ⟨_, rfl⟩

theorem agree_finishReal (negative : Bool) (significand : Nat) (e : Int) (c : Cursor) :
    Agree c (.ok c) (finishReal negative significand e c) := by
  rcases finishReal_cases negative significand e c with ⟨x, h⟩ | ⟨fault, h⟩
  · rw [h]
    exact ⟨fun _ _ h => (by cases h; rfl), fun _ _ h => (by cases h)⟩
  · rw [h]
    refine ⟨fun _ _ h => (by cases h), fun e' c' h hskip => ?_⟩
    cases h
    cases hskip
    exact ⟨[], c, .refl c, rfl, .inl rfl⟩

/-- What may come of the digits of an exponent, `read` of which were read before. -/
theorem exponentGo_cases (negative : Bool) (significand : Nat) (e : Int) (down : Bool)
    (c after : Cursor) (n read : Nat) (ds : List Nat) :
    (∃ x, readExponentDigits.go negative significand e down c after n read ds =
      .ok (.real x, after)) ∨
    ∃ fault, readExponentDigits.go negative significand e down c after n read ds =
        .error (after.here fault) ∨
      ∃ k < ds.length, readExponentDigits.go negative significand e down c after n read ds =
        .error { fault, offset := c.offset + read + k + 1 } := by
  induction ds generalizing n read with
  | nil =>
    rcases finishReal_cases negative significand
      (max (-0x80000000) (min 0x7FFFFFFF (if down then e - n else e + n))) after with h | ⟨fault, h⟩
    · exact .inl h
    · exact .inr ⟨fault, .inl h⟩
  | cons d ds ih =>
    rw [readExponentDigits.go]
    split_ifs
    · exact .inr ⟨_, .inr ⟨0, by simp, rfl⟩⟩
    · exact .inl ⟨_, rfl⟩
    · exact .inl ⟨_, rfl⟩
    · rcases ih (n * 10 + d) (read + 1) with h | ⟨fault, h | ⟨k, hk, h⟩⟩
      · exact .inl h
      · exact .inr ⟨fault, .inl h⟩
      · refine .inr ⟨fault, .inr ⟨k + 1, by simpa using hk, ?_⟩⟩
        rw [h]
        congr 2
        omega

theorem agree_exponentDigits (negative : Bool) (significand : Nat) (e : Int) (down : Bool)
    (c : Cursor) :
    Agree c (.ok (skipDigits c)) (readExponentDigits negative significand e down c) := by
  obtain ⟨ds, after, heq, hpast, hsmall, -⟩ := takeDigits_spec c
  have hskip : skipDigits c = after := by rw [skipDigits, heq]
  have hread : readExponentDigits negative significand e down c =
      readExponentDigits.go negative significand e down c after 0 0 ds := by
    rw [readExponentDigits, heq]
  rw [hskip, hread]
  rcases exponentGo_cases negative significand e down c after 0 0 ds with
    ⟨x, h⟩ | ⟨fault, h | ⟨k, hk, h⟩⟩
  · rw [h]
    exact ⟨fun _ _ h => (by cases h; rfl), fun _ _ h => (by cases h)⟩
  · rw [h]
    refine ⟨fun _ _ h => (by cases h), fun e' c' h hskip => ?_⟩
    cases h
    cases hskip
    exact ⟨_, after, hpast, rfl, .inl rfl⟩
  · rw [h]
    refine ⟨fun _ _ h => (by cases h), fun e' c' h hskip => ?_⟩
    cases h
    cases hskip
    -- the fault shows behind the digit at `k`, where another digit or the end follows
    have hfront : c.Past ((ds.take (k + 1)).map digitByte)
        ⟨(ds.drop (k + 1)).map digitByte ++ after.rest, c.offset + 0 + k + 1⟩ := by
      refine ⟨?_, ?_⟩
      · rw [hpast.1, ← List.append_assoc, ← List.map_append, List.take_append_drop]
      · show c.offset + 0 + k + 1 = _
        rw [List.length_map, List.length_take]
        omega
    refine ⟨_, _, hfront, rfl, ?_⟩
    cases hrest : ds.drop (k + 1) with
    | nil =>
      have hall : ds.take (k + 1) = ds := List.take_of_length_le (List.drop_eq_nil_iff.1 hrest)
      rw [hall, hrest] at hfront
      exact .inl (hfront.unique hpast)
    | cons d rest =>
      refine .inr ⟨digitByte d, by simp, ?_⟩
      have hd : d ∈ ds := List.mem_of_mem_drop (i := k + 1) (by rw [hrest]; simp)
      rw [digit_digitByte d (hsmall d hd)]
      rfl

/-- An exponent is read from behind its sign, which says which way it goes. -/
theorem readExponent_eq (negative : Bool) (significand : Nat) (e : Int) (c : Cursor) :
    readExponent negative significand e c = match (skipSign c.next).rest with
      | [] => .error ((skipSign c.next).here .endInValue)
      | b :: _ => if (digit? b).isSome then
            readExponentDigits negative significand e (c.next.rest.head? = some (ascii '-'))
              (skipSign c.next)
          else .error ((skipSign c.next).next.here .badNumber) := by
  unfold readExponent skipSign
  cases hc : c.next.rest with
  | nil => simp only [hc]
  | cons b t =>
    simp only [List.head?_cons, Option.some.injEq]
    by_cases hminus : b = ascii '-'
    · subst hminus
      rw [hc]
      rfl
    · by_cases hplus : b = ascii '+'
      · subst hplus
        rw [hc]
        rfl
      · simp only [hc, hminus, hplus, if_false, or_false, decide_false]

theorem agree_readExponent (negative : Bool) (significand : Nat) (e : Int) {c : Cursor}
    (h : atExponent c = true) :
    Agree c (skipExponent c) (readExponent negative significand e c) := by
  obtain ⟨b, hb, -⟩ := letter_of_atExponent h
  obtain ⟨sign, -, hpast⟩ := past_skipSign c.next
  rw [readExponent_eq, skipExponent_of_letter h]
  refine ((?_ : Agree (skipSign c.next) _ _).behind hpast).behind (Cursor.past_next hb)
  cases hrest : (skipSign c.next).rest with
  | nil => exact .refused _ _
  | cons b t =>
    simp only
    split_ifs
    · exact agree_exponentDigits negative significand e _ _
    · exact .refused _ _

theorem agree_readScale (negative : Bool) (significand : Nat) (e : Int) (c : Cursor) :
    Agree c (skipExponent c) (readScale negative significand e c) := by
  unfold readScale
  by_cases hat : atExponent c = true
  · rw [if_pos hat]
    exact agree_readExponent negative significand e hat
  · rw [if_neg hat, skipExponent, if_neg hat]
    exact agree_finishReal negative significand e c

theorem agree_whole (negative : Bool) (significand dropped : Nat) (c : Cursor) :
    Agree c (.ok c) (readTail.whole negative significand dropped c) := by
  unfold readTail.whole
  split_ifs
  · exact agree_finishReal negative significand dropped c
  all_goals exact ⟨fun _ _ h => (by cases h; rfl), fun _ _ h => (by cases h)⟩

theorem agree_readTail (negative : Bool) (significand dropped : Nat) (c : Cursor) :
    Agree c (skipTail c) (readTail negative significand dropped c) := by
  unfold readTail skipTail
  cases hc : c.rest with
  | nil => exact agree_whole negative significand dropped c
  | cons b t =>
    have hnext : c.Past [b] c.next := Cursor.past_next (by rw [hc]; rfl)
    by_cases hpoint : b = ascii '.'
    · obtain ⟨ds, after, heq, hpast, -, -⟩ := takeDigits_spec c.next
      simp only [hpoint, if_true, readFraction, heq]
      by_cases hempty : ds.isEmpty = true
      · rw [if_pos hempty, if_pos hempty]
        exact .refused _ _
      · rw [if_neg hempty, if_neg hempty]
        exact ((agree_readScale negative _ _ after).behind hpast).behind hnext
    · simp only [hpoint, if_false]
      by_cases hat : atExponent c = true
      · rw [if_pos hat]
        exact agree_readExponent negative significand dropped hat
      · rw [if_neg hat, skipExponent, if_neg hat]
        exact agree_whole negative significand dropped c

/-- **A number is passed over as far as it is read.** -/
theorem agree_unsigned (negative : Bool) (c : Cursor) :
    Agree c (skipUnsigned c) (readUnsigned negative c) := by
  unfold skipUnsigned readUnsigned
  cases hc : c.rest with
  | nil => exact .refused _ _
  | cons b t =>
    have hnext : c.Past [b] c.next := Cursor.past_next (by rw [hc]; rfl)
    cases hd : digit? b with
    | none =>
      simp only [hd]
      exact .refused _ _
    | some d =>
      obtain ⟨ds, after, heq, hpast, -, -⟩ := takeDigits_spec c
      cases d with
      | zero =>
        simp only [hd]
        split_ifs
        · exact .refused _ _
        · exact (agree_readTail negative 0 0 c.next).behind hnext
      | succ d =>
        simp only [hd, skipDigits, heq]
        exact (agree_readTail negative _ _ after).behind hpast

/-! ## Whole numbers -/

theorem real_of_finishReal {negative : Bool} {significand : Nat} {e : Int} {c c' : Cursor}
    {x : Number} (h : finishReal negative significand e c = .ok (x, c')) : ∃ r, x = .real r := by
  rcases finishReal_cases negative significand e c with ⟨r, hr⟩ | ⟨fault, hf⟩
  · rw [hr] at h
    cases h
    exact ⟨r, rfl⟩
  · rw [hf] at h
    cases h

/-- A number with an exponent is a double. -/
theorem real_of_readExponent {negative : Bool} {significand : Nat} {e : Int} {c c' : Cursor}
    {x : Number} (h : readExponent negative significand e c = .ok (x, c')) : ∃ r, x = .real r := by
  rw [readExponent_eq] at h
  split at h
  · cases h
  · split_ifs at h
    rw [readExponentDigits] at h
    rcases exponentGo_cases negative significand e _ (skipSign c.next)
      (takeDigits (skipSign c.next)).2 0 0 (takeDigits (skipSign c.next)).1 with
      ⟨r, hr⟩ | ⟨fault, hf | ⟨k, -, hf⟩⟩
    · cases hr.symm.trans h
      exact ⟨r, rfl⟩
    · cases hf.symm.trans h
    · cases hf.symm.trans h

/-- A number with a fraction is a double. -/
theorem real_of_readFraction {negative : Bool} {significand : Nat} {e : Int} {c c' : Cursor}
    {x : Number} (h : readFraction negative significand e c = .ok (x, c')) : ∃ r, x = .real r := by
  rw [readFraction] at h
  simp only at h
  split_ifs at h
  rw [readScale] at h
  split_ifs at h
  · exact real_of_readExponent h
  · exact real_of_finishReal h

/-- What is read as a whole number. -/
inductive WholeNumber (negative : Bool) (n : Nat) : Number → Prop
  | natural : negative = false → WholeNumber negative n (.natural n)
  | negative :
    negative = true → n ≠ 0 → n ≤ 0x8000000000000000 → WholeNumber negative n (.negative n)

theorem whole_of_readTail {negative : Bool} {significand dropped : Nat} {c c' : Cursor}
    {x : Number} (h : readTail negative significand dropped c = .ok (x, c')) :
    (∃ r, x = .real r) ∨ (c' = c ∧ dropped = 0 ∧ WholeNumber negative significand x) := by
  have hwhole : ∀ {x c'}, readTail.whole negative significand dropped c = .ok (x, c') →
      (∃ r, x = .real r) ∨ (c' = c ∧ dropped = 0 ∧ WholeNumber negative significand x) := by
    intro x c' h
    rw [readTail.whole] at h
    split_ifs at h with hdropped hneg hzero
    · exact .inl (real_of_finishReal h)
    · cases h
      exact .inr ⟨rfl, by omega, .natural (by simpa using hneg)⟩
    · cases h
      exact .inl ⟨_, rfl⟩
    · cases h
      exact .inr ⟨rfl, by omega, .negative (by simpa using hneg) (by omega) (by omega)⟩
  rw [readTail] at h
  split at h
  · split_ifs at h
    · exact .inl (real_of_readFraction h)
    · exact .inl (real_of_readExponent h)
    · exact hwhole h
  · exact hwhole h

/-- A whole number is spelled in its digits. -/
theorem digits_of_readUnsigned {negative : Bool} {c c' : Cursor} {x : Number}
    (h : readUnsigned negative c = .ok (x, c')) (hx : ∀ r, x ≠ .real r) :
    ∃ n ds, WholeNumber negative n x ∧ Digits n ds ∧ c.Past (ds.map digitByte) c' := by
  rw [readUnsigned] at h
  split at h
  · cases h
  · rename_i b t hc
    have hhead : c.rest.head? = some b := by rw [hc]; rfl
    split at h
    · cases h
    · rename_i hzero
      obtain ⟨-, rfl⟩ := digitByte_of_digit hzero
      simp only at h
      split_ifs at h
      rcases whole_of_readTail h with ⟨r, rfl⟩ | ⟨rfl, -, hn⟩
      · exact absurd rfl (hx r)
      · exact ⟨0, [0], hn, ⟨by simp, rfl, .inl rfl⟩, Cursor.past_next hhead⟩
    · rename_i d hne hd
      obtain ⟨ds, after, heq, hpast, hsmall, hstop⟩ := takeDigits_spec c
      simp only [heq] at h
      rcases whole_of_readTail h with ⟨r, rfl⟩ | ⟨rfl, hleft, hn⟩
      · exact absurd rfl (hx r)
      · have hacc : accumulate 0 ds = ((accumulate 0 ds).1, []) := by
          rw [← List.length_eq_zero_iff.1 hleft]
        refine ⟨_, ds, hn, ⟨hsmall, valueFrom_of_accumulate hacc, ?_⟩, hpast⟩
        -- the first digit was looked at before
        cases ds with
        | nil =>
          rw [hpast.1] at hhead
          rw [hstop b hhead] at hd
          cases hd
        | cons d' ds =>
          rw [hpast.1] at hhead
          cases hhead
          rw [digit_digitByte d' (hsmall d' (by simp))] at hd
          exact .inr ⟨d', ds, rfl, fun hz => hne (by rw [← hz]; exact (Option.some.inj hd).symm)⟩

/-- Nothing stands there that would go on with a number. -/
def NumberEnd (t : List UInt8) : Prop :=
  NoDigit t ∧ ∀ b, t.head? = some b → b ≠ ascii '.' ∧ b ≠ ascii 'e' ∧ b ≠ ascii 'E'

theorem atExponent_of_letter {b : UInt8} {t : List UInt8} (hb : b = ascii 'e' ∨ b = ascii 'E')
    {c c' : Cursor} (h : c.Past (b :: t) c') : atExponent c = true := by
  rw [atExponent, h.next.1]
  simpa using hb

theorem atExponent_end {c : Cursor} (h : NumberEnd c.rest) : atExponent c = false := by
  rw [atExponent, Option.any_eq_false]
  intro b hb
  obtain ⟨-, he, hE⟩ := h.2 b hb
  simp [he, hE]

theorem readTail_end {negative : Bool} {n dropped : Nat} {c : Cursor} (h : NumberEnd c.rest) :
    readTail negative n dropped c = readTail.whole negative n dropped c := by
  unfold readTail
  cases hc : c.rest with
  | nil => rfl
  | cons b t =>
    have hpoint := (h.2 b (by rw [hc]; rfl)).1
    simp [hpoint, atExponent_end h]

/-- Digits are read up to the end of the number. -/
theorem readUnsigned_digits {negative : Bool} {n : Nat} {ds : List Nat} (hds : Digits n ds)
    (hn : n ≤ significandLimit) {c c' : Cursor} (hpast : c.Past (ds.map digitByte) c')
    (hend : NumberEnd c'.rest) :
    readUnsigned negative c = readTail.whole negative n 0 c' := by
  rcases hds.head with rfl | ⟨d, rest, rfl, hd⟩
  · obtain rfl : 0 = n := hds.value
    have hzero : c.rest.head? = some (digitByte 0) := by rw [hpast.1]; rfl
    obtain rfl : c.next = c' := (Cursor.past_next hzero).unique hpast
    obtain ⟨t, ht⟩ := cons_of_head? hzero
    unfold readUnsigned
    simp only [ht, digit_digitByte 0 (by decide), hend.1.any_eq_false, Bool.false_eq_true, if_false]
    exact readTail_end hend
  · have hhead : c.rest = digitByte d :: (rest.map digitByte ++ c'.rest) := hpast.1
    obtain ⟨k, rfl⟩ := Nat.exists_eq_succ_of_ne_zero hd
    unfold readUnsigned
    simp only [hhead, digit_digitByte _ (hds.small _ List.mem_cons_self)]
    rw [takeDigits_digits hds.small hpast hend.1, accumulate_of_le (by rw [hds.value]; exact hn),
      hds.value]
    exact readTail_end hend

/-! ### Numbers of 64 bits -/

/-- A whole number in decimal digits. -/
def intBytes (n : Int) : List UInt8 := Jwt.bytesOf (Text.decimalInt n).toList

theorem digitChar_ascii {ds : List Nat} (h : ∀ d ∈ ds, d < 10) :
    Jwt.bytesOf (ds.map Nat.digitChar) = ds.map digitByte := by
  rw [Jwt.bytesOf_ascii, List.map_map]
  · rfl
  · intro c hc
    obtain ⟨d, hd, rfl⟩ := List.mem_map.1 hc
    have hall : ∀ d < 10, (Nat.digitChar d).toNat < 128 := by decide
    exact hall d (h d hd)

theorem intBytes_natural {n : Nat} {ds : List Nat} (h : Digits n ds) :
    intBytes n = ds.map digitByte := by
  rw [intBytes, ← digitChar_ascii h.small, ← h.eq_toDigits]
  simp [Text.decimalInt, Text.decimal, Text.decimalChars]

theorem intBytes_negative {n : Nat} (hn : n ≠ 0) {ds : List Nat} (h : Digits n ds) :
    intBytes (-n) = ascii '-' :: ds.map digitByte := by
  obtain ⟨k, rfl⟩ := Nat.exists_eq_succ_of_ne_zero hn
  have hminus : Jwt.bytesOf ['-'] = [ascii '-'] := Jwt.bytesOf_ascii (by simp)
  show Jwt.bytesOf (Text.decimalInt (Int.negSucc k)).toList = _
  rw [← digitChar_ascii h.small, ← h.eq_toDigits]
  simp only [Text.decimalInt, Text.decimal, Text.decimalChars, String.toList_append,
    String.toList_ofList]
  rw [Jwt.bytesOf_append, show "-".toList = ['-'] from rfl, hminus]
  rfl

theorem natural_or_negative (n : Int) : (∃ k : Nat, n = k) ∨ ∃ k : Nat, k ≠ 0 ∧ n = -(k : Int) := by
  by_cases hn : n < 0
  · exact .inr ⟨n.natAbs, by omega, by omega⟩
  · exact .inl ⟨n.natAbs, by omega⟩

theorem not_space_of_digit {b : UInt8} (h : (digit? b).isSome) : isSpace b = false := by
  obtain ⟨d, hd⟩ := Option.isSome_iff_exists.1 h
  obtain ⟨hlt, rfl⟩ := digitByte_of_digit hd
  have hall : ∀ d < 10, isSpace (digitByte d) = false := by decide
  exact hall d hlt

theorem minus_ne_digit {b : UInt8} (h : (digit? b).isSome) : b ≠ ascii '-' := by
  rintro rfl
  revert h
  decide

theorem atValue_ok {c c' : Cursor} :
    atValue c = .ok c' ↔ c' = c.skipSpace ∧ c.skipSpace.rest ≠ [] := by
  unfold atValue
  simp only
  split_ifs with h
  · simp only [List.isEmpty_iff] at h
    simp [h]
  · simp only [List.isEmpty_iff] at h
    simp [h, eq_comm]

theorem atValue_of_head {c : Cursor} {b : UInt8} (hb : c.rest.head? = some b)
    (h : isSpace b = false) : atValue c = .ok c := by
  have hskip := skipSpace_of_head hb h
  refine atValue_ok.2 ⟨hskip.symm, fun hnil => ?_⟩
  rw [hskip] at hnil
  rw [hnil] at hb
  cases hb

/-- **A number of 64 bits in decimal digits is read.** -/
theorem readInt64_decimal {n : Int} (hn : isInt64 n = true) {c c' : Cursor}
    (hpast : c.Past (intBytes n) c') (hend : NumberEnd c'.rest) : readInt64 c = .ok (n, c') := by
  have hrange : -0x8000000000000000 ≤ n ∧ n < 0x8000000000000000 := by simpa [isInt64] using hn
  rcases natural_or_negative n with ⟨k, rfl⟩ | ⟨k, hk, rfl⟩
  · obtain ⟨ds, hds, -⟩ := Digits.exists k
    rw [intBytes_natural hds] at hpast
    obtain ⟨d, rest, rfl⟩ : ∃ d rest, ds = d :: rest := by
      rcases hds.head with rfl | ⟨d, rest, rfl, -⟩
      · exact ⟨_, _, rfl⟩
      · exact ⟨_, _, rfl⟩
    have hhead : c.rest.head? = some (digitByte d) := by rw [hpast.1]; rfl
    have hdigit : (digit? (digitByte d)).isSome := by
      rw [digit_digitByte d (hds.small d List.mem_cons_self)]
      rfl
    have hread : readNumber c = .ok (.natural k, c') := by
      rw [readNumber, hhead, if_neg fun h => minus_ne_digit hdigit (Option.some.inj h),
        readUnsigned_digits hds (by unfold significandLimit; omega) hpast hend]
      simp [readTail.whole]
    rw [readInt64, atValue_of_head hhead (not_space_of_digit hdigit)]
    simp [hhead, hdigit, hread, hn, bind, Except.bind, pure, Except.pure]
  · obtain ⟨ds, hds, -⟩ := Digits.exists k
    rw [intBytes_negative hk hds] at hpast
    obtain ⟨hhead, hnext⟩ := hpast.next
    have hread : readNumber c = .ok (.negative k, c') := by
      rw [readNumber, if_pos hhead,
        readUnsigned_digits hds (by unfold significandLimit; omega) hnext hend]
      have hle : ¬ 0x8000000000000000 < k := by omega
      simp [readTail.whole, hk, hle]
    rw [readInt64, atValue_of_head hhead (by decide)]
    simp [hhead, hread, bind, Except.bind, pure, Except.pure]

/-- What is read as a number of 64 bits was read as a whole number. -/
theorem number_of_readInt64 {n : Int} {c c' : Cursor} (h : readInt64 c = .ok (n, c')) :
    ∃ b x, c.skipSpace.rest.head? = some b ∧ (b = ascii '-' ∨ (digit? b).isSome) ∧
      readNumber c.skipSpace = .ok (x, c') ∧
      ((∃ k : Nat, x = .natural k ∧ n = k ∧ isInt64 n = true) ∨
        ∃ k : Nat, x = .negative k ∧ n = -(k : Int)) := by
  rw [readInt64] at h
  cases hat : atValue c with
  | error e => simp [hat, bind, Except.bind] at h
  | ok start =>
  obtain ⟨rfl, -⟩ := atValue_ok.1 hat
  simp only [hat, bind, Except.bind] at h
  split_ifs at h with hnumber
  rw [Option.any_eq_true] at hnumber
  obtain ⟨b, hb, hkind⟩ := hnumber
  refine ⟨b, ?_⟩
  cases hread : readNumber c.skipSpace with
  | error e => simp [hread] at h
  | ok x =>
  obtain ⟨x, after⟩ := x
  rw [hread] at h
  refine ⟨x, hb, by simpa using hkind, ?_⟩
  cases x with
  | natural k =>
    simp only at h
    split_ifs at h with hk
    cases h
    exact ⟨rfl, .inl ⟨k, rfl, rfl, hk⟩⟩
  | negative k =>
    cases h
    exact ⟨rfl, .inr ⟨k, rfl, rfl⟩⟩
  | real r => cases h

/-- A number is spelled in its digits, behind a sign if it is negative. -/
theorem digits_of_readNumber {x : Number} {c c' : Cursor} (h : readNumber c = .ok (x, c'))
    (hx : ∀ r, x ≠ .real r) : ∃ n, (x = .natural n ∧ c.Past (intBytes n) c') ∨
      (x = .negative n ∧ n ≠ 0 ∧ n ≤ 0x8000000000000000 ∧ c.Past (intBytes (-n)) c') := by
  rw [readNumber] at h
  split_ifs at h with hminus
  · obtain ⟨k, ds, hwhole, hds, hpast⟩ := digits_of_readUnsigned h hx
    cases hwhole with
    | natural hfalse => cases hfalse
    | negative _ hk hle =>
      refine ⟨k, .inr ⟨rfl, hk, hle, ?_⟩⟩
      rw [intBytes_negative hk hds]
      exact (Cursor.past_next hminus).trans hpast
  · obtain ⟨k, ds, hwhole, hds, hpast⟩ := digits_of_readUnsigned h hx
    cases hwhole with
    | negative htrue => cases htrue
    | natural _ =>
      refine ⟨k, .inl ⟨rfl, ?_⟩⟩
      rw [intBytes_natural hds]
      exact hpast

/-- **A number that is read as one of 64 bits is spelled in decimal digits.** -/
theorem decimal_of_readInt64 {n : Int} {c c' : Cursor} (h : readInt64 c = .ok (n, c')) :
    isInt64 n = true ∧ c.skipSpace.Past (intBytes n) c' := by
  obtain ⟨b, x, -, -, hread, ⟨k, rfl, rfl, hint⟩ | ⟨k, rfl, rfl⟩⟩ := number_of_readInt64 h
  · obtain ⟨k', ⟨hk', hpast⟩ | ⟨hk', -⟩⟩ := digits_of_readNumber hread (by simp)
    · cases hk'
      exact ⟨hint, hpast⟩
    · cases hk'
  · obtain ⟨k', ⟨hk', -⟩ | ⟨hk', hne, hle, hpast⟩⟩ := digits_of_readNumber hread (by simp)
    · cases hk'
    · cases hk'
      exact ⟨by simp [isInt64]; omega, hpast⟩

end Gatehouse.Json
