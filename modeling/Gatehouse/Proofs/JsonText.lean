/-
  Gatehouse — the strings of a JSON text.

  What the readers of strings accept, and where they stop. A string is a run of plain bytes and
  escapes up to a quote: `Body` says what it spells, `Loose` what is passed over where nobody asks
  for that.

  * `scanString_body`, `body_of_scanString`: a string is read if and only if it has a body;
  * `skipString_loose`, `loose_of_skipString`: the same of strings that are passed over;
  * `Body.writeText`: what was written as a string has the string for its body.
-/
import Gatehouse.Proofs.Encoding

namespace Gatehouse.Json

/-! ## Places -/

/-- The cursor `c'` stands behind the bytes `raw`, at the first of which `c` stands. -/
def Cursor.Past (c : Cursor) (raw : List UInt8) (c' : Cursor) : Prop :=
  c.rest = raw ++ c'.rest ∧ c'.offset = c.offset + raw.length

namespace Cursor.Past

variable {c c' c'' : Cursor} {raw raw' : List UInt8}

theorem refl (c : Cursor) : c.Past [] c := ⟨rfl, rfl⟩

theorem trans (h : c.Past raw c') (h' : c'.Past raw' c'') : c.Past (raw ++ raw') c'' := by
  obtain ⟨h₁, h₂⟩ := h
  obtain ⟨h₃, h₄⟩ := h'
  refine ⟨by rw [h₁, h₃, List.append_assoc], ?_⟩
  rw [h₄, h₂, List.length_append, Nat.add_assoc]

/-- There is a place between what is read in two parts. -/
theorem split (h : c.Past (raw ++ raw') c') : ∃ c₁, c.Past raw c₁ ∧ c₁.Past raw' c' := by
  obtain ⟨h₁, h₂⟩ := h
  refine ⟨⟨raw' ++ c'.rest, c.offset + raw.length⟩, ⟨?_, rfl⟩, rfl, ?_⟩
  · rw [h₁, List.append_assoc]
  · rw [h₂, List.length_append, Nat.add_assoc]

/-- A place is reached by what was read up to it. -/
theorem unique (h : c.Past raw c') (h' : c.Past raw c'') : c' = c'' := by
  obtain ⟨h₁, h₂⟩ := h
  obtain ⟨h₃, h₄⟩ := h'
  cases c'; cases c''
  simp only at *
  rw [h₂, h₄]
  congr 1
  exact List.append_cancel_left (h₁.symm.trans h₃)

/-- Moving forward to the offset of a place leads to it. -/
theorem advance (h : c.Past raw c') : c.advance c'.offset = c' := by
  obtain ⟨h₁, h₂⟩ := h
  cases c'
  simp only [Cursor.advance] at *
  rw [h₂, Nat.add_sub_cancel_left, h₁, List.drop_left]

end Cursor.Past

theorem Cursor.past_start (raw : List UInt8) : (Cursor.start raw).Past raw ⟨[], raw.length⟩ :=
  ⟨(List.append_nil raw).symm, (Nat.zero_add _).symm⟩

theorem Cursor.past_next {c : Cursor} {b : UInt8} (h : c.rest.head? = some b) :
    c.Past [b] c.next := by
  obtain ⟨rest, offset⟩ := c
  cases rest with
  | nil => cases h
  | cons b' rest =>
    cases h
    exact ⟨rfl, rfl⟩

/-- What starts with a byte is read behind the byte. -/
theorem Cursor.Past.next {c c' : Cursor} {b : UInt8} {raw : List UInt8} (h : c.Past (b :: raw) c') :
    c.rest.head? = some b ∧ c.next.Past raw c' := by
  obtain ⟨rest, offset⟩ := c
  obtain ⟨hrest, hoffset⟩ := h
  simp only at hrest hoffset
  subst hrest
  refine ⟨rfl, rfl, ?_⟩
  rw [hoffset, List.length_cons, ← Nat.add_assoc, Nat.add_right_comm]
  rfl

theorem cons_of_head? {t : List UInt8} {b : UInt8} (h : t.head? = some b) : ∃ t', t = b :: t' := by
  cases t with
  | nil => cases h
  | cons b' t => cases h; exact ⟨t, rfl⟩

/-- Nothing but spaces. -/
def Spaces (raw : List UInt8) : Prop := ∀ b ∈ raw, isSpace b = true

theorem Spaces.nil : Spaces [] := by simp [Spaces]

theorem Spaces.append {s s' : List UInt8} (h : Spaces s) (h' : Spaces s') : Spaces (s ++ s') := by
  intro b hb
  rcases List.mem_append.1 hb with hb | hb
  · exact h b hb
  · exact h' b hb

/-- Spaces are passed over. -/
theorem past_skipSpace (c : Cursor) :
    ∃ raw, Spaces raw ∧ c.Past raw c.skipSpace ∧ ∀ b, c.skipSpace.rest.head? = some b →
      isSpace b = false := by
  obtain ⟨rest, offset⟩ := c
  show ∃ raw, Spaces raw ∧ Cursor.Past ⟨rest, offset⟩ raw (skipFrom offset rest) ∧ _
  unfold Cursor.skipSpace
  simp only
  fun_induction skipFrom offset rest with
  | case1 offset => exact ⟨[], .nil, .refl _, by simp⟩
  | case2 offset b rest hb ih =>
    obtain ⟨raw, hs, hp, hh⟩ := ih
    refine ⟨b :: raw, ?_, ?_, hh⟩
    · intro x hx
      rcases List.mem_cons.1 hx with rfl | hx
      · exact hb
      · exact hs x hx
    · have hb : Cursor.Past ⟨b :: rest, offset⟩ [b] ⟨rest, offset + 1⟩ := ⟨rfl, rfl⟩
      exact hb.trans hp
  | case3 offset b rest hb =>
    refine ⟨[], .nil, .refl _, ?_⟩
    rintro x ⟨⟩
    simpa using hb

theorem skipSpace_of_head {c : Cursor} {b : UInt8} (hb : c.rest.head? = some b)
    (h : isSpace b = false) : c.skipSpace = c := by
  obtain ⟨t, ht⟩ := cons_of_head? hb
  obtain ⟨rest, offset⟩ := c
  obtain rfl : rest = b :: t := ht
  simp [Cursor.skipSpace, skipFrom, h]

theorem skipSpace_next {c : Cursor} {b : UInt8} (hb : c.rest.head? = some b)
    (h : isSpace b = true) : c.skipSpace = c.next.skipSpace := by
  obtain ⟨t, ht⟩ := cons_of_head? hb
  obtain ⟨rest, offset⟩ := c
  obtain rfl : rest = b :: t := ht
  simp [Cursor.skipSpace, Cursor.next, skipFrom, h]

/-- Spaces in front of another byte are passed over. -/
theorem past_skipSpace_of_spaces {c c' : Cursor} {s t : List UInt8} {b : UInt8} (hs : Spaces s)
    (hb : isSpace b = false) (h : c.Past (s ++ b :: t) c') : c.skipSpace.Past (b :: t) c' := by
  induction s generalizing c with
  | nil =>
    rw [skipSpace_of_head h.next.1 hb]
    exact h
  | cons a s ih =>
    obtain ⟨ha, hnext⟩ := h.next
    rw [skipSpace_next ha (hs a List.mem_cons_self)]
    exact ih (fun x hx => hs x (List.mem_cons_of_mem _ hx)) hnext

theorem Spaces.eq_nil {s t : List UInt8} (hs : Spaces s)
    (hhead : ∀ b, (s ++ t).head? = some b → isSpace b = false) : s = [] := by
  cases s with
  | nil => rfl
  | cons b s => exact absurd (hs b List.mem_cons_self) (by simp [hhead b rfl])

@[simp]
theorem skipSpace_skipSpace (c : Cursor) : c.skipSpace.skipSpace = c.skipSpace := by
  obtain ⟨-, -, -, hhead⟩ := past_skipSpace c
  obtain ⟨s, hs, hpast, -⟩ := past_skipSpace c.skipSpace
  rw [hpast.1] at hhead
  obtain rfl := hs.eq_nil hhead
  exact hpast.unique (.refl _)

/-! ## Strings -/

/-- The bytes between two quotes spell these bytes. -/
inductive Body : List UInt8 → List UInt8 → Prop
  | nil : Body [] []
  | plain {b raw bs} : b ≠ ascii '"' → b ≠ ascii '\\' → ¬ b < 32 → Body raw bs →
      Body (b :: raw) (b :: bs)
  | escape {e b raw bs} : escapeByte? e = some b → Body raw bs →
      Body (ascii '\\' :: e :: raw) (b :: bs)
  | code {p q r s n raw bs} : hexFour? p q r s = some n → isLowSurrogate n = false →
      isHighSurrogate n = false → Body raw bs →
      Body (ascii '\\' :: ascii 'u' :: p :: q :: r :: s :: raw) (codePointBytes n ++ bs)
  | pair {p q r s n p' q' r' s' m raw bs} : hexFour? p q r s = some n →
      isLowSurrogate n = false → isHighSurrogate n = true → hexFour? p' q' r' s' = some m →
      isLowSurrogate m = true → Body raw bs →
      Body (ascii '\\' :: ascii 'u' :: p :: q :: r :: s ::
          ascii '\\' :: ascii 'u' :: p' :: q' :: r' :: s' :: raw)
        (codePointBytes (pairedCodePoint n m) ++ bs)

/-- The bytes between two quotes, whatever they spell. -/
inductive Loose : List UInt8 → Prop
  | nil : Loose []
  | plain {b raw} : b ≠ ascii '"' → b ≠ ascii '\\' → ¬ b < 32 → Loose raw → Loose (b :: raw)
  | escape {e b raw} : escapeByte? e = some b → Loose raw → Loose (ascii '\\' :: e :: raw)
  | code {p q r s n raw} : hexFour? p q r s = some n → Loose raw →
      Loose (ascii '\\' :: ascii 'u' :: p :: q :: r :: s :: raw)

theorem Body.loose {raw bs : List UInt8} (h : Body raw bs) : Loose raw := by
  induction h with
  | nil => exact .nil
  | plain h₁ h₂ h₃ _ ih => exact .plain h₁ h₂ h₃ ih
  | escape h _ ih => exact .escape h ih
  | code h _ _ _ ih => exact .code h ih
  | pair h _ _ h' _ _ ih => exact .code h (.code h' ih)

theorem ne_u_of_escape {e b : UInt8} (h : escapeByte? e = some b) : e ≠ ascii 'u' := by
  rintro rfl
  simp [show escapeByte? (ascii 'u') = none by decide] at h

theorem backslash_ne_quote : ascii '\\' ≠ ascii '"' := by decide

/-- A string that has a body is read. -/
theorem scanString_body {raw bs : List UInt8} (h : Body raw bs) (rest : List UInt8) (offset : Nat)
    (acc : List UInt8) : scanString offset acc (raw ++ ascii '"' :: rest) =
      .ok (acc.reverse ++ bs, ⟨rest, offset + raw.length + 1⟩) := by
  induction h generalizing offset acc with
  | nil =>
    simp
  | plain h₁ h₂ h₃ _ ih =>
    rw [List.cons_append, scanString.eq_def]
    simp only [h₁, h₂, h₃, if_false, ih, List.reverse_cons, List.append_assoc,
      List.singleton_append, List.length_cons]
    congr 4
    omega
  | escape h _ ih =>
    simp only [List.cons_append]
    rw [scanString.eq_def]
    simp only [backslash_ne_quote, ne_u_of_escape h, h, if_false, if_true, ih, List.reverse_cons,
      List.append_assoc, List.singleton_append, List.length_cons]
    congr 4
    omega
  | code h₁ h₂ h₃ _ ih =>
    simp only [List.cons_append]
    rw [scanString.eq_def]
    simp only [backslash_ne_quote, h₁, h₂, h₃, if_false, if_true, ih, List.length_cons, pushAll,
      List.reverse_append, List.reverse_reverse, List.append_assoc, Bool.false_eq_true]
    congr 4
    omega
  | pair h₁ h₂ h₃ h₄ h₅ _ ih =>
    simp only [List.cons_append]
    rw [scanString.eq_def]
    simp only [backslash_ne_quote, h₁, h₂, h₃, h₄, h₅, if_false, if_true, ih, List.length_cons,
      pushAll, List.reverse_append, List.reverse_reverse, List.append_assoc, Bool.false_eq_true]
    congr 4
    omega

/-- A string that is passed over has bytes that can be. -/
theorem skipString_loose {raw : List UInt8} (h : Loose raw) (rest : List UInt8) (offset : Nat) :
    skipString offset (raw ++ ascii '"' :: rest) = .ok ⟨rest, offset + raw.length + 1⟩ := by
  induction h generalizing offset with
  | nil =>
    simp
  | plain h₁ h₂ h₃ _ ih =>
    rw [List.cons_append, skipString.eq_def]
    simp only [h₁, h₂, h₃, if_false, ih, List.length_cons]
    congr 2
    omega
  | escape h _ ih =>
    simp only [List.cons_append]
    rw [skipString.eq_def]
    simp only [backslash_ne_quote, ne_u_of_escape h, h, if_false, if_true, ih, Option.isSome_some,
      List.length_cons]
    congr 2
    omega
  | code h _ ih =>
    simp only [List.cons_append]
    rw [skipString.eq_def]
    simp only [backslash_ne_quote, h, if_false, if_true, ih, List.length_cons]
    congr 2
    omega

/-- A string that is read has a body. -/
theorem body_of_scanString {t acc bs : List UInt8} {offset : Nat} {c : Cursor}
    (h : scanString offset acc t = .ok (bs, c)) :
    ∃ raw content, t = raw ++ ascii '"' :: c.rest ∧ bs = acc.reverse ++ content ∧
      c.offset = offset + raw.length + 1 ∧ Body raw content := by
  fun_induction scanString offset acc t with
  | case2 offset acc rest =>
    cases h
    exact ⟨[], [], by simp, by simp, rfl, .nil⟩
  | case9 offset acc p q r s n hn hlow hhigh p' q' r' s' rest m hm hlow' _ ih =>
    obtain ⟨raw, content, rfl, rfl, hc, hb⟩ := ih h
    refine ⟨_, _, rfl, ?_, ?_, .pair hn (by simpa using hlow) hhigh hm hlow' hb⟩
    · simp [pushAll]
    · rw [hc]
      simp only [List.length_cons]
      omega
  | case14 offset acc p q r s rest n hn hlow hhigh _ ih =>
    obtain ⟨raw, content, rfl, rfl, hc, hb⟩ := ih h
    refine ⟨_, _, rfl, ?_, ?_, .code hn (by simpa using hlow) (by simpa using hhigh) hb⟩
    · simp [pushAll]
    · rw [hc]
      simp only [List.length_cons]
      omega
  | case16 offset acc e rest _ b he _ ih =>
    obtain ⟨raw, content, rfl, rfl, hc, hb⟩ := ih h
    refine ⟨_, _, rfl, by simp, ?_, .escape he hb⟩
    rw [hc]
    simp only [List.length_cons]
    omega
  | case19 offset acc b rest hquote hback hcontrol ih =>
    obtain ⟨raw, content, rfl, rfl, hc, hb⟩ := ih h
    refine ⟨_, _, rfl, by simp, ?_, .plain hquote hback hcontrol hb⟩
    rw [hc]
    simp only [List.length_cons]
    omega
  | _ => cases h

/-- A string that is passed over has bytes that can be. -/
theorem loose_of_skipString {t : List UInt8} {offset : Nat} {c : Cursor}
    (h : skipString offset t = .ok c) :
    ∃ raw, t = raw ++ ascii '"' :: c.rest ∧ c.offset = offset + raw.length + 1 ∧ Loose raw := by
  fun_induction skipString offset t with
  | case2 offset rest =>
    cases h
    exact ⟨[], by simp, rfl, .nil⟩
  | case5 offset p q r s rest n hn _ ih =>
    obtain ⟨raw, rfl, hc, hl⟩ := ih h
    refine ⟨_, rfl, ?_, .code hn hl⟩
    rw [hc]
    simp only [List.length_cons]
    omega
  | case7 offset e rest _ he _ ih =>
    obtain ⟨raw, rfl, hc, hl⟩ := ih h
    obtain ⟨b, hb⟩ := Option.isSome_iff_exists.1 he
    refine ⟨_, rfl, ?_, .escape hb hl⟩
    rw [hc]
    simp only [List.length_cons]
    omega
  | case10 offset b rest hquote hback hcontrol ih =>
    obtain ⟨raw, rfl, hc, hl⟩ := ih h
    refine ⟨_, rfl, ?_, .plain hquote hback hcontrol hl⟩
    rw [hc]
    simp only [List.length_cons]
    omega
  | _ => cases h

/-- A string is passed over from behind its opening quote. -/
theorem skipString_past {raw : List UInt8} (h : Loose raw) {c c' : Cursor}
    (hpast : c.Past (raw ++ [ascii '"']) c') : skipString c.offset c.rest = .ok c' := by
  obtain ⟨hrest, hoffset⟩ := hpast
  rw [List.length_append, List.length_singleton, ← Nat.add_assoc] at hoffset
  rw [hrest, List.append_assoc, List.singleton_append, skipString_loose h, ← hoffset]

theorem past_skipString {c c' : Cursor} (h : skipString c.offset c.rest = .ok c') :
    ∃ raw, c.Past (raw ++ [ascii '"']) c' ∧ Loose raw := by
  obtain ⟨raw, hrest, hoffset, hloose⟩ := loose_of_skipString h
  refine ⟨raw, ⟨by simpa using hrest, ?_⟩, hloose⟩
  rw [hoffset, List.length_append, List.length_singleton, Nat.add_assoc]

/-- A string is read from behind its opening quote if it has a body that is UTF-8. -/
theorem readString_body {raw : List UInt8} {s : String} (h : Body raw (Jwt.bytesOf s.toList))
    (rest : List UInt8) (offset : Nat) : readString ⟨raw ++ ascii '"' :: rest, offset⟩ =
      .ok (s, ⟨rest, offset + raw.length + 1⟩) := by
  simp only [readString, scanString_body h, List.reverse_nil, List.nil_append, bind, Except.bind]
  rw [Jwt.fromUTF8_bytesOf]
  rfl

theorem readString_past {raw : List UInt8} {s : String} (h : Body raw (Jwt.bytesOf s.toList))
    {c c' : Cursor} (hpast : c.Past (raw ++ [ascii '"']) c') : readString c = .ok (s, c') := by
  obtain ⟨rest, offset⟩ := c
  obtain ⟨hrest, hoffset⟩ := hpast
  simp only [List.append_assoc, List.singleton_append] at hrest
  simp only [List.length_append, List.length_singleton, ← Nat.add_assoc] at hoffset
  rw [hrest, readString_body h, ← hoffset]

theorem body_of_readString {c c' : Cursor} {s : String} (h : readString c = .ok (s, c')) :
    ∃ raw bs, c.Past (raw ++ [ascii '"']) c' ∧ Body raw bs ∧
      String.fromUTF8? ⟨bs.toArray⟩ = some s := by
  rw [readString] at h
  cases hscan : scanString c.offset [] c.rest with
  | error e =>
    rw [hscan] at h
    cases h
  | ok x =>
    obtain ⟨bs, after⟩ := x
    simp only [hscan, bind, Except.bind] at h
    split at h
    · rename_i s' hs
      cases h
      obtain ⟨raw, content, hraw, rfl, hoff, hb⟩ := body_of_scanString hscan
      refine ⟨raw, _, ⟨by simpa using hraw, ?_⟩, hb, hs⟩
      rw [hoff, List.length_append, List.length_singleton, Nat.add_assoc]
    · cases h

/-! ### Strings that were written -/

theorem codePointBytes_eq (n : Nat) : codePointBytes n = Jwt.bytesOf [Char.ofNat n] := by
  rw [codePointBytes, Jwt.toUTF8_toList]
  simp

/-- The byte stands for itself in a string. -/
def isPlain (b : UInt8) : Prop := b ≠ ascii '"' ∧ b ≠ ascii '\\' ∧ ¬ b < 32

theorem Body.append_plain {bytes raw bs : List UInt8} (hb : ∀ b ∈ bytes, isPlain b)
    (h : Body raw bs) : Body (bytes ++ raw) (bytes ++ bs) := by
  induction bytes with
  | nil => exact h
  | cons b bytes ih =>
    obtain ⟨h₁, h₂, h₃⟩ := hb b List.mem_cons_self
    exact .plain h₁ h₂ h₃ (ih fun x hx => hb x (List.mem_cons_of_mem _ hx))

theorem isPlain_of_toNat {b : UInt8} (hq : b.toNat ≠ 34) (hb : b.toNat ≠ 92) (hc : 32 ≤ b.toNat) :
    isPlain b := by
  refine ⟨?_, ?_, ?_⟩
  · rintro rfl; exact hq rfl
  · rintro rfl; exact hb rfl
  · rw [UInt8.lt_iff_toNat_lt]
    exact Nat.not_lt.2 hc

/-- What is neither a quote, a backslash nor a control character stands for itself. -/
theorem isPlain_of_mem {c : Char} (hq : c ≠ '"') (hb : c ≠ '\\') (hc : ¬ c.toNat < 32) {b : UInt8}
    (h : b ∈ String.utf8EncodeChar c) : isPlain b := by
  have hq' : c.val.toNat ≠ 34 := fun h => hq (Char.toNat_inj.1 h)
  have hb' : c.val.toNat ≠ 92 := fun h => hb (Char.toNat_inj.1 h)
  have hc' : ¬ c.val.toNat < 32 := hc
  -- the bytes of what is not ASCII are all beyond ASCII
  have hbig : ∀ n, 128 ≤ n % 256 → isPlain (UInt8.ofNat n) := fun n hn => by
    refine isPlain_of_toNat ?_ ?_ ?_ <;> rw [UInt8.toNat_ofNat'] <;> omega
  rw [String.utf8EncodeChar] at h
  split_ifs at h with h₁ h₂ h₃ <;> simp only [List.mem_cons, List.not_mem_nil, or_false] at h
  · subst h
    refine isPlain_of_toNat ?_ ?_ ?_ <;> rw [UInt8.toNat_ofNat'] <;> omega
  · rcases h with rfl | rfl
    · exact hbig _ (by omega)
    · exact hbig _ (by omega)
  · rcases h with rfl | rfl | rfl
    · exact hbig _ (by omega)
    · exact hbig _ (by omega)
    · exact hbig _ (by omega)
  · rcases h with rfl | rfl | rfl | rfl
    · exact hbig _ (by omega)
    · exact hbig _ (by omega)
    · exact hbig _ (by omega)
    · exact hbig _ (by omega)

/-- A short escape spells its character. -/
theorem escapeLetter_spec {c e : Char} (h : escapeLetter? c = some e) :
    c.toNat < 128 ∧ e.toNat < 128 ∧ escapeByte? (ascii e) = some (ascii c) := by
  unfold escapeLetter? at h
  split_ifs at h with h₁ h₂ h₃ h₄ h₅ h₆ h₇
  · cases h; subst h₁; decide
  · cases h; subst h₂; decide
  · cases h
    obtain rfl : c = Char.ofNat 8 := by rw [← h₃, Char.ofNat_toNat]
    decide
  · cases h
    obtain rfl : c = Char.ofNat 12 := by rw [← h₄, Char.ofNat_toNat]
    decide
  · cases h; subst h₅; decide
  · cases h; subst h₆; decide
  · cases h; subst h₇; decide

theorem hexDigit_spec : ∀ n < 32,
    (hexDigit (n / 16)).toNat < 128 ∧ (hexDigit (n % 16)).toNat < 128 ∧
    hexFour? (ascii '0') (ascii '0') (ascii (hexDigit (n / 16))) (ascii (hexDigit (n % 16))) =
      some n ∧
    isLowSurrogate n = false ∧ isHighSurrogate n = false := by
  decide

/-- A character that was written spells itself. -/
theorem Body.writeChar (c : Char) {raw bs : List UInt8} (h : Body raw bs) :
    Body (Jwt.bytesOf (Json.writeChar c) ++ raw) (String.utf8EncodeChar c ++ bs) := by
  unfold Json.writeChar
  cases he : escapeLetter? c with
  | some e =>
    obtain ⟨hc, he', hb⟩ := escapeLetter_spec he
    rw [utf8EncodeChar_ascii hc, Jwt.bytesOf_ascii (by simp [he'])]
    exact .escape hb h
  | none =>
    simp only
    split_ifs with hcontrol
    · obtain ⟨h₁, h₂, hn, hlow, hhigh⟩ := hexDigit_spec _ hcontrol
      have := Body.code hn hlow hhigh h
      rw [codePointBytes_eq, Char.ofNat_toNat, Jwt.bytesOf_cons, Jwt.bytesOf_nil,
        List.append_nil] at this
      rw [Jwt.bytesOf_ascii (by simp [h₁, h₂])]
      exact this
    · rw [Jwt.bytesOf_cons, Jwt.bytesOf_nil, List.append_nil]
      refine h.append_plain fun b hb => isPlain_of_mem ?_ ?_ hcontrol hb
      · rintro rfl; simp [escapeLetter?] at he
      · rintro rfl; simp [escapeLetter?] at he

/-- **What was written as a string spells the string.** -/
theorem Body.writeText (cs : List Char) :
    Body (Jwt.bytesOf (cs.flatMap Json.writeChar)) (Jwt.bytesOf cs) := by
  induction cs with
  | nil => simpa using Body.nil
  | cons c cs ih =>
    rw [List.flatMap_cons, Jwt.bytesOf_append, Jwt.bytesOf_cons]
    exact ih.writeChar c

end Gatehouse.Json
