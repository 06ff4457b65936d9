/-
  Gatehouse — what is wrong with a JSON value.

  A fault is one of the syntax or one of the data. Whether a reader finds one in a value, and of
  which kind, does not depend on where the value stands; and of a string it does not depend on the
  text that it spells.

  * `sameVerdict_readNumber`: a number is read, or is refused, wherever it stands;
  * `isData_of_readString`: what is wrong with a string is its syntax;
  * `readText_alike`: values that are alike are texts, or are refused with faults of one kind.
-/
import Gatehouse.Proofs.JsonReadings
import Gatehouse.Proofs.Lockstep

namespace Gatehouse.Json

/-- Both errors are of the syntax, or both are of the data. -/
def Error.SameKind (e e' : Error) : Prop := e.fault.isData = e'.fault.isData

/-- Both values are read, or both are refused with faults of one kind. -/
def SameVerdict {α : Type} : Except Error α → Except Error α → Prop :=
  Outcomes Error.SameKind fun _ _ => True

/-! ## Numbers -/

section

variable (negative : Bool) (significand : Nat) (e : Int) {c c' d d' : Cursor} {raw : List UInt8}

theorem sameVerdict_finishReal (c d : Cursor) :
    SameVerdict (finishReal negative significand e c) (finishReal negative significand e d) := by
  unfold finishReal
  cases real? negative significand e with
  | some x => exact .ok trivial
  | none => exact .error rfl

theorem sameVerdict_exponentGo (down : Bool) (c d after after' : Cursor) (n read read' : Nat)
    (ds : List Nat) :
    SameVerdict (readExponentDigits.go negative significand e down c after n read ds)
      (readExponentDigits.go negative significand e down d after' n read' ds) := by
  induction ds generalizing n read read' with
  | nil => exact sameVerdict_finishReal negative significand _ after after'
  | cons k ds ih =>
    rw [readExponentDigits.go, readExponentDigits.go]
    split_ifs
    · exact .error rfl
    · exact .ok trivial
    · exact .ok trivial
    · exact ih _ _ _

theorem sameVerdict_exponentDigits (down : Bool) (hraw : DigitRun raw) (hc : c.Past raw c')
    (hend : NoDigit c'.rest) (hd : d.Past raw d') (hend' : NoDigit d'.rest) :
    SameVerdict (readExponentDigits negative significand e down c)
      (readExponentDigits negative significand e down d) := by
  obtain ⟨ds, rfl, hsmall⟩ := hraw.exists_digits
  rw [readExponentDigits, readExponentDigits, takeDigits_digits hsmall hc hend,
    takeDigits_digits hsmall hd hend']
  exact sameVerdict_exponentGo negative significand e down c d c' d' 0 0 0 ds

/-- An exponent with digits is read from the first of them on. -/
theorem readExponent_past {b : UInt8} {sign ds : List UInt8}
    (hsign : sign ∈ [[], [ascii '-'], [ascii '+']]) (hds : DigitRun ds)
    (h : c.Past (b :: (sign ++ ds)) c') :
    (skipSign c.next).Past ds c' ∧ readExponent negative significand e c =
      readExponentDigits negative significand e ((sign ++ ds).head? = some (ascii '-'))
        (skipSign c.next) := by
  have hskip := skipSign_past hsign hds h.next.2
  refine ⟨hskip, ?_⟩
  obtain ⟨a, t, rfl, ha⟩ := hds.head
  obtain ⟨x, hx⟩ := cons_of_head? hskip.next.1
  have hhead : c.next.rest.head? = (sign ++ a :: t).head? := by
    rw [h.next.2.1]
    simp
  rw [readExponent_eq, hhead, hx]
  exact if_pos ha

theorem sameVerdict_readScale (hraw : Exponent raw) (hc : c.Past raw c') (hend : NumberEnd c'.rest)
    (hd : d.Past raw d') (hend' : NumberEnd d'.rest) :
    SameVerdict (readScale negative significand e c) (readScale negative significand e d) := by
  unfold readScale
  cases hraw with
  | none =>
    obtain rfl := (Cursor.Past.refl c).unique hc
    obtain rfl := (Cursor.Past.refl d).unique hd
    rw [atExponent_end hend, atExponent_end hend']
    exact sameVerdict_finishReal negative significand e c d
  | some hletter hsign hds =>
    obtain ⟨hdigits, hread⟩ := readExponent_past negative significand e hsign hds hc
    obtain ⟨hdigits', hread'⟩ := readExponent_past negative significand e hsign hds hd
    rw [if_pos (atExponent_of_letter hletter hc), if_pos (atExponent_of_letter hletter hd), hread,
      hread']
    exact sameVerdict_exponentDigits negative significand e _ hds hdigits hend.1 hdigits' hend'.1

theorem sameVerdict_readFraction {ds x : List UInt8} (hds : DigitRun ds) (hx : Exponent x)
    (hc : c.Past (ascii '.' :: ds ++ x) c') (hend : NumberEnd c'.rest)
    (hd : d.Past (ascii '.' :: ds ++ x) d') (hend' : NumberEnd d'.rest) :
    SameVerdict (readFraction negative significand e c)
      (readFraction negative significand e d) := by
  obtain ⟨ks, rfl, hsmall⟩ := hds.exists_digits
  obtain ⟨c₁, hdigits, hscale⟩ := hc.next.2.split
  obtain ⟨d₁, hdigits', hscale'⟩ := hd.next.2.split
  have htaken := takeDigits_digits hsmall hdigits (by rw [hscale.1]; exact hx.noDigit hend)
  have htaken' := takeDigits_digits hsmall hdigits' (by rw [hscale'.1]; exact hx.noDigit hend')
  have hne : ¬ ks.isEmpty = true := by simpa using hds.1
  simp only [readFraction, htaken, htaken', if_neg hne]
  exact sameVerdict_readScale negative _ _ hx hscale hend hscale' hend'

theorem sameVerdict_whole (dropped : Nat) (c d : Cursor) :
    SameVerdict (readTail.whole negative significand dropped c)
      (readTail.whole negative significand dropped d) := by
  unfold readTail.whole
  split_ifs
  · exact sameVerdict_finishReal negative significand dropped c d
  · exact .ok trivial
  · exact .ok trivial
  · exact .ok trivial

theorem readTail_fraction {t : List UInt8} (dropped : Nat) (h : c.Past (ascii '.' :: t) c') :
    readTail negative significand dropped c = readFraction negative significand dropped c := by
  obtain ⟨x, hx⟩ := cons_of_head? h.next.1
  rw [readTail, hx]
  exact if_pos rfl

theorem readTail_exponent {b : UInt8} {t : List UInt8} (dropped : Nat)
    (hb : b = ascii 'e' ∨ b = ascii 'E') (h : c.Past (b :: t) c') :
    readTail negative significand dropped c = readScale negative significand dropped c := by
  obtain ⟨x, hx⟩ := cons_of_head? h.next.1
  have hat := atExponent_of_letter hb h
  have hpoint : b ≠ ascii '.' := by
    rcases hb with rfl | rfl <;> decide
  rw [readTail, readScale, hx, if_pos hat]
  simp only [hpoint, hat, if_false, if_true]

theorem sameVerdict_readTail {f x : List UInt8} (dropped : Nat) (hf : Fraction f) (hx : Exponent x)
    (hc : c.Past (f ++ x) c') (hend : NumberEnd c'.rest) (hd : d.Past (f ++ x) d')
    (hend' : NumberEnd d'.rest) :
    SameVerdict (readTail negative significand dropped c)
      (readTail negative significand dropped d) := by
  cases hf with
  | some hds =>
    rw [readTail_fraction negative significand dropped hc,
      readTail_fraction negative significand dropped hd]
    exact sameVerdict_readFraction negative significand dropped hds hx hc hend hd hend'
  | none =>
    cases hx with
    | some hletter hsign hds =>
      rw [readTail_exponent negative significand dropped hletter hc,
        readTail_exponent negative significand dropped hletter hd]
      exact sameVerdict_readScale negative significand dropped (.some hletter hsign hds) hc hend hd
        hend'
    | none =>
      obtain rfl := (Cursor.Past.refl c).unique hc
      obtain rfl := (Cursor.Past.refl d).unique hd
      rw [readTail_end hend, readTail_end hend']
      exact sameVerdict_whole negative significand dropped c d

/-- A number is read from behind its whole digits on. -/
theorem readUnsigned_past {w f x : List UInt8} (hw : Whole w) (hf : Fraction f) (hx : Exponent x) :
    ∃ significand dropped, ∀ {c c' : Cursor}, c.Past (w ++ (f ++ x)) c' → NumberEnd c'.rest →
      ∃ c₁, c₁.Past (f ++ x) c' ∧
        readUnsigned negative c = readTail negative significand dropped c₁ := by
  obtain ⟨ks, rfl, hsmall⟩ := hw.1.exists_digits
  cases ks with
  | nil => exact absurd rfl hw.1.1
  | cons k ks =>
    refine ⟨(accumulate 0 (k :: ks)).1, (accumulate 0 (k :: ks)).2.length, fun {c c'} h hend => ?_⟩
    obtain ⟨c₁, hdigits, htail⟩ := h.split
    have hstop : NoDigit c₁.rest := by
      rw [htail.1, List.append_assoc]
      exact hf.noDigit hx hend
    refine ⟨c₁, htail, ?_⟩
    obtain ⟨t, ht⟩ := cons_of_head? hdigits.next.1
    have hk := digit_digitByte k (hsmall k List.mem_cons_self)
    cases k with
    | zero =>
      obtain rfl : ks = [] := by simpa using hw.2 rfl
      obtain rfl := (Cursor.past_next hdigits.next.1).unique hdigits
      unfold readUnsigned
      simp only [ht, hk, hstop.any_eq_false, Bool.false_eq_true, if_false]
      rfl
    | succ k =>
      unfold readUnsigned
      simp only [ht, hk]
      rw [takeDigits_digits hsmall hdigits hstop]

/-- **A number is read, or is refused, wherever it stands.** -/
theorem sameVerdict_readUnsigned (hraw : Numeral raw) (hc : c.Past raw c')
    (hend : NumberEnd c'.rest) (hd : d.Past raw d') (hend' : NumberEnd d'.rest) :
    SameVerdict (readUnsigned negative c) (readUnsigned negative d) := by
  obtain ⟨hw, hf, hx⟩ := hraw
  obtain ⟨significand, dropped, hread⟩ := readUnsigned_past negative hw hf hx
  obtain ⟨c₁, htail, hc₁⟩ := hread hc hend
  obtain ⟨d₁, htail', hd₁⟩ := hread hd hend'
  rw [hc₁, hd₁]
  exact sameVerdict_readTail negative significand dropped hf hx htail hend htail' hend'

end

theorem sameVerdict_readNumber {v : List UInt8} {c c' d d' : Cursor}
    (hv : Numeral v ∨ ∃ raw, v = ascii '-' :: raw ∧ Numeral raw) (hc : c.Past v c')
    (hend : NumberEnd c'.rest) (hd : d.Past v d') (hend' : NumberEnd d'.rest) :
    SameVerdict (readNumber c) (readNumber d) := by
  unfold readNumber
  rcases hv with hv | ⟨raw, rfl, hraw⟩
  · obtain ⟨b, t, rfl, hb⟩ := hv.head
    have hminus : ∀ {c c' : Cursor}, c.Past (b :: t) c' → c.rest.head? ≠ some (ascii '-') := by
      intro c c' h hs
      exact minus_ne_digit hb (Option.some.inj (h.next.1.symm.trans hs))
    rw [if_neg (hminus hc), if_neg (hminus hd)]
    exact sameVerdict_readUnsigned false hv hc hend hd hend'
  · rw [if_pos hc.next.1, if_pos hd.next.1]
    exact sameVerdict_readUnsigned true hraw hc.next.2 hend hd.next.2 hend'

/-! ## Strings -/

theorem isData_of_scanString {offset : Nat} {acc t : List UInt8} {e : Error}
    (h : scanString offset acc t = .error e) : e.fault.isData = false := by
  -- each case stops at a fault of the syntax, or goes on with the rest of the string
  fun_induction scanString offset acc t <;> simp_all [Fault.isData]
  all_goals (cases h; rfl)

/-- **What is wrong with a string is its syntax.** -/
theorem isData_of_readString {c : Cursor} {e : Error} (h : readString c = .error e) :
    e.fault.isData = false := by
  rw [readString] at h
  cases hscan : scanString c.offset [] c.rest with
  | error e' =>
    rw [hscan] at h
    cases h
    exact isData_of_scanString hscan
  | ok x =>
    rw [hscan] at h
    simp only [bind, Except.bind] at h
    split at h
    · cases h
    · cases h
      rfl

/-- A string that spells no text is refused. -/
theorem readString_unspelled {raw : List UInt8} (hraw : Loose raw)
    (hnone : ∀ t, ¬ Spells (ascii '"' :: (raw ++ [ascii '"'])) (.text t)) {c c' : Cursor}
    (h : c.Past (raw ++ [ascii '"']) c') :
    ∃ e, readString c = .error e ∧ e.fault.isData = false := by
  cases hread : readString c with
  | error e => exact ⟨e, rfl, isData_of_readString hread⟩
  | ok x =>
    obtain ⟨t, after⟩ := x
    obtain ⟨raw', bs, hpast, hbody, hutf⟩ := body_of_readString hread
    rw [Jwt.bytesOf_of_fromUTF8 hutf] at hbody
    have hsame : raw ++ ascii '"' :: c'.rest = raw' ++ ascii '"' :: after.rest := by
      simpa using h.1.symm.trans hpast.1
    obtain ⟨rfl, -⟩ := hraw.unique hbody.loose hsame
    exact absurd (.text hbody) (hnone t)

/-! ## Values of another form -/

/-- A number of another form is read. -/
theorem mismatch_number {c : Cursor} {b : UInt8} (h : c.rest.head? = some b)
    (hb : b = ascii '-' ∨ (digit? b).isSome) (expected : String) :
    (∀ n after, readNumber c = .ok (n, after) →
      mismatch c expected = after.here (.invalidType n.found expected)) ∧
    ∀ e, readNumber c = .error e → mismatch c expected = e := by
  obtain ⟨t, ht⟩ := cons_of_head? h
  have hletter : ∀ {a : UInt8}, a ≠ ascii '-' → (digit? a).isSome = false → b ≠ a := by
    rintro a hminus hdigit rfl
    rcases hb with hb | hb
    · exact hminus hb
    · rw [hdigit] at hb
      cases hb
  simp only [mismatch, ht]
  rw [if_neg (hletter (by decide) (by decide)), if_neg (hletter (by decide) (by decide)),
    if_neg (hletter (by decide) (by decide)), if_pos hb]
  exact ⟨fun n after hread => by rw [hread], fun e hread => by rw [hread]⟩

/-- A value that is no string is of another form wherever it stands. -/
theorem sameKind_mismatch (expected : String) {v : List UInt8} (hv : Forms .value v)
    (hquote : v.head? ≠ some (ascii '"')) {c c' d d' : Cursor} (hc : c.Past v c')
    (hend : NumberEnd c'.rest) (hd : d.Past v d') (hend' : NumberEnd d'.rest) :
    (mismatch c expected).SameKind (mismatch d expected) := by
  have number : ∀ {b : UInt8} {t : List UInt8}, v = b :: t → (b = ascii '-' ∨ (digit? b).isSome) →
      (Numeral v ∨ ∃ raw, v = ascii '-' :: raw ∧ Numeral raw) →
      (mismatch c expected).SameKind (mismatch d expected) := by
    rintro b t rfl hb hv
    have hread := sameVerdict_readNumber hv hc hend hd hend'
    obtain ⟨hok, herror⟩ := mismatch_number hc.next.1 hb expected
    obtain ⟨hok', herror'⟩ := mismatch_number hd.next.1 hb expected
    generalize readNumber c = x at hread hok herror
    generalize readNumber d = x' at hread hok' herror'
    cases hread with
    | ok =>
      rw [hok _ _ rfl, hok' _ _ rfl]
      rfl
    | error h =>
      rw [herror _ rfl, herror' _ rfl]
      exact h
  cases hv with
  | word hw =>
    obtain ⟨found, h⟩ := mismatch_word hw hc expected
    obtain ⟨found', h'⟩ := mismatch_word hw hd expected
    rw [h, h']
    rfl
  | number hn =>
    obtain ⟨b, t, heq, hb⟩ := hn.head
    exact number heq (.inr hb) (.inl hn)
  | negative hn => exact number rfl (.inl rfl) (.inr ⟨_, rfl, hn⟩)
  | text => exact absurd rfl hquote
  | @compound frame =>
    obtain ⟨t, ht⟩ := cons_of_head? hc.next.1
    obtain ⟨t', ht'⟩ := cons_of_head? hd.next.1
    unfold mismatch
    rw [ht, ht']
    cases frame <;> rfl

/-! ## Texts -/

/-- The values spell texts that satisfy `T`, or they are the same and spell none. -/
inductive Alike (T : String → String → Prop) : List UInt8 → List UInt8 → Prop
  | text {v v' t t'} : Spells v (.text t) → Spells v' (.text t') → T t t' → Alike T v v'
  | same {v} : (∀ t, ¬ Spells v (.text t)) → Alike T v v

theorem readText_quote {c : Cursor} (h : c.skipSpace.rest.head? = some (ascii '"')) :
    readText c = readString c.skipSpace.next := by
  rw [readText, atValue_of_some h, ok_bind]
  exact if_pos h

theorem readText_mismatch {c : Cursor} {b : UInt8} (h : c.skipSpace.rest.head? = some b)
    (hb : b ≠ ascii '"') : readText c = .error (mismatch c.skipSpace "a string") := by
  rw [readText, atValue_of_some h, ok_bind]
  exact if_neg fun hquote => hb (Option.some.inj (h.symm.trans hquote))

/-- A value that spells a text is read. -/
theorem readText_spelled {v : List UInt8} {t : String} (hv : Spells v (.text t)) {c c' : Cursor}
    (h : c.skipSpace.Past v c') : readText c = .ok (t, c') := by
  cases hv with
  | text hbody =>
    rw [readText_quote h.next.1]
    exact readString_past hbody h.next.2

/-- A value that starts with a quote is a string. -/
theorem Forms.quoted {t : List UInt8} (h : Forms .value (ascii '"' :: t)) :
    ∃ raw, t = raw ++ [ascii '"'] ∧ Loose raw := by
  generalize hv : ascii '"' :: t = v at h
  have hhead : ∀ {b : UInt8}, v.head? = some b → b = ascii '"' := by
    intro b hb
    rw [← hv] at hb
    exact (Option.some.inj hb).symm
  cases h with
  | text hraw =>
    cases hv
    exact ⟨_, rfl, hraw⟩
  | word hw =>
    simp only [List.mem_cons, List.not_mem_nil, or_false] at hw
    rcases hw with rfl | rfl | rfl <;> exact absurd (hhead rfl) (by decide)
  | number hn =>
    obtain ⟨b, x, rfl, hb⟩ := hn.head
    exact absurd (hhead rfl) (ne_of_digit (by decide) hb)
  | negative => exact absurd (hhead rfl) (by decide)
  | @compound frame => cases frame <;> exact absurd (hhead rfl) (by decide)

/-- **Values that are alike are both texts, or are refused with faults of one kind.** -/
theorem readText_alike {T : String → String → Prop} {v v' : List UInt8} (h : Alike T v v')
    (hv : Forms .value v) (hv' : Forms .value v') {c c' d d' : Cursor} (hc : c.skipSpace.Past v c')
    (hend : Follows c'.rest) (hd : d.skipSpace.Past v' d') (hend' : Follows d'.rest) :
    Outcomes Error.SameKind (fun x x' => T x.1 x'.1 ∧ x.2 = c' ∧ x'.2 = d') (readText c)
      (readText d) := by
  cases h with
  | text hspells hspells' ht =>
    rw [readText_spelled hspells hc, readText_spelled hspells' hd]
    exact .ok ⟨ht, rfl, rfl⟩
  | same hnone =>
    obtain ⟨b, t, rfl, -⟩ := hv.head
    by_cases hquote : b = ascii '"'
    · subst hquote
      rw [readText_quote hc.next.1, readText_quote hd.next.1]
      obtain ⟨raw, rfl, hloose⟩ := hv.quoted
      obtain ⟨e, he, hkind⟩ := readString_unspelled hloose hnone hc.next.2
      obtain ⟨e', he', hkind'⟩ := readString_unspelled hloose hnone hd.next.2
      rw [he, he']
      exact .error (hkind.trans hkind'.symm)
    · rw [readText_mismatch hc.next.1 hquote, readText_mismatch hd.next.1 hquote]
      have hhead : (b :: t).head? ≠ some (ascii '"') := fun h => hquote (Option.some.inj h)
      exact .error (sameKind_mismatch "a string" hv hhead hc hend.numberEnd hd hend'.numberEnd)

end Gatehouse.Json
