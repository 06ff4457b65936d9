/-
  Gatehouse — inside and outside the strings of a JSON text.

  `Lexed` says of what is left of a text whether it starts inside a string or outside. Values are
  passed over on the side on which they start, also where a reader has lost its place and takes
  the strings of a text for what stands between them.

  * `lexed_of_forms`: a value is lexed from outside its strings;
  * `Forms.past`: what follows a value is on the side of the value;
  * `Record.Chain.inside`: a reader that is inside of a string stays inside of strings, as what it
    takes for a key is the name of no field.
-/
import Gatehouse.Proofs.JsonRecords

namespace Gatehouse.Json

/-! ## Sides -/

/-- What may follow the closing quote of a string. -/
def Follows (t : List UInt8) : Prop :=
  ∀ b, t.head? = some b → isSpace b = true ∨ b ∈ [ascii ',', ascii ':', ascii ']', ascii '\x7d']

/-- What is left of a text starts inside a string, or outside. -/
inductive Lexed : Bool → List UInt8 → Prop
  | nil : Lexed false []
  | opening {t} : Lexed true t → Lexed false (ascii '"' :: t)
  | closing {t} : Follows t → Lexed false t → Lexed true (ascii '"' :: t)
  | plain {inside b t} : b ≠ ascii '"' → b ≠ ascii '\\' → Lexed inside t → Lexed inside (b :: t)
  | escape {e t} : Lexed true t → Lexed true (ascii '\\' :: e :: t)

namespace Lexed

variable {inside : Bool} {t : List UInt8}

theorem of_plain {b : UInt8} (hq : b ≠ ascii '"') (hb : b ≠ ascii '\\')
    (h : Lexed inside (b :: t)) : Lexed inside t := by
  cases h with
  | opening => exact absurd rfl hq
  | closing => exact absurd rfl hq
  | plain _ _ h => exact h
  | escape => exact absurd rfl hb

theorem of_quote (h : Lexed inside (ascii '"' :: t)) :
    Lexed (!inside) t ∧ (inside = true → Follows t) := by
  cases h with
  | opening h => exact ⟨h, nofun⟩
  | closing hfollows h => exact ⟨h, fun _ => hfollows⟩
  | plain hq => exact absurd rfl hq

theorem of_escape {e : UInt8} (h : Lexed inside (ascii '\\' :: e :: t)) : Lexed inside t := by
  cases h with
  | plain _ hb => exact absurd rfl hb
  | escape h => exact h

/-- There are no backslashes outside. -/
theorem ne_backslash {b : UInt8} (h : Lexed false (b :: t)) : b ≠ ascii '\\' := by
  cases h with
  | opening => exact backslash_ne_quote.symm
  | plain _ hb => exact hb

end Lexed

/-- Neither quotes nor backslashes. -/
def Unquoted (raw : List UInt8) : Prop := ∀ b ∈ raw, b ≠ ascii '"' ∧ b ≠ ascii '\\'

theorem Unquoted.nil : Unquoted [] := by simp [Unquoted]

theorem Unquoted.cons {b : UInt8} {raw : List UInt8} (hq : b ≠ ascii '"') (hb : b ≠ ascii '\\')
    (h : Unquoted raw) : Unquoted (b :: raw) := by
  intro x hx
  rcases List.mem_cons.1 hx with rfl | hx
  · exact ⟨hq, hb⟩
  · exact h x hx

theorem Unquoted.append {raw raw' : List UInt8} (h : Unquoted raw) (h' : Unquoted raw') :
    Unquoted (raw ++ raw') := by
  intro x hx
  rcases List.mem_append.1 hx with hx | hx
  · exact h x hx
  · exact h' x hx

theorem Spaces.unquoted {s : List UInt8} (h : Spaces s) : Unquoted s := by
  intro b hb
  have hspace := h b hb
  constructor
  · rintro rfl
    exact absurd hspace (by decide)
  · rintro rfl
    exact absurd hspace (by decide)

theorem DigitRun.unquoted {raw : List UInt8} (h : DigitRun raw) : Unquoted raw := by
  intro b hb
  have hdigit := h.2 b hb
  constructor
  · rintro rfl
    exact absurd hdigit (by decide)
  · rintro rfl
    exact absurd hdigit (by decide)

theorem Numeral.unquoted {raw : List UInt8} (h : Numeral raw) : Unquoted raw := by
  cases h with
  | mk hw hf he =>
    refine hw.1.unquoted.append (.append ?_ ?_)
    · cases hf with
      | none => exact .nil
      | some hds => exact .cons (by decide) (by decide) hds.unquoted
    · cases he with
      | none => exact .nil
      | @some e sign ds hletter hsign hds =>
        have hs : Unquoted sign := by
          simp only [List.mem_cons, List.not_mem_nil, or_false] at hsign
          rcases hsign with rfl | rfl | rfl
          · exact .nil
          · exact .cons (by decide) (by decide) .nil
          · exact .cons (by decide) (by decide) .nil
        rcases hletter with rfl | rfl
        · exact .cons (by decide) (by decide) (hs.append hds.unquoted)
        · exact .cons (by decide) (by decide) (hs.append hds.unquoted)

/-- Neither quotes nor backslashes change the side. -/
theorem lexed_append {raw : List UInt8} (h : Unquoted raw) {inside : Bool} {t : List UInt8} :
    Lexed inside (raw ++ t) ↔ Lexed inside t := by
  induction raw with
  | nil => rfl
  | cons b raw ih =>
    obtain ⟨hq, hb⟩ := h b List.mem_cons_self
    have ih := ih fun x hx => h x (List.mem_cons_of_mem _ hx)
    rw [List.cons_append]
    exact ⟨fun hl => ih.1 (hl.of_plain hq hb), fun hl => .plain hq hb (ih.2 hl)⟩

theorem hexDigit_unquoted {b : UInt8} {n : Nat} (h : hexValue? b = some n) :
    b ≠ ascii '"' ∧ b ≠ ascii '\\' := by
  constructor
  · rintro rfl
    exact absurd h (by rw [show hexValue? (ascii '"') = none by decide]; simp)
  · rintro rfl
    exact absurd h (by rw [show hexValue? (ascii '\\') = none by decide]; simp)

theorem hexFour_unquoted {p q r s : UInt8} {n : Nat} (h : hexFour? p q r s = some n) :
    Unquoted [p, q, r, s] := by
  simp only [hexFour?, Option.bind_eq_bind, Option.bind_eq_some_iff] at h
  obtain ⟨_, hp, _, hq, _, hr, _, hs, -⟩ := h
  intro b hb
  simp only [List.mem_cons, List.not_mem_nil, or_false] at hb
  rcases hb with rfl | rfl | rfl | rfl
  · exact hexDigit_unquoted hp
  · exact hexDigit_unquoted hq
  · exact hexDigit_unquoted hr
  · exact hexDigit_unquoted hs

/-- The bytes of a string are inside up to its closing quote. -/
theorem lexed_of_loose {raw t : List UInt8} (h : Loose raw) (hfollows : Follows t)
    (ht : Lexed false t) : Lexed true (raw ++ ascii '"' :: t) := by
  induction h with
  | nil => exact .closing hfollows ht
  | plain hq hb _ _ ih => exact .plain hq hb ih
  | escape _ _ ih => exact .escape ih
  | code hn _ ih => exact .escape ((lexed_append (hexFour_unquoted hn)).2 ih)

/-- Behind the closing quote is the other side. -/
theorem Loose.past {raw t : List UInt8} (h : Loose raw) {inside : Bool}
    (hl : Lexed inside (raw ++ ascii '"' :: t)) :
    Lexed (!inside) t ∧ (inside = true → Follows t) := by
  induction h with
  | nil => exact hl.of_quote
  | plain hq hb _ _ ih => exact ih (hl.of_plain hq hb)
  | escape _ _ ih => exact ih hl.of_escape
  | code hn _ ih => exact ih ((lexed_append (hexFour_unquoted hn)).1 hl.of_escape)

/-! ## Values -/

theorem Label.past {frame : Frame} {label t : List UInt8} (h : Label frame label) {inside : Bool}
    (hl : Lexed inside (label ++ t)) : Lexed inside t := by
  cases h with
  | list => exact hl
  | @object raw s hraw hs =>
    simp only [List.cons_append, List.append_assoc] at hl
    have hl := (hraw.past hl.of_quote.1).1
    rw [Bool.not_not, lexed_append hs.unquoted] at hl
    exact hl.of_plain (by decide) (by decide)

theorem Separator.unquoted {first : Bool} {sep : List UInt8} (h : Separator first sep) :
    Unquoted sep := by
  cases h with
  | first => exact .nil
  | comma hs => exact .cons (by decide) (by decide) hs.unquoted

theorem Frame.opening_unquoted (frame : Frame) :
    frame.opening ≠ ascii '"' ∧ frame.opening ≠ ascii '\\' := by
  cases frame <;> decide

theorem Frame.closing_unquoted (frame : Frame) :
    frame.closing ≠ ascii '"' ∧ frame.closing ≠ ascii '\\' := by
  cases frame <;> decide

theorem unquoted_of_word {w : String} (hw : w ∈ ["null", "true", "false"]) :
    Unquoted (w.toList.map ascii) := by
  have hall : ∀ w ∈ ["null", "true", "false"],
      (w.toList.map ascii).all (fun b => b ≠ ascii '"' ∧ b ≠ ascii '\\') = true := by decide
  intro b hb
  exact of_decide_eq_true (List.all_eq_true.1 (hall w hw) b hb)

/-- What follows a value is on the side of the value. -/
theorem Forms.past {part : Part} {raw t : List UInt8} (h : Forms part raw) {inside : Bool}
    (hl : Lexed inside (raw ++ t)) : Lexed inside t := by
  induction h generalizing t with
  | word hw => exact (lexed_append (unquoted_of_word hw)).1 hl
  | number hn => exact (lexed_append hn.unquoted).1 hl
  | negative hn => exact (lexed_append hn.unquoted).1 (hl.of_plain (by decide) (by decide))
  | text hraw =>
    simp only [List.cons_append, List.append_assoc, List.nil_append] at hl
    simpa using (hraw.past hl.of_quote.1).1
  | compound _ ih =>
    exact ih (hl.of_plain (Frame.opening_unquoted _).1 (Frame.opening_unquoted _).2)
  | close hs =>
    rw [List.append_assoc, lexed_append hs.unquoted] at hl
    exact hl.of_plain (Frame.closing_unquoted _).1 (Frame.closing_unquoted _).2
  | entry hs hsep hlabel hs' _ _ ih₁ ih₂ =>
    simp only [List.append_assoc] at hl
    rw [lexed_append hs.unquoted, lexed_append hsep.unquoted] at hl
    exact ih₂ (ih₁ ((lexed_append hs'.unquoted).1 (hlabel.past hl)))

theorem follows_cons {b : UInt8} {t : List UInt8}
    (hb : isSpace b = true ∨ b ∈ [ascii ',', ascii ':', ascii ']', ascii '\x7d']) :
    Follows (b :: t) := by
  rintro x ⟨⟩
  exact hb

theorem follows_append {s t : List UInt8} (hs : Spaces s) (ht : Follows t) : Follows (s ++ t) := by
  cases s with
  | nil => exact ht
  | cons b s => exact follows_cons (.inl (hs b List.mem_cons_self))

/-- What is left of a list or an object may follow a string. -/
theorem Forms.follows {frame : Frame} {raw t : List UInt8} (h : Forms (.rest frame false) raw) :
    Follows (raw ++ t) := by
  cases h with
  | close hs =>
    rw [List.append_assoc]
    refine follows_append hs (follows_cons (.inr ?_))
    cases frame <;> decide
  | entry hs hsep =>
    cases hsep with
    | comma =>
      simp only [List.append_assoc, List.cons_append]
      exact follows_append hs (follows_cons (by decide))

/-- **A value is lexed from outside its strings.** -/
theorem lexed_of_forms {part : Part} {raw t : List UInt8} (h : Forms part raw)
    (hfollows : part = .value → Follows t) (ht : Lexed false t) : Lexed false (raw ++ t) := by
  induction h generalizing t with
  | word hw => exact (lexed_append (unquoted_of_word hw)).2 ht
  | number hn => exact (lexed_append hn.unquoted).2 ht
  | negative hn => exact .plain (by decide) (by decide) ((lexed_append hn.unquoted).2 ht)
  | text hraw =>
    simp only [List.cons_append, List.append_assoc, List.nil_append]
    exact .opening (lexed_of_loose hraw (hfollows rfl) ht)
  | compound _ ih =>
    exact .plain (Frame.opening_unquoted _).1 (Frame.opening_unquoted _).2 (ih nofun ht)
  | close hs =>
    rw [List.append_assoc, lexed_append hs.unquoted]
    exact .plain (Frame.closing_unquoted _).1 (Frame.closing_unquoted _).2 ht
  | entry hs hsep hlabel hs' _ hrest ih₁ ih₂ =>
    simp only [List.append_assoc]
    have hvalue := (lexed_append hs'.unquoted).2 (ih₁ (fun _ => hrest.follows) (ih₂ nofun ht))
    rw [lexed_append hs.unquoted, lexed_append hsep.unquoted]
    cases hlabel with
    | list => exact hvalue
    | object hraw hspace =>
      simp only [List.cons_append, List.append_assoc, List.nil_append]
      refine .opening (lexed_of_loose hraw (follows_append hspace (follows_cons (by decide))) ?_)
      exact (lexed_append hspace.unquoted).2 (.plain (by decide) (by decide) hvalue)

/-! ## Readers that are inside of a string -/

/-- What is read leads to the same side. -/
theorem Cursor.Past.lexed {c c' : Cursor} {raw : List UInt8} (h : c.Past raw c')
    (hraw : Unquoted raw) {inside : Bool} :
    Lexed inside c.rest ↔ Lexed inside c'.rest := by
  rw [h.1, lexed_append hraw]

theorem lexed_skipSpace {c : Cursor} {inside : Bool} :
    Lexed inside c.skipSpace.rest ↔ Lexed inside c.rest := by
  obtain ⟨s, hs, hpast, -⟩ := past_skipSpace c
  exact (hpast.lexed hs.unquoted).symm

theorem lexed_of_readColon {c c' : Cursor} (h : readColon c = .ok c') {inside : Bool} :
    Lexed inside c.rest ↔ Lexed inside c'.rest := by
  obtain ⟨s, hs, hpast⟩ := past_readColon h
  exact hpast.lexed (hs.unquoted.append (.cons (by decide) (by decide) .nil))

theorem lexed_of_skipValue {c c' : Cursor} (h : skipValue c = .ok c') {inside : Bool}
    (hl : Lexed inside c.rest) : Lexed inside c'.rest := by
  obtain ⟨v, hpast, hv⟩ := forms_of_skipValue h
  rw [← lexed_skipSpace, hpast.1] at hl
  exact hv.past hl

theorem lexed_of_nextKey {first : Bool} {c c' : Cursor} {key : Option String}
    (h : nextKey first c = .ok (key, c')) {inside : Bool} (hl : Lexed inside c.rest) :
    Lexed inside c'.rest := by
  cases key with
  | none =>
    obtain ⟨rfl, -⟩ := closing_of_nextKey h
    exact lexed_skipSpace.2 hl
  | some key =>
    obtain ⟨s, sep, raw, hs, hsep, hpast, hbody⟩ := body_of_nextKey h
    rw [hpast.1] at hl
    simp only [List.append_assoc, List.cons_append, List.nil_append] at hl
    rw [lexed_append hs.unquoted, lexed_append hsep.unquoted] at hl
    simpa using (hbody.loose.past hl.of_quote.1).1

/-- What is taken for a key inside of a string is what follows the string. -/
theorem follows_of_nextKey {first : Bool} {c c' : Cursor} {key : String}
    (h : nextKey first c = .ok (some key, c')) (hl : Lexed true c.rest) :
    Follows (Jwt.bytesOf key.toList) := by
  obtain ⟨s, sep, raw, hs, hsep, hpast, hbody⟩ := body_of_nextKey h
  rw [hpast.1] at hl
  simp only [List.append_assoc, List.cons_append, List.nil_append] at hl
  rw [lexed_append hs.unquoted, lexed_append hsep.unquoted] at hl
  obtain ⟨hl, hfollows⟩ := hl.of_quote
  have hfollows := hfollows rfl
  cases raw with
  | nil => exact absurd (hfollows (ascii '"') rfl) (by decide)
  | cons b raw =>
    have hback := Lexed.ne_backslash hl
    generalize Jwt.bytesOf key.toList = bs at hbody
    cases hbody with
    | plain _ _ _ _ => exact follows_cons (hfollows b rfl)
    | escape => exact absurd rfl hback
    | code => exact absurd rfl hback
    | pair => exact absurd rfl hback

/-- **A reader that is inside of a string stays inside of strings**, if its fields are none of what
    may follow a string. -/
theorem Record.Chain.inside {σ α : Type} {r : Record σ α}
    (hr : ∀ f ∈ r.fields, ¬ Follows (Jwt.bytesOf f.name.toList)) {first : Bool} {d d' : σ}
    {c c' : Cursor} {ms : List (String × Cursor × Cursor)} (h : Chain r first d c ms d' c')
    (hl : Lexed true c.rest) : Lexed true c'.rest := by
  induction h with
  | close hkey => exact lexed_of_nextKey hkey hl
  | member hkey hcolon htakes _ ih =>
    refine ih ?_
    have hl₁ := (lexed_of_readColon hcolon).1 (lexed_of_nextKey hkey hl)
    cases htakes with
    | field hfind =>
      have hname := List.find?_some hfind
      simp only [decide_eq_true_eq] at hname
      exact absurd (hname ▸ follows_of_nextKey hkey hl) (hr _ (List.mem_of_find?_eq_some hfind))
    | other _ hskip => exact lexed_of_skipValue hskip hl₁

/-- The text does not end inside of a string. -/
theorem atEnd_inside {c : Cursor} (hl : Lexed true c.rest) : atEnd c ≠ .ok () := by
  intro h
  rw [atEnd] at h
  split_ifs at h with hempty
  rw [← lexed_skipSpace, List.isEmpty_iff.1 hempty] at hl
  cases hl

end Gatehouse.Json
