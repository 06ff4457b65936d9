/-
  Gatehouse — the objects of a JSON text.

  `Object` is the grammar of an object with the keys of its members and the texts of their values;
  `Spells` says of the text of a value which document it is.

  * `Record.object_of_readAll`: what is read as a record from an object is an object, with a member
    for each step of the reader;
  * `Members.forms`: the members of an object are those of a value.
-/
import Gatehouse.Proofs.JsonRecords

namespace Gatehouse.Json

/-! ## Grammar -/

/-- The members of an object with their keys and the texts of their values, up to its end: all of
    them, or those that follow one. -/
inductive Members : Bool → List (String × List UInt8) → List UInt8 → Prop
  | close {first s} : Spaces s → Members first [] (s ++ [ascii '\x7d'])
  | member {first s sep key raw s' s'' v ms t} : Spaces s → Separator first sep →
      Body raw (Jwt.bytesOf key.toList) → Spaces s' → Spaces s'' → Forms .value v →
      Members false ms t →
      Members first ((key, v) :: ms)
        (s ++ (sep ++ (ascii '"' :: (raw ++ ascii '"' :: (s' ++ [ascii ':'])) ++
          (s'' ++ (v ++ t)))))

/-- The text is an object with these members, with spaces around it. -/
inductive Object (ms : List (String × List UInt8)) : List UInt8 → Prop
  | mk {s t s'} : Spaces s → Members true ms t → Spaces s' →
      Object ms (s ++ ascii '\x7b' :: (t ++ s'))

/-- The text of a value spells the document. -/
inductive Spells : List UInt8 → Doc → Prop
  | text {raw} {t : String} : Body raw (Jwt.bytesOf t.toList) →
      Spells (ascii '"' :: (raw ++ [ascii '"'])) (.text t)
  | int {n : Int} : Spells (intBytes n) (.int n)

/-- The members of an object are those of a value. -/
theorem Members.forms {first : Bool} {ms : List (String × List UInt8)} {t : List UInt8}
    (h : Members first ms t) : Forms (.rest .object first) t := by
  induction h with
  | close hs => exact @Forms.close .object _ _ hs
  | member hs hsep hbody hs' hs'' hv _ ih =>
    exact .entry hs hsep (.object hbody.loose hs') hs'' hv ih

/-! ## Documents that were written -/

/-- The digits of a number are whole. -/
theorem Digits.whole {n : Nat} {ds : List Nat} (h : Digits n ds) : Whole (ds.map digitByte) := by
  rcases h.head with rfl | ⟨d, rest, rfl, hd⟩
  · exact ⟨⟨by simp, isSome_digitByte h.small⟩, fun _ => rfl⟩
  · refine ⟨⟨by simp, isSome_digitByte h.small⟩, fun hzero => absurd ?_ hd⟩
    have hdigit := digit_digitByte d (h.small d List.mem_cons_self)
    rw [Option.some.inj hzero] at hdigit
    exact (Option.some.inj hdigit).symm

theorem forms_int (n : Int) : Forms .value (intBytes n) := by
  have numeral : ∀ {k ds}, Digits k ds → Numeral (ds.map digitByte) := by
    intro k ds h
    simpa using Numeral.mk h.whole .none .none
  rcases natural_or_negative n with ⟨k, rfl⟩ | ⟨k, hk, rfl⟩
  · obtain ⟨ds, hds, -⟩ := Digits.exists k
    rw [intBytes_natural hds]
    exact .number (numeral hds)
  · obtain ⟨ds, hds, -⟩ := Digits.exists k
    rw [intBytes_negative hk hds]
    exact .negative (numeral hds)

/-- The members as texts. -/
def writtenTexts (ms : List (String × Doc)) : List (String × List UInt8) :=
  ms.map fun m => (m.1, Jwt.bytesOf (write m.2))

theorem members_cons {first : Bool} {k : String} {v : Doc} {ms : List (String × Doc)}
    (hv : Forms .value (Jwt.bytesOf (write v)))
    (hms : Members false (writtenTexts ms) (Record.writtenMembers false ms ++ [ascii '\x7d'])) :
    Members first (writtenTexts ((k, v) :: ms))
      (Record.writtenMembers first ((k, v) :: ms) ++ [ascii '\x7d']) := by
  have := Members.member (s := []) .nil (separator_comma first) (Body.writeText k.toList) .nil .nil
    hv hms
  simpa [writtenTexts, Record.writtenMembers] using this

mutual

/-- **What is written is a value.** -/
theorem forms_write : ∀ d : Doc, Forms .value (Jwt.bytesOf (write d))
  | .null => by
    rw [write, Jwt.bytesOf_ascii (by simp)]
    exact .word (w := "null") (by decide)
  | .bool true => by
    rw [write, Jwt.bytesOf_ascii (by simp)]
    exact .word (w := "true") (by decide)
  | .bool false => by
    rw [write, Jwt.bytesOf_ascii (by simp)]
    exact .word (w := "false") (by decide)
  | .int n => by
    rw [write]
    exact forms_int n
  | .text t => by
    rw [write, Record.bytesOf_writeText]
    exact .text (Body.writeText t.toList).loose
  | .list [] => by
    rw [write, Jwt.bytesOf_ascii (by simp)]
    exact @Forms.compound .list _ (.close .nil)
  | .list (d :: ds) => by
    have := @Forms.compound .list _
      (.entry .nil .first .list .nil (forms_write d) (forms_writeItems ds))
    rw [write, List.cons_append, List.cons_append, Jwt.bytesOf_cons_ascii (by decide),
      Jwt.bytesOf_append, Jwt.bytesOf_append, Jwt.bytesOf_cons_ascii (by decide), Jwt.bytesOf_nil]
    simpa [Frame.opening] using this
  | .object [] => by
    rw [Record.bytesOf_writeObject]
    exact @Forms.compound .object _ (.close .nil)
  | .object ((k, d) :: ms) => by
    rw [Record.bytesOf_writeObject]
    exact @Forms.compound .object _ (members_cons (forms_write d) (members_write ms)).forms

theorem forms_writeItems : ∀ ds : List Doc,
    Forms (.rest .list false) (Jwt.bytesOf (writeItems ds) ++ [ascii ']'])
  | [] => by
    rw [writeItems, Jwt.bytesOf_nil]
    exact @Forms.close .list _ [] .nil
  | d :: ds => by
    have := Forms.entry .nil (.comma .nil) .list .nil (forms_write d) (forms_writeItems ds)
    rw [writeItems, List.cons_append, Jwt.bytesOf_cons_ascii (by decide), Jwt.bytesOf_append]
    simpa using this

theorem members_write : ∀ ms : List (String × Doc),
    Members false (writtenTexts ms) (Record.writtenMembers false ms ++ [ascii '\x7d'])
  | [] => .close (s := []) .nil
  | (_, d) :: ms => members_cons (forms_write d) (members_write ms)

end

/-- **What is written of members is an object of them.** -/
theorem object_write (ms : List (String × Doc)) :
    Object (writtenTexts ms) (Jwt.bytesOf (write (.object ms))) := by
  have hms : Members true (writtenTexts ms) (Record.writtenMembers true ms ++ [ascii '\x7d']) := by
    cases ms with
    | nil => exact .close (s := []) .nil
    | cons m ms => exact members_cons (forms_write m.2) (members_write ms)
  rw [Record.bytesOf_writeObject]
  simpa using Object.mk .nil hms .nil

/-! ## Records -/

theorem Cursor.Past.take {c c' : Cursor} {raw : List UInt8} (h : c.Past raw c') :
    c.rest.take (c'.offset - c.offset) = raw := by
  rw [h.1, h.2, Nat.add_sub_cancel_left, List.take_left]

theorem spaces_of_atEnd {c : Cursor} (h : atEnd c = .ok ()) : Spaces c.rest := by
  obtain ⟨s, hs, hpast, -⟩ := past_skipSpace c
  rw [atEnd] at h
  split_ifs at h with hempty
  rw [hpast.1, List.isEmpty_iff.1 hempty, List.append_nil]
  exact hs

namespace Record

variable {σ α : Type} {r : Record σ α}

/-- The members that were read: their keys and the texts of their values. -/
def textOf (m : String × Cursor × Cursor) : String × List UInt8 :=
  (m.1, m.2.1.skipSpace.rest.take (m.2.2.offset - m.2.1.skipSpace.offset))

/-- A chain leads through members up to the closing brace. -/
theorem Chain.members (hr : r.Strict) {first : Bool} {d d' : σ} {c c' : Cursor}
    {ms : List (String × Cursor × Cursor)} (h : Chain r first d c ms d' c') :
    ∃ t, c.Past t c'.next ∧ Members first (ms.map textOf) t := by
  induction h with
  | @close first d c c' hkey =>
    obtain ⟨rfl, hclose⟩ := closing_of_nextKey hkey
    obtain ⟨s, hs, hpast, -⟩ := past_skipSpace c
    exact ⟨_, hpast.trans (Cursor.past_next hclose), .close hs⟩
  | @member first d c key c₁ c₂ d₁ c₃ ms d' c' hkey hcolon htakes _ ih =>
    obtain ⟨t, hrest, hms⟩ := ih
    obtain ⟨s, sep, raw, hs, hsep, hpast₁, hbody⟩ := body_of_nextKey hkey
    obtain ⟨s', hs', hpast₂⟩ := past_readColon hcolon
    obtain ⟨s'', hs'', hpast₃, -⟩ := past_skipSpace c₂
    obtain ⟨v, hpast₄, hv⟩ := forms_of_skipValue (htakes.skipValue hr)
    have htext : textOf (key, c₂, c₃) = (key, v) := by rw [textOf, hpast₄.take]
    rw [List.map_cons, htext]
    refine ⟨_, ?_, .member hs hsep hbody hs' hs'' hv hms⟩
    have := hpast₁.trans (hpast₂.trans (hpast₃.trans (hpast₄.trans hrest)))
    simpa using this

/-- **What is read as a record from an object is an object.** -/
theorem object_of_readAll (hr : r.Strict) {text : List UInt8} {a : α}
    (hopen : (Cursor.start text).skipSpace.rest.head? = some (ascii '\x7b'))
    (h : readAll r.read text = .ok a) :
    ∃ ms d c', Chain r true r.start (Cursor.start text).skipSpace.next ms d c' ∧
      r.finish d = .ok a ∧ atEnd c'.next = .ok () ∧ Object (ms.map textOf) text := by
  rw [readAll] at h
  obtain ⟨⟨a', c⟩, hread, h⟩ := ok_of_bind h
  obtain ⟨⟨⟩, hend, h⟩ := ok_of_bind h
  cases h
  obtain ⟨ms, d, c', hchain, hfinish, rfl⟩ := chain_of_read hr.forward hopen hread
  refine ⟨ms, d, c', hchain, hfinish, hend, ?_⟩
  obtain ⟨s, hs, hspace, -⟩ := past_skipSpace (Cursor.start text)
  obtain ⟨t, ht, hms⟩ := hchain.members hr
  have htext := (hspace.trans ((Cursor.past_next hopen).trans ht)).1
  rw [Cursor.start] at htext
  simp only [List.append_assoc, List.cons_append, List.nil_append] at htext
  rw [htext]
  exact .mk hs hms (spaces_of_atEnd hend)

end Record

end Gatehouse.Json
