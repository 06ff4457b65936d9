/-
  Gatehouse — which access tokens are accepted.

  A token is read twice: strictly for its claims and leniently for what all tokens have in common.
  Both readings go along the same members, so that the expiry that counts is the one of the claims.

  * `Jwt.Claims.spelled`: a payload that is read as claims is an object that has each of the claims
    once;
  * `Jwt.lockstep`: the lenient reading goes along with the strict one, or ends inside of a string;
  * `Jwt.Signer.Carries.unique`: a token carries no other claims than its own;
  * `Jwt.Signer.accepts_only_signed`: an accepted token carries the signature of the signer, and
    another signature is refused before the payload is looked at.
-/
import Gatehouse.Proofs.JsonReadings
import Mathlib.Data.List.Forall2

namespace Gatehouse

namespace Jwt

open Json

/-! ## Claims that were read -/

namespace Claims

/-- What a draft has for the name of a member. -/
def Draft.get (d : Draft) (key : String) : Option Doc :=
  if key = "sub" then d.sub.map .text
  else if key = "email" then d.email.map .text
  else if key = "user_name" then d.userName.map .text
  else if key = "iss" then d.iss.map .text
  else if key = "aud" then d.aud.map .text
  else if key = "iat" then d.iat.map .int
  else if key = "exp" then d.exp.map .int
  else none

theorem some_of_required {α : Type} {name : String} {x : Option α} {a : α}
    (h : required name x = .ok a) : x = some a := by
  cases x with
  | none => cases h
  | some b => cases h; rfl

/-- A finished draft is that of the claims. -/
theorem draft_of_finish {d : Draft} {c : Claims} (h : d.finish = .ok c) : d = c.draft := by
  rw [Draft.finish] at h
  obtain ⟨sub, hsub, h⟩ := ok_of_bind h
  obtain ⟨email, hemail, h⟩ := ok_of_bind h
  obtain ⟨userName, huserName, h⟩ := ok_of_bind h
  obtain ⟨iss, hiss, h⟩ := ok_of_bind h
  obtain ⟨aud, haud, h⟩ := ok_of_bind h
  obtain ⟨iat, hiat, h⟩ := ok_of_bind h
  obtain ⟨exp, hexp, h⟩ := ok_of_bind h
  cases h
  rw [Claims.draft, ← some_of_required hsub, ← some_of_required hemail,
    ← some_of_required huserName, ← some_of_required hiss, ← some_of_required haud,
    ← some_of_required hiat, ← some_of_required hexp]

theorem get_draft (c : Claims) : ∀ m ∈ c.members, c.draft.get m.1 = some m.2 := by
  intro m hm
  simp only [members, List.mem_cons, List.not_mem_nil, or_false] at hm
  rcases hm with rfl | rfl | rfl | rfl | rfl | rfl | rfl <;> rfl

/-- A name that no field has is no member. -/
theorem get_unknown {key : String} (h : ∀ f ∈ record.fields, f.name ≠ key) (d : Draft) :
    d.get key = none := by
  simp only [record, Field.of, List.forall_mem_cons, List.not_mem_nil, false_imp_iff, implies_true,
    and_true] at h
  obtain ⟨h₁, h₂, h₃, h₄, h₅, h₆, h₇⟩ := h
  simp [Draft.get, h₁.symm, h₂.symm, h₃.symm, h₄.symm, h₅.symm, h₆.symm, h₇.symm]

/-- A member that is read gives the draft what its text spells. -/
theorem get_of_takes {d d' : Draft} {key : String} {c c' : Cursor}
    (h : Record.Takes record d key c d' c') :
    (d' = d ∧ ∀ d : Draft, d.get key = none) ∨
      ∃ raw v, c.skipSpace.Past raw c' ∧ Spells raw v ∧ d.get key = none ∧
        ∀ k, d'.get k = if k = key then some v else d.get k := by
  obtain ⟨hnone, rfl, -⟩ | ⟨f, hf, rfl, hfilled, hread⟩ := h.cases
  · exact .inl ⟨rfl, get_unknown hnone⟩
  · right
    have text : ∀ {t}, readText c = .ok (t, c') →
        ∃ raw, c.skipSpace.Past raw c' ∧ Spells raw (.text t) := by
      intro t ht
      obtain ⟨-, raw, hpast, hbody⟩ := skipValue_of_readText ht
      exact ⟨_, hpast, .text hbody⟩
    have int : ∀ {n}, readInt64 c = .ok (n, c') →
        ∃ raw, c.skipSpace.Past raw c' ∧ Spells raw (.int n) :=
      fun hn => ⟨_, (decimal_of_readInt64 hn).2, .int⟩
    have keep : ∀ {key v} {d' : Draft}, (∃ raw, c.skipSpace.Past raw c' ∧ Spells raw v) →
        d.get key = none → d'.get key = some v → (∀ k ≠ key, d'.get k = d.get k) →
        ∃ raw v, c.skipSpace.Past raw c' ∧ Spells raw v ∧ d.get key = none ∧
          ∀ k, d'.get k = if k = key then some v else d.get k := by
      rintro key v d' ⟨raw, hpast, hspells⟩ hnone hsome hrest
      refine ⟨raw, v, hpast, hspells, hnone, fun k => ?_⟩
      split_ifs with hk
      · rw [hk, hsome]
      · exact hrest k hk
    simp only [record, List.mem_cons, List.not_mem_nil, or_false] at hf
    rcases hf with rfl | rfl | rfl | rfl | rfl | rfl | rfl <;>
      obtain ⟨b, hb, rfl⟩ := Record.read_of hread <;>
      simp only [Field.of, Option.isSome_eq_false_iff, Option.isNone_iff_eq_none] at hfilled ⊢
    · exact keep (text hb) (by simp [Draft.get, hfilled]) rfl fun k hk => by simp [Draft.get, hk]
    · exact keep (text hb) (by simp [Draft.get, hfilled]) rfl fun k hk => by simp [Draft.get, hk]
    · exact keep (text hb) (by simp [Draft.get, hfilled]) rfl fun k hk => by simp [Draft.get, hk]
    · exact keep (text hb) (by simp [Draft.get, hfilled]) rfl fun k hk => by simp [Draft.get, hk]
    · exact keep (text hb) (by simp [Draft.get, hfilled]) rfl fun k hk => by simp [Draft.get, hk]
    · exact keep (int hb) (by simp [Draft.get, hfilled]) rfl fun k hk => by simp [Draft.get, hk]
    · exact keep (int hb) (by simp [Draft.get, hfilled]) rfl fun k hk => by simp [Draft.get, hk]

/-- Along a chain each name that the draft has in the end was there before, or stood among the
    members once, and is what its text spells. -/
theorem get_of_chain {first : Bool} {d d' : Draft} {c c' : Cursor}
    {ms : List (String × Cursor × Cursor)} (h : Record.Chain record first d c ms d' c') {k : String}
    {v : Doc} (hk : d'.get k = some v) :
    (d.get k = some v ∧ (ms.map Record.textOf).filter (·.1 = k) = []) ∨
      (d.get k = none ∧ ∃ raw, Spells raw v ∧
        (ms.map Record.textOf).filter (·.1 = k) = [(k, raw)]) := by
  induction h with
  | close => exact .inl ⟨hk, rfl⟩
  | @member first d c key c₁ c₂ d₁ c₃ ms d' c' _ _ htakes _ ih =>
    have ih := ih hk
    rw [List.map_cons, List.filter_cons]
    obtain ⟨rfl, hunknown⟩ | ⟨raw, v', hpast, hspells, hnone, hget⟩ := get_of_takes htakes
    · -- a name that is no field has nothing in the draft
      have hne : key ≠ k := by
        rintro rfl
        rcases ih with ⟨hsome, -⟩ | ⟨-, raw, -, hfilter⟩
        · rw [hunknown] at hsome
          cases hsome
        · rw [hunknown] at hk
          cases hk
      simpa [Record.textOf, hne] using ih
    · have htext : Record.textOf (key, c₂, c₃) = (key, raw) := by
        rw [Record.textOf, hpast.take]
      rw [htext]
      by_cases hkey : key = k
      · subst hkey
        rw [hget, if_pos rfl] at ih
        rcases ih with ⟨hsome, hfilter⟩ | ⟨hnone', -⟩
        · cases hsome
          exact .inr ⟨hnone, raw, hspells, by simp [hfilter]⟩
        · cases hnone'
      · rw [hget, if_neg (Ne.symm hkey)] at ih
        simpa [hkey] using ih

end Claims

/-! ## The lenient reading -/

/-- The lenient reading has the expiry of the strict one. -/
def SameExpiry (d : Claims.Draft) (e : Signer.RegisteredDraft) : Prop := e.exp = d.exp.map seconds?

/-- Only its own member changes the expiry. -/
theorem exp_of_takes {d d' : Claims.Draft} {key : String} {c c' : Cursor}
    (h : Record.Takes Claims.record d key c d' c') (hkey : key ≠ "exp") : d'.exp = d.exp := by
  have hget : d'.get "exp" = d.get "exp" := by
    obtain ⟨rfl, -⟩ | ⟨raw, v, -, -, -, hget⟩ := Claims.get_of_takes h
    · rfl
    · rw [hget, if_neg hkey.symm]
  have hint : Function.Injective Doc.int := fun _ _ h => (Doc.int.inj h)
  exact Option.map_injective hint hget

/-- Both readings of a member end at the same place, unless the lenient one has lost its place. -/
theorem resumed_of_takes {d d' : Claims.Draft} {e e' : Signer.RegisteredDraft} {key : String}
    {c c' c'' : Cursor} (h : Record.Takes Claims.record d key c d' c')
    (h' : Record.Takes Signer.registeredRecord e key c e' c'') (hsame : SameExpiry d e) :
    SameExpiry d' e' ∧ Resumed c' c'' := by
  have hskip := h.skipValue Claims.strict
  have text : ∀ {t b}, readText c = .ok (t, c') → readLeniently readText c = .ok (b, c'') →
      Resumed c' c'' := by
    intro t b ht hb
    cases (readLeniently_of_ok ht).symm.trans hb
    exact .behind rfl
  have other : key ≠ "exp" → e'.exp = e.exp → SameExpiry d' e' := by
    intro hkey hexp
    rw [SameExpiry, hexp, exp_of_takes h hkey]
    exact hsame
  obtain ⟨hnone, rfl, hskip'⟩ | ⟨f, hf, rfl, -, hread⟩ := h'.cases
  · refine ⟨other (fun hkey => ?_) rfl, .behind (Except.ok.inj (hskip'.symm.trans hskip))⟩
    exact hnone _ List.mem_cons_self hkey.symm
  · simp only [Signer.registeredRecord, List.mem_cons, List.not_mem_nil, or_false] at hf
    rcases hf with rfl | rfl | rfl | rfl | rfl <;> obtain ⟨b, hb, rfl⟩ := Record.read_of hread
    · obtain ⟨n, hn, rfl⟩ := h.of_field rfl
      cases (readSeconds_of_readInt64 hn).symm.trans hb
      exact ⟨rfl, .behind rfl⟩
    · exact ⟨other (by decide) rfl, resumed_of_readSeconds hskip hb⟩
    · obtain ⟨t, ht, -⟩ := h.of_field rfl
      exact ⟨other (by decide) rfl, text ht hb⟩
    · obtain ⟨t, ht, -⟩ := h.of_field rfl
      exact ⟨other (by decide) rfl, text ht hb⟩
    · obtain ⟨t, ht, -⟩ := h.of_field rfl
      exact ⟨other (by decide) rfl, text ht hb⟩

/-- What follows a member may follow a string. -/
theorem follows_of_member {c c' : Cursor} {key : Option String}
    (h : nextKey false c = .ok (key, c')) : Follows c.rest := by
  obtain ⟨s, hs, hpast, -⟩ := past_skipSpace c
  cases key with
  | none =>
    obtain ⟨rfl, hclose⟩ := closing_of_nextKey h
    obtain ⟨t, ht⟩ := cons_of_head? hclose
    rw [hpast.1, ht]
    exact follows_append hs (follows_cons (by decide))
  | some key =>
    obtain ⟨s', sep, raw, hs', hsep, hpast', -⟩ := body_of_nextKey h
    cases hsep with
    | comma =>
      rw [hpast'.1]
      simp only [List.append_assoc, List.cons_append]
      exact follows_append hs' (follows_cons (by decide))

/-- The names of the fields may not follow a string. -/
theorem Signer.fields_not_follow :
    ∀ f ∈ registeredRecord.fields, ¬ Follows (bytesOf f.name.toList) := by
  have hname : ∀ {name : String} {c : Char} {cs : List Char}, name.toList = c :: cs →
      c.toNat < 128 →
      ¬ (isSpace (ascii c) = true ∨ ascii c ∈ [ascii ',', ascii ':', ascii ']', ascii '\x7d']) →
      ¬ Follows (bytesOf name.toList) := by
    intro name c cs hcons hc hnot hfollows
    rw [hcons, bytesOf_cons_ascii hc] at hfollows
    exact hnot (hfollows _ rfl)
  intro f hf
  simp only [registeredRecord, List.mem_cons, List.not_mem_nil, or_false] at hf
  rcases hf with rfl | rfl | rfl | rfl | rfl
  · exact hname (show "exp".toList = ['e', 'x', 'p'] from rfl) (by decide) (by decide)
  · exact hname (show "nbf".toList = ['n', 'b', 'f'] from rfl) (by decide) (by decide)
  · exact hname (show "sub".toList = ['s', 'u', 'b'] from rfl) (by decide) (by decide)
  · exact hname (show "iss".toList = ['i', 's', 's'] from rfl) (by decide) (by decide)
  · exact hname (show "aud".toList = ['a', 'u', 'd'] from rfl) (by decide) (by decide)

/-- **The lenient reading goes along with the strict one**, or ends inside of a string. -/
theorem lockstep {first : Bool} {d d' : Claims.Draft} {c c' : Cursor}
    {ms : List (String × Cursor × Cursor)} (h : Record.Chain Claims.record first d c ms d' c')
    {e e' : Signer.RegisteredDraft} {c'' : Cursor} {ms' : List (String × Cursor × Cursor)}
    (h' : Record.Chain Signer.registeredRecord first e c ms' e' c'') (hl : Lexed false c.rest)
    (hsame : SameExpiry d e) : (c'' = c' ∧ SameExpiry d' e') ∨ Lexed true c''.rest := by
  induction h generalizing e ms' with
  | close hkey =>
    cases h' with
    | close hkey' =>
      cases hkey.symm.trans hkey'
      exact .inl ⟨rfl, hsame⟩
    | member hkey' => cases hkey.symm.trans hkey'
  | @member first d c key c₁ c₂ d₁ c₃ ms d' c' hkey hcolon htakes hrest ih =>
    cases h' with
    | close hkey' => cases hkey.symm.trans hkey'
    | member hkey' hcolon' htakes' hrest' =>
      cases hkey.symm.trans hkey'
      cases hcolon.symm.trans hcolon'
      have hskip := htakes.skipValue Claims.strict
      have hl₂ := (lexed_of_readColon hcolon).1 (lexed_of_nextKey hkey hl)
      have hl₃ := lexed_of_skipValue hskip hl₂
      obtain ⟨hsame, hresumed⟩ := resumed_of_takes htakes htakes' hsame
      cases hresumed with
      | behind hplace =>
        subst hplace
        exact ih hrest' hl₃ hsame
      | lost hlost =>
        cases hrest' with
        | close hkey => exact absurd hkey (hlost _)
        | member hkey => exact absurd hkey (hlost _)
      | inside hraw hinside =>
        right
        have hfollows : Follows c₃.rest := by
          cases hrest with
          | close hkey => exact follows_of_member hkey
          | member hkey => exact follows_of_member hkey
        refine hrest'.inside Signer.fields_not_follow ?_
        rw [hinside]
        exact lexed_of_loose hraw hfollows hl₃

/-! ## Lists -/

/-- A list goes on behind a comma. -/
theorem comma_of_nextElement {c c' : Cursor} {x : Cursor}
    (h : nextElement false c = .ok (some c', x)) : c.skipSpace.rest.head? = some (ascii ',') := by
  rw [nextElement] at h
  split at h
  · cases h
  · rename_i b t hc
    rw [hc]
    by_contra hne
    have hcomma : b ≠ ascii ',' := fun hb => hne (by rw [hb]; rfl)
    simp only [hcomma, false_and, if_false, Bool.false_eq_true] at h
    split_ifs at h <;> cases h

/-- The second field ends where the first one does. A list may not end before the first. -/
structure Abreast {σ τ : Type} (f : Json.Field σ) (g : Json.Field τ) : Prop where
  required : ∀ d, f.absent d = none
  place : ∀ d e c d' e' c' c'', f.read d c = .ok (d', c') → g.read e c = .ok (e', c'') → c'' = c'

/-- Fields that go abreast end in front of the comma of a further one. -/
theorem comma_of_readFields {σ τ α β : Type} {r : Record σ α} {q : Record τ β} {f : Json.Field σ}
    (hf : ∀ d, f.absent d = none) {rest fs : List (Json.Field σ)} {gs : List (Json.Field τ)}
    (habreast : List.Forall₂ Abreast fs gs) {n : Nat} (hn : n + gs.length ≠ 0) {d d' : σ} {e e' : τ}
    {c c' c'' : Cursor} (h : r.readFields n (fs ++ f :: rest) d c = .ok (d', c'))
    (h' : q.readFields n gs e c = .ok (e', c'')) : c''.skipSpace.rest.head? = some (ascii ',') := by
  have next : ∀ {f : Json.Field σ} {fs n d c}, (∀ d, f.absent d = none) →
      r.readFields n (f :: fs) d c = .ok (d', c') → ∃ c₁ x d₁ c₂,
        nextElement (n = 0) c = .ok (some c₁, x) ∧ f.read d c₁ = .ok (d₁, c₂) ∧
        r.readFields (n + 1) fs d₁ c₂ = .ok (d', c') := by
    intro f fs n d c hf h
    rw [Record.readFields] at h
    obtain ⟨⟨next, x⟩, hnext, h⟩ := ok_of_bind h
    cases next with
    | none =>
      simp only [hf] at h
      cases h
    | some c₁ =>
      obtain ⟨⟨d₁, c₂⟩, hread, h⟩ := ok_of_bind h
      exact ⟨c₁, x, d₁, c₂, Record.between_ok hnext, Record.within_ok hread, h⟩
  induction habreast generalizing n d e c with
  | nil =>
    cases h'
    obtain ⟨c₁, x, -, -, hnext, -⟩ := next hf h
    have hfalse : decide (n = 0) = false := by simpa using hn
    rw [hfalse] at hnext
    exact comma_of_nextElement hnext
  | cons hfg _ ih =>
    obtain ⟨c₁, x, d₁, c₂, hnext, hread, h⟩ := next hfg.required h
    rw [Record.readFields, hnext] at h'
    obtain ⟨_, hnext', h'⟩ := ok_of_bind h'
    cases Record.between_ok hnext'
    obtain ⟨⟨e₁, c₃⟩, hread', h'⟩ := ok_of_bind h'
    obtain rfl := hfg.place _ _ _ _ _ _ _ hread (Record.within_ok hread')
    exact ih (by omega) h h'

theorem abreast_of {σ τ β γ : Type} {name name' : String} {get : σ → Option β} {keep : σ → β → σ}
    {read : Reader β} {get' : τ → Option γ} {keep' : τ → γ → τ} {read' : Reader γ}
    {default : Option γ}
    (hplace : ∀ {b x c c' c''}, read c = .ok (b, c') → read' c = .ok (x, c'') → c'' = c') :
    Abreast (.of name get keep read none) (.of name' get' keep' read' default) := by
  refine ⟨fun _ => rfl, fun d e c d' e' c' c'' h h' => ?_⟩
  obtain ⟨b, hb, -⟩ := Record.read_of h
  obtain ⟨x, hx, -⟩ := Record.read_of h'
  exact hplace hb hx

/-- The first claims are texts, and are left where they end by all fields of the lenient reading. -/
theorem abreast : List.Forall₂ Abreast (Claims.record.fields.take 5)
    Signer.registeredRecord.fields := by
  have hseconds : ∀ {t x c c' c''}, readText c = .ok (t, c') →
      readLeniently Signer.readSeconds c = .ok (x, c'') → c'' = c' := by
    intro t x c c' c'' h h'
    cases (readSeconds_of_readText h).symm.trans h'
    rfl
  have htext : ∀ {t x c c' c''}, readText c = .ok (t, c') →
      readLeniently readText c = .ok (x, c'') → c'' = c' := by
    intro t x c c' c'' h h'
    cases (readLeniently_of_ok h).symm.trans h'
    rfl
  exact .cons (abreast_of hseconds) (.cons (abreast_of hseconds) (.cons (abreast_of htext)
    (.cons (abreast_of htext) (.cons (abreast_of htext) .nil))))

/-- A record that is not read from an object is read from a list, field by field. -/
theorem fields_of_read {σ α : Type} {r : Record σ α} {a : α} {c c' : Cursor}
    (hopen : c.skipSpace.rest.head? ≠ some (ascii '\x7b')) (h : r.read c = .ok (a, c')) :
    ∃ d c₁, r.readFields 0 r.fields r.start c.skipSpace.next = .ok (d, c₁) ∧
      (endList c₁).1 = .ok () := by
  rw [Record.read] at h
  obtain ⟨start, hat, h⟩ := ok_of_bind h
  obtain ⟨rfl, -⟩ := atValue_ok.1 hat
  rw [if_neg hopen] at h
  split_ifs at h with hlist
  · cases hread : r.readFields 0 r.fields r.start c.skipSpace.next with
    | error t =>
      rw [hread] at h
      cases t <;> cases h
    | ok x =>
      obtain ⟨d, c₁⟩ := x
      refine ⟨d, c₁, rfl, ?_⟩
      rw [hread, Record.conclude] at h
      cases hfinish : r.finish d with
      | error fault =>
        rw [hfinish] at h
        cases h
      | ok a' =>
        rw [hfinish] at h
        cases hend : (endList c₁).1 with
        | error e =>
          simp only [Record.closeWith, hend] at h
          cases h
        | ok done => rfl

/-- A list that is read as claims is more than what all tokens have in common. -/
theorem opening_of_readAll {text : List UInt8} {c : Claims} {expiry : Option Int}
    (h : readAll Claims.record.read text = .ok c)
    (h' : readAll Signer.registeredRecord.read text = .ok expiry) :
    (Cursor.start text).skipSpace.rest.head? = some (ascii '\x7b') := by
  by_contra hopen
  rw [readAll] at h h'
  obtain ⟨⟨a, c₁⟩, hread, -⟩ := ok_of_bind h
  obtain ⟨⟨b, c₂⟩, hread', -⟩ := ok_of_bind h'
  obtain ⟨d, c₁, hfields, -⟩ := fields_of_read hopen hread
  obtain ⟨e, c₂, hfields', hend⟩ := fields_of_read hopen hread'
  have hcomma := comma_of_readFields (fun _ => rfl) abreast (by decide) hfields hfields'
  obtain ⟨t, ht⟩ := cons_of_head? hcomma
  rw [endList] at hend
  simp only [ht] at hend
  rw [if_neg (by decide), if_pos trivial] at hend
  cases hend

/-! ## Payloads -/

theorem lexed_of_object {ms : List (String × List UInt8)} {text : List UInt8} (h : Object ms text) :
    Lexed false text := by
  cases h with
  | @mk s t s' hs hms hs' =>
    have hend : Lexed false s' := by simpa using (lexed_append hs'.unquoted).2 .nil
    rw [lexed_append hs.unquoted]
    exact .plain (by decide) (by decide) (lexed_of_forms hms.forms nofun hend)

/-- Behind the opening brace the side is that of the text. -/
theorem lexed_opened {c : Cursor} (hopen : c.skipSpace.rest.head? = some (ascii '\x7b'))
    {inside : Bool} (h : Lexed inside c.rest) : Lexed inside c.skipSpace.next.rest := by
  rw [← lexed_skipSpace, (Cursor.past_next hopen).1] at h
  exact h.of_plain (by decide) (by decide)

/-- **A payload that is read in both ways** is an object that has each of the claims once, and the
    expiry that counts is the one of the claims. -/
theorem Claims.spelled {text : List UInt8} {c : Claims} {expiry : Option Int}
    (h : readAll record.read text = .ok c)
    (h' : readAll Signer.registeredRecord.read text = .ok expiry) :
    expiry = seconds? c.exp ∧ ∃ ms, Object ms text ∧ ∀ m ∈ c.members, ∃ raw, Spells raw m.2 ∧
      ms.filter (·.1 = m.1) = [(m.1, raw)] := by
  have hopen := opening_of_readAll h h'
  obtain ⟨ms, d, c₁, hchain, hfinish, -, hobject⟩ := Record.object_of_readAll strict hopen h
  obtain rfl := draft_of_finish hfinish
  refine ⟨?_, _, hobject, fun m hm => ?_⟩
  · rw [readAll] at h'
    obtain ⟨⟨_, _⟩, hread, h'⟩ := ok_of_bind h'
    obtain ⟨⟨⟩, hend, h'⟩ := ok_of_bind h'
    cases h'
    obtain ⟨ms', e, c₂, hchain', hfinish', rfl⟩ := Record.chain_of_read Signer.forward hopen hread
    have hl := lexed_opened hopen (lexed_of_object hobject)
    rcases lockstep hchain hchain' hl rfl with ⟨-, hsame⟩ | hinside
    · cases hfinish'
      rw [show e.exp = some (seconds? c.exp) from hsame]
      rfl
    · rw [(Cursor.past_next hchain'.closing).1] at hinside
      exact absurd hend (atEnd_inside (hinside.of_plain (by decide) (by decide)))
  · have hempty : ({} : Draft).get m.1 = none := by
      unfold Draft.get
      split_ifs <;> rfl
    rcases get_of_chain hchain (c.get_draft m hm) with ⟨hsome, -⟩ | ⟨-, hraw⟩
    · rw [show record.start = {} from rfl, hempty] at hsome
      cases hsome
    · exact hraw

/-! ## Tokens -/

namespace Signer

/-- The text is the header of a token that names this algorithm. -/
def HeaderNames (header : List Char) (name : String) : Prop :=
  ∃ bytes, decodePart header = .ok bytes ∧ readPart headerRecord.read bytes = .ok name

theorem ok_of_readPart {β : Type} {read : Reader β} {bytes : List UInt8} {b : β}
    (h : readPart read bytes = .ok b) : readAll read bytes = .ok b := by
  rw [readPart] at h
  cases hread : readAll read bytes with
  | error e =>
    rw [hread] at h
    cases h
  | ok b' =>
    rw [hread] at h
    cases h
    rfl

/-- What a token that is opened is made of. -/
theorem parts_of_open {s : Signer} {token : String} {c : Claims} {expiry : Option Int}
    (h : s.open? token = .ok (c, expiry)) : ∃ header payload bytes,
      token.toList = header ++ '.' :: payload ++ '.' :: s.signature (header ++ '.' :: payload) ∧
      '.' ∉ payload ∧ HeaderNames header algorithm ∧ decodePart payload = .ok bytes ∧
      readAll Claims.record.read bytes = .ok c ∧
      readAll registeredRecord.read bytes = .ok expiry := by
  cases hmark : Text.splitLast '.' token.toList with
  | none =>
    rw [open?, hmark] at h
    cases h
  | some parts =>
    obtain ⟨message, mark⟩ := parts
    cases hpayload : Text.splitLast '.' message with
    | none =>
      rw [open?, hmark] at h
      simp only [hpayload] at h
      cases h
    | some parts =>
      obtain ⟨header, payload⟩ := parts
      rw [open_eq hmark hpayload] at h
      obtain ⟨name, hname, hchecked⟩ := ok_of_bind h
      obtain ⟨headerBytes, hheader, hname⟩ := ok_of_bind hname
      split_ifs at hchecked with hsigned
      rw [not_or, ne_eq, ne_eq, not_not, not_not] at hsigned
      obtain ⟨rfl, rfl⟩ := hsigned
      rw [readPayload] at hchecked
      obtain ⟨bytes, hbytes, hread⟩ := ok_of_bind hchecked
      obtain ⟨claims, hclaims, hread⟩ := ok_of_bind hread
      obtain ⟨_, hregistered, hread⟩ := ok_of_bind hread
      cases hread
      obtain ⟨htoken, -⟩ := Text.splitLast_eq_some hmark
      obtain ⟨rfl, hdot⟩ := Text.splitLast_eq_some hpayload
      exact ⟨header, payload, bytes, htoken, hdot, ⟨headerBytes, hheader, hname⟩, hbytes,
        ok_of_readPart hclaims, ok_of_readPart hregistered⟩

/-- What a token that is decoded says. -/
theorem checked_of_decode {s : Signer} {token : String} {now : Instant} {c : Claims}
    (h : s.decode token now = .ok c) : ∃ expiry, s.open? token = .ok (c, some expiry) ∧
      c.iss = s.issuer ∧ c.aud = s.audience ∧ now.seconds < c.exp := by
  rw [decode] at h
  obtain ⟨⟨c', expiry⟩, hopen, h⟩ := ok_of_bind h
  cases expiry with
  | none => cases h
  | some n =>
    by_cases hiss : c'.iss = s.issuer
    · by_cases haud : c'.aud = s.audience
      · by_cases hover : c'.exp ≤ now.seconds
        · simp only [Option.isNone_some, Bool.false_eq_true, hiss, haud, Claims.isExpired, hover,
            ne_eq, not_true_eq_false, decide_true, if_true, if_false] at h
          cases h
        · simp only [Option.isNone_some, Bool.false_eq_true, hiss, haud, Claims.isExpired, hover,
            ne_eq, not_true_eq_false, decide_false, if_false] at h
          cases h
          exact ⟨n, hopen, hiss, haud, Int.not_le.1 hover⟩
      · simp only [Option.isNone_some, Bool.false_eq_true, hiss, haud, ne_eq, not_true_eq_false,
          not_false_eq_true, if_true, if_false] at h
        cases h
    · simp only [Option.isNone_some, Bool.false_eq_true, hiss, ne_eq, not_false_eq_true, if_true,
        if_false] at h
      cases h

/-- The token is made of a header that names the one algorithm, of a payload and of their keyed
    hash, and the payload is an object that has each of the claims once. -/
def Carries (s : Signer) (token : String) (c : Claims) : Prop :=
  ∃ header payload mark bytes ms, token.toList = header ++ '.' :: payload ++ '.' :: mark ∧
    '.' ∉ payload ∧ '.' ∉ mark ∧ HeaderNames header algorithm ∧
    mark = base64 (Sha256.hmac s.secret (bytesOf (header ++ '.' :: payload))) ∧
    decodePart payload = .ok bytes ∧ Object ms bytes ∧
    ∀ m ∈ c.members, ∃ raw, Spells raw m.2 ∧ ms.filter (·.1 = m.1) = [(m.1, raw)]

/-- What stands among the members once is spelled there. -/
theorem spelled_once {ms : List (String × List UInt8)} {key : String} {v v' : Doc}
    (h : ∃ raw, Spells raw v ∧ ms.filter (·.1 = key) = [(key, raw)])
    (h' : ∃ raw, Spells raw v' ∧ ms.filter (·.1 = key) = [(key, raw)]) : v = v' := by
  obtain ⟨raw, hspells, hfilter⟩ := h
  obtain ⟨raw', hspells', hfilter'⟩ := h'
  obtain rfl : raw = raw' := by
    rw [hfilter] at hfilter'
    simpa using hfilter'
  exact hspells.unique hspells'

/-- **A token carries no other claims than its own.** -/
theorem Carries.unique {s : Signer} {token : String} {c c' : Claims} (h : s.Carries token c)
    (h' : s.Carries token c') : c = c' := by
  obtain ⟨header, payload, mark, bytes, ms, htoken, hpayload, hmark, -, -, hbytes, hobject,
    hms⟩ := h
  obtain ⟨header', payload', mark', bytes', ms', htoken', hpayload', hmark', -, -, hbytes',
    hobject', hms'⟩ := h'
  have houter := splitLast_append (l := header ++ '.' :: payload) hmark
  rw [← htoken, htoken', splitLast_append hmark'] at houter
  obtain ⟨hmessage, -⟩ := Prod.mk.inj (Option.some.inj houter)
  have hinner := splitLast_append (l := header) hpayload
  rw [← hmessage, splitLast_append hpayload'] at hinner
  obtain ⟨-, rfl⟩ := Prod.mk.inj (Option.some.inj hinner)
  obtain rfl : bytes = bytes' := Except.ok.inj (hbytes.symm.trans hbytes')
  obtain rfl := hobject.unique hobject'
  simp only [Claims.members, List.forall_mem_cons] at hms hms'
  obtain ⟨hsub, hemail, huserName, hiss, haud, hiat, hexp, -⟩ := hms
  obtain ⟨hsub', hemail', huserName', hiss', haud', hiat', hexp', -⟩ := hms'
  obtain ⟨sub, email, userName, iss, aud, iat, exp⟩ := c
  obtain ⟨sub', email', userName', iss', aud', iat', exp'⟩ := c'
  cases spelled_once hsub hsub'
  cases spelled_once hemail hemail'
  cases spelled_once huserName huserName'
  cases spelled_once hiss hiss'
  cases spelled_once haud haud'
  cases spelled_once hiat hiat'
  cases spelled_once hexp hexp'
  rfl

end Signer

end Jwt

end Gatehouse
