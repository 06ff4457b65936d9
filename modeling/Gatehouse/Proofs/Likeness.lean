/-
  Gatehouse — records that are read alike.

  Two texts tell the same with other words if they are objects with the same members, or lists with
  as many elements, and differ in what strings spell. A record whose fields are texts is read from
  both, or from neither, and then both are refused with faults of one kind.

  * `Retold`: the texts tell the same with other words;
  * `Field.Respects`, `Record.Respects`: a field, and a record, that is read alike;
  * `Record.readMembers_alike`, `Record.readFields_alike`: the loops over members and elements;
  * `Record.readFront_retold`: what is told with other words is read alike.
-/
import Gatehouse.Proofs.JsonFaults

namespace Gatehouse.Json

/-! ## Grammar -/

/-- The elements of a list as texts, up to its end: all of them, or those that follow one. -/
inductive Items : Bool → List (List UInt8) → List UInt8 → Prop
  | close {first s} : Spaces s → Items first [] (s ++ [ascii ']'])
  | item {first s sep s' v vs t} : Spaces s → Separator first sep → Spaces s' → Forms .value v →
      Items false vs t → Items first (v :: vs) (s ++ (sep ++ (s' ++ (v ++ t))))

/-- The elements of a list are those of a value. -/
theorem Items.forms {first : Bool} {vs : List (List UInt8)} {t : List UInt8}
    (h : Items first vs t) : Forms (.rest .list first) t := by
  induction h with
  | close hs => exact @Forms.close .list _ _ hs
  | item hs hsep hs' hv _ ih => exact .entry hs hsep .list hs' hv ih

/-- Members have the same name, and their values are alike. -/
def MemberAlike (T : String → String → String → Prop) (m m' : String × List UInt8) : Prop :=
  m'.1 = m.1 ∧ Alike (T m.1) m.2 m'.2

/-- As many elements, and those for fields are alike. -/
inductive ItemsAlike (T : String → String → String → Prop) :
    List String → List (List UInt8) → List (List UInt8) → Prop
  | nil {names} : ItemsAlike T names [] []
  | cons {name names v v' vs vs'} : Alike (T name) v v' → ItemsAlike T names vs vs' →
      ItemsAlike T (name :: names) (v :: vs) (v' :: vs')
  | beyond {v v' vs vs'} : ItemsAlike T [] (v :: vs) (v' :: vs')

/-- The texts start with objects, or with lists, that tell the same with other words: `T` says of
    the name of a field which texts may stand for which. -/
inductive Retold (T : String → String → String → Prop) (names : List String) :
    List UInt8 → List UInt8 → Prop
  | object {s t x s' t' x' ms ms'} : Spaces s → Members true ms t → Spaces s' →
      Members true ms' t' → List.Forall₂ (MemberAlike T) ms ms' →
      Retold T names (s ++ ascii '\x7b' :: (t ++ x)) (s' ++ ascii '\x7b' :: (t' ++ x'))
  | list {s t x s' t' x' vs vs'} : Spaces s → Items true vs t → Spaces s' → Items true vs' t' →
      ItemsAlike T names vs vs' →
      Retold T names (s ++ ascii '[' :: (t ++ x)) (s' ++ ascii '[' :: (t' ++ x'))

/-- Objects tell the same with other words if their members are alike. -/
theorem Object.retold {T : String → String → String → Prop} (names : List String)
    {ms ms' : List (String × List UInt8)} {text text' : List UInt8} (h : Object ms text)
    (h' : Object ms' text') (hms : List.Forall₂ (MemberAlike T) ms ms') :
    Retold T names text text' := by
  cases h with
  | mk hs ht =>
    cases h' with
    | mk hs' ht' => exact .object hs ht hs' ht' hms

/-- Texts that are written are alike if one may stand for the other. -/
theorem alike_written {T : String → String → Prop} {t t' : String} (h : T t t') :
    Alike T (Jwt.bytesOf (write (.text t))) (Jwt.bytesOf (write (.text t'))) := by
  have spelled : ∀ t : String, Spells (Jwt.bytesOf (write (.text t))) (.text t) := by
    intro t
    rw [write, Record.bytesOf_writeText]
    exact .text (Body.writeText t.toList)
  exact .text (spelled t) (spelled t') h

/-! ## Steps of the readers -/

section

variable {first : Bool} {c b : Cursor} {t : List UInt8}

/-- There is no further member at the end of an object. -/
theorem Members.leave (h : Members first [] t) (hc : c.Past t b) :
    nextKey first c = .ok (none, c.skipSpace) ∧ c.skipSpace.rest.head? = some (ascii '\x7d') := by
  cases h with
  | close hs =>
    have hclose := (past_skipSpace_of_spaces hs (by decide) hc).next.1
    exact ⟨by rw [nextKey_eq first hclose, if_pos rfl], hclose⟩

/-- A member is entered from its key on, and its value is passed over to the next one. -/
theorem Members.enter {key : String} {v : List UInt8} {ms : List (String × List UInt8)}
    (h : Members first ((key, v) :: ms) t) (hc : c.Past t b) :
    ∃ c₁ c₂ c₃ t', nextKey first c = .ok (some key, c₁) ∧ readColon c₁ = .ok c₂ ∧
      Forms .value v ∧ c₂.skipSpace.Past v c₃ ∧ Follows c₃.rest ∧ skipValue c₂ = .ok c₃ ∧
      Members false ms t' ∧ c₃.Past t' b := by
  cases h with
  | @member _ s sep _ raw s' s'' _ _ t' hs hsep hbody hs' hs'' hv hms =>
    have hall : c.Past ((s ++ (sep ++ ascii '"' :: (raw ++ [ascii '"']))) ++ ((s' ++ [ascii ':']) ++
        ((s'' ++ v) ++ t'))) b := by simpa using hc
    obtain ⟨c₁, hkey, hall⟩ := hall.split
    obtain ⟨c₂, hcolon, hall⟩ := hall.split
    obtain ⟨c₃, hvalue, hrest⟩ := hall.split
    have hfollows : Follows c₃.rest := by
      rw [hrest.1]
      exact hms.forms.follows
    exact ⟨c₁, c₂, c₃, t', nextKey_past hs hsep hbody hkey, readColon_past hs' hcolon, hv,
      hv.past_skipSpace hs'' hvalue, hfollows, skipValue_of_forms hv hs'' hvalue hfollows, hms,
      hrest⟩

theorem Members.length_le {ms : List (String × List UInt8)} (h : Members first ms t) :
    ms.length ≤ t.length := by
  induction h with
  | close => exact Nat.zero_le _
  | member _ _ _ _ _ _ _ ih =>
    simp only [List.length_append, List.length_cons]
    omega

/-- There is no further element at the end of a list. -/
theorem Items.leave (h : Items first [] t) (hc : c.Past t b) :
    nextElement first c = .ok (none, c.skipSpace) ∧ c.skipSpace.Past [ascii ']'] b := by
  cases h with
  | close hs =>
    have hclose := past_skipSpace_of_spaces hs (by decide) hc
    obtain ⟨x, hx⟩ := cons_of_head? hclose.next.1
    refine ⟨?_, hclose⟩
    unfold nextElement
    simp only [hx, if_true]
    rfl

/-- An element is entered at its first byte. -/
theorem Items.enter {v : List UInt8} {vs : List (List UInt8)} (h : Items first (v :: vs) t)
    (hc : c.Past t b) :
    ∃ c₁ c₂ t', nextElement first c = .ok (some c₁, c₁) ∧ Forms .value v ∧
      c₁.skipSpace.Past v c₂ ∧ Follows c₂.rest ∧ Items false vs t' ∧ c₂.Past t' b := by
  cases h with
  | @item _ s sep s' _ _ t' hs hsep hs' hv hvs =>
    obtain ⟨a, x, rfl, hspace, hcomma, hlist, -⟩ := hv.head
    -- the cursor at the element is where the reader stops, in front of a byte that is no space
    have here : ∀ {c₁ : Cursor}, c₁.Past (a :: (x ++ t')) b →
        nextElement first c = .ok (some c₁, c₁) →
        ∃ c₁ c₂ t', nextElement first c = .ok (some c₁, c₁) ∧ Forms .value (a :: x) ∧
          c₁.skipSpace.Past (a :: x) c₂ ∧ Follows c₂.rest ∧ Items false vs t' ∧ c₂.Past t' b := by
      intro c₁ h₁ hnext
      obtain ⟨c₂, hvalue, hrest⟩ := (show c₁.Past ((a :: x) ++ t') b from h₁).split
      refine ⟨c₁, c₂, t', hnext, hv, ?_, ?_, hvs, hrest⟩
      · rw [skipSpace_of_head hvalue.next.1 hspace]
        exact hvalue
      · rw [hrest.1]
        exact hvs.forms.follows
    cases hsep with
    | first =>
      have hskip : c.skipSpace.Past (a :: (x ++ t')) b :=
        past_skipSpace_of_spaces (hs.append hs') hspace (by simpa using hc)
      obtain ⟨y, hy⟩ := cons_of_head? hskip.next.1
      refine here hskip ?_
      unfold nextElement
      simp only [hy, hlist, hcomma, if_false, false_and, if_true, pure_bind]
      rfl
    | @comma s₁ hs₁ =>
      have hskip := past_skipSpace_of_spaces (b := ascii ',') (t := s₁ ++ (s' ++ a :: (x ++ t')))
        hs (by decide) (by simpa using hc)
      have hskip' : c.skipSpace.next.skipSpace.Past (a :: (x ++ t')) b :=
        past_skipSpace_of_spaces (hs₁.append hs') hspace (by simpa using hskip.next.2)
      obtain ⟨y, hy⟩ := cons_of_head? hskip.next.1
      obtain ⟨z, hz⟩ := cons_of_head? hskip'.next.1
      refine here hskip' ?_
      unfold nextElement
      simp only [hy, hz, hlist, if_false, Bool.not_false, and_self, if_true, pure_bind,
        show ascii ',' ≠ ascii ']' by decide]
      rfl

/-- A list that goes on does not end there. -/
theorem Items.endList_error {v : List UInt8} {vs : List (List UInt8)} (h : Items first (v :: vs) t)
    (hc : c.Past t b) : ∃ e, (endList c).1 = .error e ∧ e.fault.isData = false := by
  have stop : ∀ {a : UInt8} {x : List UInt8}, c.skipSpace.rest = a :: x → a ≠ ascii ']' →
      ∃ e, (endList c).1 = .error e ∧ e.fault.isData = false := by
    intro a x ha hclose
    unfold endList
    simp only [ha, hclose, if_false]
    split_ifs
    · exact ⟨_, rfl, rfl⟩
    · exact ⟨_, rfl, rfl⟩
    · exact ⟨_, rfl, rfl⟩
  cases h with
  | @item _ s sep s' _ _ t' hs hsep hs' hv hvs =>
    obtain ⟨a, x, rfl, hspace, -, hlist, -⟩ := hv.head
    cases hsep with
    | first =>
      have hskip := past_skipSpace_of_spaces (t := x ++ t') (hs.append hs') hspace
        (by simpa using hc)
      obtain ⟨y, hy⟩ := cons_of_head? hskip.next.1
      exact stop hy hlist
    | @comma s₁ hs₁ =>
      have hskip := past_skipSpace_of_spaces (b := ascii ',') (t := s₁ ++ (s' ++ a :: (x ++ t')))
        hs (by decide) (by simpa using hc)
      obtain ⟨y, hy⟩ := cons_of_head? hskip.next.1
      exact stop hy (by decide)

end

/-! ## Fields -/

/-- The field is read alike from values that are alike, into drafts that satisfy `R`. -/
structure Field.Respects {σ : Type} (f : Field σ) (T : String → String → Prop)
    (R : σ → σ → Prop) : Prop where
  filled : ∀ d d', R d d' → f.filled d = f.filled d'
  absent : ∀ d d', R d d' → Option.Rel R (f.absent d) (f.absent d')
  read : ∀ d d', R d d' → ∀ v v', Alike T v v' → Forms .value v → Forms .value v' →
    ∀ c b c' b', c.skipSpace.Past v b → Follows b.rest → c'.skipSpace.Past v' b' →
      Follows b'.rest → Outcomes Error.SameKind (fun x x' => R x.1 x'.1 ∧ x.2 = b ∧ x'.2 = b')
        (f.read d c) (f.read d' c')

theorem isSome_of_rel {α : Type} {T : α → α → Prop} {x x' : Option α} (h : Option.Rel T x x') :
    x.isSome = x'.isSome := by
  cases h with
  | none => rfl
  | some => rfl

/-- A field that is a text is read alike. -/
theorem Field.respects_text {σ : Type} {T : String → String → Prop} {R : σ → σ → Prop}
    {name : String} {get : σ → Option String} {keep : σ → String → σ} {default : Option String}
    (hget : ∀ d d', R d d' → Option.Rel T (get d) (get d'))
    (hkeep : ∀ d d', R d d' → ∀ t t', T t t' → R (keep d t) (keep d' t'))
    (hdefault : ∀ t, default = some t → T t t) :
    (Field.of name get keep readText default).Respects T R := by
  refine ⟨fun d d' h => ?_, fun d d' h => ?_, ?_⟩
  · exact isSome_of_rel (hget d d' h)
  · show Option.Rel R (default.map (keep d)) (default.map (keep d'))
    cases hd : default with
    | none => exact .none
    | some t => exact .some (hkeep d d' h t t (hdefault t hd))
  · intro d d' h v v' hvalues hv hv' c b c' b' hc hb hc' hb'
    refine (readText_alike hvalues hv hv' hc hb hc' hb').map ?_
    rintro ⟨t, c₁⟩ ⟨t', c₁'⟩ ⟨ht, hcursors⟩
    exact ⟨hkeep d d' h t t' ht, hcursors⟩

/-! ## Records -/

/-- The trouble is with the data. -/
def Trouble.isData : Trouble → Bool
  | placed e => e.fault.isData
  | pending fault _ => fault.isData

/-- The trouble is with the syntax both times, or with the data. -/
def Trouble.SameKind (x x' : Trouble) : Prop := x.isData = x'.isData

namespace Record

variable {σ α : Type} {r : Record σ α} {T : String → String → String → Prop} {R : σ → σ → Prop}
  {S : α → α → Prop}

/-- The record is read alike from members that are alike, and then its values satisfy `S`. -/
structure Respects (r : Record σ α) (T : String → String → String → Prop) (R : σ → σ → Prop)
    (S : α → α → Prop) : Prop where
  start : R r.start r.start
  fields : ∀ f ∈ r.fields, f.Respects (T f.name) R
  finish : ∀ d d', R d d' →
    Outcomes (fun e e' => e.isData = e'.isData) S (r.finish d) (r.finish d')

theorem within_alike {β β' : Type} {Q : β → β' → Prop} {part part' : String} {x : Except Error β}
    {x' : Except Error β'} (h : Outcomes Error.SameKind Q x x') :
    Outcomes Trouble.SameKind Q (within part x) (within part' x') :=
  h.mapError fun _ _ h => h

/-- **Members that are alike are read into drafts that are, up to the ends of their objects.** -/
theorem readMembers_alike (hfields : ∀ f ∈ r.fields, f.Respects (T f.name) R)
    {ms ms' : List (String × List UInt8)} (hms : List.Forall₂ (MemberAlike T) ms ms')
    {first : Bool} {t t' : List UInt8} (h : Members first ms t) (h' : Members first ms' t')
    {d d' : σ} (hd : R d d') {c b c' b' : Cursor} (hc : c.Past t b) (hc' : c'.Past t' b')
    {fuel fuel' : Nat} (hfuel : ms.length < fuel) (hfuel' : ms'.length < fuel') :
    Outcomes Trouble.SameKind (fun x x' => R x.1 x'.1 ∧
        x.2.rest.head? = some (ascii '\x7d') ∧ x'.2.rest.head? = some (ascii '\x7d'))
      (r.readMembers fuel first d c) (r.readMembers fuel' first d' c') := by
  induction hms generalizing first t t' d d' c c' fuel fuel' with
  | nil =>
    obtain ⟨fuel, rfl⟩ := Nat.exists_eq_succ_of_ne_zero (Nat.ne_of_gt hfuel)
    obtain ⟨fuel', rfl⟩ := Nat.exists_eq_succ_of_ne_zero (Nat.ne_of_gt hfuel')
    obtain ⟨hkey, hclose⟩ := h.leave hc
    obtain ⟨hkey', hclose'⟩ := h'.leave hc'
    rw [readMembers, readMembers, hkey, hkey']
    exact .ok ⟨hd, hclose, hclose'⟩
  | @cons m m' ms ms' hm _ ih =>
    obtain ⟨key', v⟩ := m
    obtain ⟨key, v'⟩ := m'
    obtain ⟨hname, hvalues⟩ := hm
    obtain rfl : key = key' := hname
    obtain ⟨fuel, rfl⟩ := Nat.exists_eq_succ_of_ne_zero (Nat.ne_of_gt (Nat.zero_lt_of_lt hfuel))
    obtain ⟨fuel', rfl⟩ := Nat.exists_eq_succ_of_ne_zero (Nat.ne_of_gt (Nat.zero_lt_of_lt hfuel'))
    obtain ⟨c₁, c₂, c₃, u, hkey, hcolon, hv, hpast, hfollows, hskip, hrest, hc₃⟩ := h.enter hc
    obtain ⟨c₁', c₂', c₃', u', hkey', hcolon', hv', hpast', hfollows', hskip', hrest', hc₃'⟩ :=
      h'.enter hc'
    have go : ∀ {d d'}, R d d' → _ := fun hd =>
      ih hrest hrest' hd hc₃ hc₃' (Nat.lt_of_succ_lt_succ hfuel) (Nat.lt_of_succ_lt_succ hfuel')
    rw [readMembers, readMembers, hkey, hkey']
    simp only [between, bind, Except.bind, Except.mapError]
    cases hfind : r.fields.find? (·.name = key) with
    | none =>
      simp only [hcolon, hcolon', hskip, hskip', within, Except.mapError]
      exact go hd
    | some f =>
      have hname : f.name = key := by simpa using List.find?_some hfind
      have hf := hfields f (List.mem_of_find?_eq_some hfind)
      rw [hname] at hf
      simp only [hf.filled d d' hd, hcolon, hcolon']
      split_ifs
      · exact .error rfl
      · have hread := hf.read d d' hd v v' hvalues hv hv' c₂ c₃ c₂' c₃' hpast hfollows hpast'
          hfollows'
        refine (within_alike hread).bind ?_
        rintro ⟨d₁, _⟩ ⟨d₁', _⟩ ⟨hd₁, rfl, rfl⟩
        exact go hd₁

/-- Two searches for an end both find it, or both fail with faults of one kind. -/
def EndAlike (close : Cursor → Except Error Unit × Cursor) (c c' : Cursor) : Prop :=
  SameVerdict (close c).1 (close c').1

/-- **Elements that are alike are read into drafts that are, up to the ends of the fields.** -/
theorem readFields_alike {fs : List (Field σ)} (hfields : ∀ f ∈ fs, f.Respects (T f.name) R)
    {vs vs' : List (List UInt8)} (hvs : ItemsAlike T (fs.map (·.name)) vs vs') {n : Nat}
    {t t' : List UInt8} (h : Items (n = 0) vs t) (h' : Items (n = 0) vs' t') {d d' : σ}
    (hd : R d d') {c b c' b' : Cursor} (hc : c.Past t b) (hc' : c'.Past t' b') :
    Outcomes Trouble.SameKind (fun x x' => R x.1 x'.1 ∧ EndAlike endList x.2 x'.2)
      (r.readFields n fs d c) (r.readFields n fs d' c') := by
  induction fs generalizing vs vs' n t t' d d' c c' with
  | nil =>
    rw [readFields, readFields]
    refine .ok ⟨hd, ?_⟩
    cases hvs with
    | nil =>
      have hend : ∀ {t c b}, Items (n = 0) [] t → Cursor.Past c t b → (endList c).1 = .ok () := by
        intro t c b h hc
        obtain ⟨x, hx⟩ := cons_of_head? (h.leave hc).2.next.1
        simp only [endList, hx, if_true]
      rw [EndAlike, hend h hc, hend h' hc']
      exact .ok trivial
    | beyond =>
      obtain ⟨e, he, hkind⟩ := h.endList_error hc
      obtain ⟨e', he', hkind'⟩ := h'.endList_error hc'
      rw [EndAlike, he, he']
      exact .error (hkind.trans hkind'.symm)
  | cons f fs ih =>
    have hf := hfields f List.mem_cons_self
    have ih := @ih fun g hg => hfields g (List.mem_cons_of_mem _ hg)
    have hnext : decide (n + 1 = 0) = false := by simp
    rw [readFields, readFields]
    cases hvs with
    | nil =>
      obtain ⟨hnone, hclose⟩ := h.leave hc
      obtain ⟨hnone', hclose'⟩ := h'.leave hc'
      rw [hnone, hnone']
      simp only [between, bind, Except.bind, Except.mapError]
      have habsent := hf.absent d d' hd
      generalize f.absent d = x at habsent ⊢
      generalize f.absent d' = x' at habsent ⊢
      cases habsent with
      | none => exact .error rfl
      | some hd₁ => exact ih .nil (.close (s := []) .nil) (.close (s := []) .nil) hd₁ hclose hclose'
    | cons hvalues hrest =>
      obtain ⟨c₁, c₂, u, hsome, hv, hpast, hfollows, hu, hc₂⟩ := h.enter hc
      obtain ⟨c₁', c₂', u', hsome', hv', hpast', hfollows', hu', hc₂'⟩ := h'.enter hc'
      rw [hsome, hsome']
      have hread := hf.read d d' hd _ _ hvalues hv hv' c₁ c₂ c₁' c₂' hpast hfollows hpast' hfollows'
      refine (within_alike hread).bind ?_
      rintro ⟨d₁, _⟩ ⟨d₁', _⟩ ⟨hd₁, rfl, rfl⟩
      exact ih hrest (hnext ▸ hu) (hnext ▸ hu') hd₁ hc₂ hc₂'

theorem closeWith_alike {close : Cursor → Except Error Unit × Cursor}
    {x x' : Except Trouble (α × Cursor)}
    (h : Outcomes Trouble.SameKind (fun y y' => S y.1 y'.1 ∧ EndAlike close y.2 y'.2) x x') :
    Outcomes Error.SameKind (fun y y' => S y.1 y'.1) (closeWith close x) (closeWith close x') := by
  have kind : ∀ t : Trouble, ∃ e, closeWith close (.error t : Except Trouble (α × Cursor)) =
      .error e ∧ e.fault.isData = t.isData := by
    intro t
    cases t with
    | placed e => exact ⟨e, rfl, rfl⟩
    | pending fault c => exact ⟨_, rfl, rfl⟩
  cases h with
  | @ok y y' h => exact Outcomes.map h.2 fun _ _ _ => h.1
  | @error e e' h =>
    obtain ⟨x, hx, hkind⟩ := kind e
    obtain ⟨x', hx', hkind'⟩ := kind e'
    rw [hx, hx']
    exact .error (hkind.trans (h.trans hkind'.symm))

theorem conclude_alike (hr : r.Respects T R S) {close : Cursor → Except Error Unit × Cursor}
    {x x' : Except Trouble (σ × Cursor)}
    (h : Outcomes Trouble.SameKind (fun y y' => R y.1 y'.1 ∧ EndAlike close y.2 y'.2) x x') :
    Outcomes Trouble.SameKind (fun y y' => S y.1 y'.1 ∧ EndAlike close y.2 y'.2) (r.conclude x)
      (r.conclude x') := by
  cases h with
  | @ok y y' h =>
    obtain ⟨d, c⟩ := y
    obtain ⟨d', c'⟩ := y'
    have hfinish := hr.finish d d' h.1
    unfold conclude
    simp only
    generalize r.finish d = z at hfinish ⊢
    generalize r.finish d' = z' at hfinish ⊢
    cases hfinish with
    | ok hs => exact .ok ⟨hs, h.2⟩
    | error he => exact .error he
  | error h => exact .error h

theorem endAlike_closing {c c' : Cursor} (h : c.rest.head? = some (ascii '\x7d'))
    (h' : c'.rest.head? = some (ascii '\x7d')) : EndAlike endObject c c' := by
  rw [EndAlike, endObject_closing h, endObject_closing h']
  exact .ok trivial

theorem read_object {c : Cursor} (h : c.skipSpace.rest.head? = some (ascii '\x7b')) :
    r.read c = closeWith endObject (r.conclude
      (r.readMembers (c.skipSpace.rest.length + 1) true r.start c.skipSpace.next)) := by
  rw [read, atValue_of_some h, ok_bind]
  exact if_pos h

theorem read_list {c : Cursor} (h : c.skipSpace.rest.head? = some (ascii '[')) :
    r.read c =
      closeWith endList (r.conclude (r.readFields 0 r.fields r.start c.skipSpace.next)) := by
  rw [read, atValue_of_some h, ok_bind, if_neg (by rw [h]; decide)]
  exact if_pos h

/-- **What is told with other words is read alike.** -/
theorem readFront_retold (hr : r.Respects T R S) {body body' : List UInt8}
    (h : Retold T (r.fields.map (·.name)) body body') :
    Outcomes Error.SameKind S (readFront r.read body) (readFront r.read body') := by
  have start : ∀ {s t x : List UInt8} {a : UInt8}, Spaces s → isSpace a = false →
      ∃ b, (Cursor.start (s ++ a :: (t ++ x))).skipSpace.Past (a :: t) b := by
    intro s t x a hs ha
    have hskip : (Cursor.start (s ++ a :: (t ++ x))).skipSpace.Past ((a :: t) ++ x) _ :=
      past_skipSpace_of_spaces hs ha (Cursor.past_start (s ++ a :: (t ++ x)))
    obtain ⟨b, hb, -⟩ := hskip.split
    exact ⟨b, hb⟩
  suffices hread : Outcomes Error.SameKind (fun y y' => S y.1 y'.1) (r.read (Cursor.start body))
      (r.read (Cursor.start body')) from hread.map fun _ _ hs => hs
  cases h with
  | @object s t x s' t' x' ms ms' hs hms hs' hms' hlike =>
    obtain ⟨b, hb⟩ := start (t := t) (x := x) hs (a := ascii '\x7b') (by decide)
    obtain ⟨b', hb'⟩ := start (t := t') (x := x') hs' (a := ascii '\x7b') (by decide)
    rw [read_object hb.next.1, read_object hb'.next.1]
    refine closeWith_alike (conclude_alike hr (.mono
      (readMembers_alike hr.fields hlike hms hms' hr.start hb.next.2 hb'.next.2 ?_ ?_)
      (fun _ _ h => h) fun _ _ h => ⟨h.1, endAlike_closing h.2.1 h.2.2⟩))
    · have := hms.length_le
      rw [hb.1, List.length_append, List.length_cons]
      omega
    · have := hms'.length_le
      rw [hb'.1, List.length_append, List.length_cons]
      omega
  | @list s t x s' t' x' vs vs' hs hvs hs' hvs' hlike =>
    obtain ⟨b, hb⟩ := start (t := t) (x := x) hs (a := ascii '[') (by decide)
    obtain ⟨b', hb'⟩ := start (t := t') (x := x') hs' (a := ascii '[') (by decide)
    rw [read_list hb.next.1, read_list hb'.next.1]
    exact closeWith_alike (conclude_alike hr
      (readFields_alike (n := 0) hr.fields hlike hvs hvs' hr.start hb.next.2 hb'.next.2))

end Record

end Gatehouse.Json
