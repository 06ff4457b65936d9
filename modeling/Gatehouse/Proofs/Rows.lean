/-
  Gatehouse — rows that are written, and read again.

  What a statement writes is read off its text and its values (`Statement.added?`,
  `Statement.set?`). A reader finds columns by name, so that their order and further columns do not
  matter (`Row.Extends`).

  * `Instant.cutTo_cut`: a stored instant is the whole microsecond next to it on the side of the
    year 2000;
  * `Row.Extends.value`: what stands under a column of such a row;
  * `UserTable.ofRow_newRow`, `TokenTable.ofRow_newRow`: a record is read from its cells, with its
    instants cut;
  * `UserTable.ofRow_cases`, `TokenTable.ofRow_cases`: what is read was validated, and all else is
    an outage;
  * `Database.rows_undo_writes`: the two tables give back what was written into them.
-/
import Gatehouse.Database.Tokens
import Gatehouse.Proofs.JsonValues
import Gatehouse.Proofs.Normalization
import Gatehouse.Proofs.Rehearsal
import Gatehouse.Proofs.Wording
import Mathlib.Data.List.Nodup

namespace Gatehouse

/-! ## Instants -/

namespace Instant

/-- The first instant of the year 2000. -/
def epoch : Instant := ⟨storedEpoch, 0⟩

/-- Nanoseconds from the year 2000. -/
def ticks (t : Instant) : Int := (t.seconds - storedEpoch) * giga + t.nanos

/-- The second instant is the first one without its part of a microsecond: it lies less than a
    microsecond nearer to the year 2000, and is no leap second. -/
structure CutTo (t t' : Instant) : Prop where
  regular : t'.nanos < giga
  whole : t'.nanos % 1000 = 0
  near : (t.ticks - t'.ticks).natAbs < 1000
  after : epoch ≤ t → epoch ≤ t' ∧ t' ≤ t
  before : t ≤ epoch → t ≤ t' ∧ t' ≤ epoch

theorem le_iff_ticks {t t' : Instant} (h : t.nanos < giga) (h' : t'.nanos < giga) :
    t ≤ t' ↔ t.ticks ≤ t'.ticks := by
  rw [le_iff_not_lt, lt_iff, ticks, ticks]
  simp only [giga] at *
  omega

theorem ticks_ofMicros (n : Int) : (ofMicros n).ticks = n * 1000 := by
  simp only [ticks, ofMicros, giga]
  omega

theorem nanos_ofMicros (n : Int) : (ofMicros n).nanos < giga ∧ (ofMicros n).nanos % 1000 = 0 := by
  simp only [ofMicros, giga]
  omega

/-- **A stored instant is cut to whole microseconds, towards the year 2000.** -/
theorem cutTo_cut {t : Instant} (h : t.nanos < giga) : t.CutTo t.cut := by
  obtain ⟨hregular, hwhole⟩ : t.cut.nanos < giga ∧ t.cut.nanos % 1000 = 0 :=
    nanos_ofMicros t.micros
  have hepoch : epoch.nanos < giga := by decide
  have hzero : epoch.ticks = 0 := by decide
  have hticks : t.cut.ticks = t.ticks.tdiv 1000 * 1000 := ticks_ofMicros t.micros
  have hsum := Int.mul_tdiv_add_tmod t.ticks 1000
  have hrest : (t.ticks.tmod 1000).natAbs < 1000 := by
    rw [Int.natAbs_tmod]
    exact Nat.mod_lt _ (by decide)
  refine ⟨hregular, hwhole, ?_, ?_, ?_⟩
  · omega
  · rw [le_iff_ticks hepoch h, le_iff_ticks hepoch hregular, le_iff_ticks hregular h, hzero]
    intro hafter
    have hnonneg := Int.tmod_nonneg 1000 hafter
    omega
  · rw [le_iff_ticks h hepoch, le_iff_ticks h hregular, le_iff_ticks hregular hepoch, hzero]
    intro hbefore
    have hnonneg := Int.tmod_nonneg 1000 (Int.neg_nonneg_of_nonpos hbefore)
    rw [Int.neg_tmod] at hnonneg
    omega

end Instant

namespace Username

/-- The text of a user name is entered as that name. -/
theorem ofText_text (n : Username) : ofText n.text = .ok n := by
  rw [ofText, dif_pos n.long, dif_pos n.short, dif_pos n.allowed]

end Username

namespace User

/-- The record as it is read back: with both instants cut. -/
def cut (u : User) : User := { u with createdAt := u.createdAt.cut, updatedAt := u.updatedAt.cut }

/-- No instant of the record is a leap second. -/
def Regular (u : User) : Prop :=
  u.createdAt.nanos < Instant.giga ∧ u.updatedAt.nanos < Instant.giga

/-- The second record is the first one without the parts of microseconds. -/
def CutTo (u v : User) : Prop :=
  v = { u with createdAt := v.createdAt, updatedAt := v.updatedAt } ∧
    u.createdAt.CutTo v.createdAt ∧ u.updatedAt.CutTo v.updatedAt

theorem cutTo_cut {u : User} (h : u.Regular) : u.CutTo u.cut :=
  ⟨rfl, Instant.cutTo_cut h.1, Instant.cutTo_cut h.2⟩

end User

namespace Token

/-- The token as it is read back: with both instants cut. -/
def cut (t : Token) : Token := { t with expiresAt := t.expiresAt.cut, createdAt := t.createdAt.cut }

/-- No instant of the token is a leap second. -/
def Regular (t : Token) : Prop :=
  t.expiresAt.nanos < Instant.giga ∧ t.createdAt.nanos < Instant.giga

/-- The second token is the first one without the parts of microseconds. -/
def CutTo (t v : Token) : Prop :=
  v = { t with expiresAt := v.expiresAt, createdAt := v.createdAt } ∧
    t.expiresAt.CutTo v.expiresAt ∧ t.createdAt.CutTo v.createdAt

theorem cutTo_cut {t : Token} (h : t.Regular) : t.CutTo t.cut :=
  ⟨rfl, Instant.cutTo_cut h.1, Instant.cutTo_cut h.2⟩

end Token

namespace Database

open Json (ok_of_bind)

/-! ## Rows -/

namespace Row

/-- The row has these cells, in any order, and others under other columns. -/
def Extends (r cells : Row) : Prop :=
  ∃ extra, r.Perm (cells ++ extra) ∧ ∀ c ∈ extra, c.column ∉ Statement.columnsOf cells

/-- The row with other cells under some of its columns. -/
def assign (r cells : Row) : Row :=
  r.map fun c => (cells.find? (·.column == c.column)).getD c

theorem columnsOf_assign (r cells : Row) :
    Statement.columnsOf (r.assign cells) = Statement.columnsOf r := by
  simp only [Statement.columnsOf, assign, List.map_map]
  refine List.map_congr_left fun c _ => ?_
  cases hc : cells.find? (·.column == c.column) with
  | none => simp [hc]
  | some d => simpa [hc] using List.find?_some hc

theorem Extends.assign {r cells : Row} (h : r.Extends cells) (set : Row) :
    (r.assign set).Extends (cells.assign set) := by
  obtain ⟨extra, hperm, hextra⟩ := h
  refine ⟨Row.assign extra set, ?_, ?_⟩
  · rw [Row.assign, Row.assign, Row.assign, ← List.map_append]
    exact hperm.map _
  · intro c hc
    rw [columnsOf_assign]
    have hcolumn : c.column ∈ Statement.columnsOf extra := by
      rw [← columnsOf_assign extra set]
      exact List.mem_map_of_mem hc
    obtain ⟨d, hd, hdc⟩ := List.mem_map.1 hcolumn
    rw [← hdc]
    exact hextra d hd

/-- What stands under a column does not depend on the order of the columns, nor on others. -/
theorem Extends.value {r cells : Row} (h : r.Extends cells)
    (hnodup : (Statement.columnsOf cells).Nodup) {c : Cell} (hc : c ∈ cells) :
    Row.value r c.column = .ok c.value := by
  obtain ⟨extra, hperm, hextra⟩ := h
  have hmem : c ∈ r := hperm.symm.subset (List.mem_append_left _ hc)
  have hunique : ∀ d ∈ r, d.column = c.column → d = c := by
    intro d hd hcolumn
    rcases List.mem_append.1 (hperm.subset hd) with hd | hd
    · exact List.inj_on_of_nodup_map hnodup hd hc hcolumn
    · exact absurd (hcolumn ▸ List.mem_map_of_mem hc) (hextra d hd)
  unfold Row.value
  cases hfind : r.reverse.find? (·.column == c.column) with
  | none =>
    have := List.find?_eq_none.1 hfind c (List.mem_reverse.2 hmem)
    simp at this
  | some d =>
    have hcolumn : d.column = c.column := by simpa using List.find?_some hfind
    have hd : d ∈ r := List.mem_reverse.1 (List.mem_of_find?_eq_some hfind)
    rw [hunique d hd hcolumn]

theorem get_of_value {α : Type} {read : Value → Option α} {r : Row} {column : String} {v : Value}
    {a : α} (h : Row.value r column = .ok v) (hread : read v = some a) (hnull : v ≠ .null) :
    Row.get read r column = .ok a := by
  unfold Row.get
  rw [h]
  cases v with
  | null => exact absurd rfl hnull
  | _ => simp only [bind, Except.bind, hread]

theorem text_of_value {r : Row} {column s : String} (h : Row.value r column = .ok (.text s)) :
    Row.text r column = .ok s :=
  get_of_value h rfl (by simp)

theorem bool_of_value {r : Row} {column : String} {b : Bool}
    (h : Row.value r column = .ok (.bool b)) : Row.bool r column = .ok b :=
  get_of_value h rfl (by simp)

theorem int_of_value {r : Row} {column : String} {n : Int}
    (h : Row.value r column = .ok (.int n)) : Row.int r column = .ok n :=
  get_of_value h rfl (by simp)

/-- An instant is read back cut. -/
theorem instant_of_value {r : Row} {column : String} {t : Instant}
    (h : Row.value r column = .ok (.ofInstant t)) : Row.instant r column = .ok t.cut :=
  get_of_value h rfl (by simp [Value.ofInstant])

end Row

/-! ## Accounts -/

namespace UserTable

/-- The columns of a new row are those of the look-ups, under different names. -/
theorem columnsOf_newRow (u : User) : Statement.columnsOf (newRow u) = columns := rfl

theorem nodup_columns : columns.Nodup := by decide

theorem isName_name : Sql.IsName name := by decide

theorem isName_columns : ∀ s ∈ columns, Sql.IsName s := by decide

/-- A record is written under the columns that the look-ups ask for. -/
theorem added_create (u : User) : (UserCall.create u).statement.added? = some (newRow u) :=
  Statement.added?_insert isName_name isName_columns

/-- The columns that an update sets. -/
def changedColumns : List String :=
  ["email", "user_name", "password_hash", "first_name", "last_name", "is_active",
    "email_verified", "credential_version", "updated_at"]

theorem columnsOf_changedRow (u : User) : Statement.columnsOf (changedRow u) = changedColumns := rfl

theorem isName_changedRow (u : User) :
    ∀ s ∈ Statement.columnsOf (changedRow u), Sql.IsName s := by
  have hsubset : changedColumns ⊆ columns := by decide
  rw [columnsOf_changedRow]
  exact fun s hs => isName_columns s (hsubset hs)

theorem set_update (u : User) : (UserCall.update u).statement.set? = some (changedRow u) :=
  Statement.set?_update isName_name (isName_changedRow u) (key u.id)

theorem meant_update (u : User) : (UserCall.update u).statement.meant? = some [key u.id] :=
  Statement.meant?_update isName_name (isName_changedRow u) (isName_columns "id" (by decide))

theorem assign_changedRow {u u' : User} (h : u'.id = u.id) :
    (newRow u).assign (changedRow u') = newRow { u' with createdAt := u.createdAt } := by
  obtain ⟨id, email, name, passwordHash, firstName, lastName, isActive, emailVerified, version,
    createdAt, updatedAt⟩ := u'
  obtain rfl : id = u.id := h
  rfl

theorem draft_newRow {u : User} {r : Row} (h : r.Extends (newRow u)) :
    draft r = .ok ⟨u.id.text, u.email.text, u.name.text, u.passwordHash, u.firstName, u.lastName,
      u.isActive, u.emailVerified, u.credentialVersion, u.createdAt.cut, u.updatedAt.cut⟩ := by
  have hcells : ∀ c ∈ newRow u, Row.value r c.column = .ok c.value := fun c hc =>
    h.value (by rw [columnsOf_newRow]; exact nodup_columns) hc
  simp only [newRow, body, key, emailCell, updatedCell, List.cons_append, List.nil_append,
    List.forall_mem_cons] at hcells
  obtain ⟨hid, hemail, hname, hhash, hfirst, hlast, hactive, hverified, hversion, hcreated,
    hupdated, -⟩ := hcells
  simp only [draft, Row.text_of_value hid, Row.text_of_value hemail, Row.text_of_value hname,
    Row.text_of_value hhash, Row.text_of_value hfirst, Row.text_of_value hlast,
    Row.bool_of_value hactive, Row.bool_of_value hverified, Row.int_of_value hversion,
    Row.instant_of_value hcreated, Row.instant_of_value hupdated]
  rfl

theorem ofRow_of_draft {r : Row} {d : Draft} (h : draft r = .ok d) : ofRow r = d.finish := by
  unfold ofRow
  rw [h]
  simp only [Except.mapError]
  exact pure_bind d Draft.finish

/-- A record is read from its cells, with both instants cut. -/
theorem ofRow_newRow {u : User} {r : Row} (h : r.Extends (newRow u)) : ofRow r = .ok u.cut := by
  rw [ofRow_of_draft (draft_newRow h)]
  simp only [Draft.finish, EmailAddress.ofText_text, Username.ofText_text]
  rfl

theorem selects_findById (id : UserId) :
    Sql.selects (UserCall.findById id).statement.text = columns :=
  Statement.selects_select isName_columns

theorem selects_findByEmail (email : EmailAddress) :
    Sql.selects (UserCall.findByEmail email).statement.text = columns :=
  Statement.selects_select isName_columns

/-- Only what stands under the columns of the table is read. -/
theorem ofRow_congr {r r' : Row}
    (h : ∀ column ∈ columns, Row.value r' column = Row.value r column) : ofRow r' = ofRow r := by
  simp only [columns, List.forall_mem_cons] at h
  obtain ⟨hid, hemail, hname, hhash, hfirst, hlast, hactive, hverified, hversion, hcreated,
    hupdated, -⟩ := h
  simp only [ofRow, draft, Row.text, Row.bool, Row.int, Row.instant, Row.get, hid, hemail, hname,
    hhash, hfirst, hlast, hactive, hverified, hversion, hcreated, hupdated]

/-- What both look-ups answer when a row of the table stands first in the reply. -/
def Reads (r : Row) (answer : Except StoreError (Option User)) : Prop :=
  ∀ (affected : Nat) (r' : Row) (rest : List Row),
    (∀ id, (UserCall.findById id).statement.RepliesWith r r' →
      (UserCall.findById id).interpret (.ok ⟨affected, r' :: rest⟩) = answer) ∧
    ∀ email, (UserCall.findByEmail email).statement.RepliesWith r r' →
      (UserCall.findByEmail email).interpret (.ok ⟨affected, r' :: rest⟩) = answer

theorem reads_of_ofRow {r : Row} {a : Except StoreError User} (h : ofRow r = a) :
    Reads r (a.map some) := by
  refine fun affected r' rest => ⟨fun id hreply => ?_, fun email hreply => ?_⟩
  · rw [Statement.RepliesWith, selects_findById] at hreply
    exact congrArg (Except.map some) ((ofRow_congr hreply).trans h)
  · rw [Statement.RepliesWith, selects_findByEmail] at hreply
    exact congrArg (Except.map some) ((ofRow_congr hreply).trans h)

/-- The row holds an address and a user name that the constructors accept. -/
def Validates (r : Row) : Prop :=
  (∃ s e, Row.text r "email" = .ok s ∧ EmailAddress.ofText s = .ok e) ∧
    ∃ s n, Row.text r "user_name" = .ok s ∧ Username.ofText s = .ok n

theorem texts_of_draft {r : Row} {d : Draft} (h : draft r = .ok d) :
    Row.text r "email" = .ok d.email ∧ Row.text r "user_name" = .ok d.name := by
  unfold draft at h
  obtain ⟨_, -, h⟩ := ok_of_bind h
  obtain ⟨email, hemail, h⟩ := ok_of_bind h
  obtain ⟨name, hname, h⟩ := ok_of_bind h
  iterate 8 obtain ⟨_, -, h⟩ := ok_of_bind h
  cases h
  exact ⟨hemail, hname⟩

/-- What is read was validated, and a row that is not read is an outage. -/
theorem ofRow_cases (r : Row) :
    (∃ u, ofRow r = .ok u ∧ Validates r) ∨ ∃ reason, ofRow r = .error (.unavailable reason) := by
  cases hd : draft r with
  | error f =>
    refine .inr ⟨f.message, ?_⟩
    unfold ofRow
    rw [hd]
    rfl
  | ok d =>
    obtain ⟨htext, hname⟩ := texts_of_draft hd
    rw [ofRow_of_draft hd]
    unfold Draft.finish
    cases he : EmailAddress.ofText d.email with
    | error e => exact .inr ⟨_, rfl⟩
    | ok e =>
      cases hn : Username.ofText d.name with
      | error e => exact .inr ⟨_, rfl⟩
      | ok n => exact .inl ⟨_, rfl, ⟨_, e, htext, he⟩, _, n, hname, hn⟩

/-- **A row that does not validate is an outage of the store.** -/
theorem reads_unavailable {r : Row} (h : ¬ Validates r) :
    ∃ reason, Reads r (.error (.unavailable reason)) := by
  obtain ⟨u, -, hvalid⟩ | ⟨reason, herror⟩ := ofRow_cases r
  · exact absurd hvalid h
  · exact ⟨reason, reads_of_ofRow herror⟩

end UserTable

/-! ## Tokens -/

namespace TokenTable

theorem columnsOf_newRow (t : Token) : Statement.columnsOf (newRow t) = columns := rfl

theorem nodup_columns : columns.Nodup := by decide

theorem isName_columns : ∀ s ∈ columns, Sql.IsName s := by decide

/-- A token is written under the columns that the look-up asks for. -/
theorem added_create (t : Token) : (TokenCall.create t).statement.added? = some (newRow t) :=
  Statement.added?_insert (by decide) isName_columns

theorem draft_newRow {t : Token} {r : Row} (h : r.Extends (newRow t)) :
    draft r = .ok ⟨t.id, t.userId.text, t.secret, t.kind.word, t.expiresAt.cut, t.revoked,
      t.credentialVersion, t.createdAt.cut⟩ := by
  have hcells : ∀ c ∈ newRow t, Row.value r c.column = .ok c.value := fun c hc =>
    h.value (by rw [columnsOf_newRow]; exact nodup_columns) hc
  simp only [newRow, ownerCell, secretCell, List.forall_mem_cons] at hcells
  obtain ⟨hid, howner, hsecret, hkind, hexpires, hrevoked, hversion, hcreated, -⟩ := hcells
  simp only [draft, Row.text_of_value hid, Row.text_of_value howner, Row.text_of_value hsecret,
    Row.text_of_value hkind, Row.instant_of_value hexpires, Row.bool_of_value hrevoked,
    Row.int_of_value hversion, Row.instant_of_value hcreated]
  rfl

theorem ofRow_of_draft {r : Row} {d : Draft} (h : draft r = .ok d) : ofRow r = d.finish := by
  unfold ofRow
  rw [h]
  simp only [Except.mapError]
  exact pure_bind d Draft.finish

/-- A token is read from its cells, with both instants cut. -/
theorem ofRow_newRow {t : Token} {r : Row} (h : r.Extends (newRow t)) : ofRow r = .ok t.cut := by
  rw [ofRow_of_draft (draft_newRow h)]
  simp only [Draft.finish, TokenKind.ofWord?_eq_some_iff.2 rfl]
  rfl

theorem selects_findBySecret (secret : String) :
    Sql.selects (TokenCall.findBySecret secret).statement.text = columns :=
  Statement.selects_select isName_columns

/-- Only what stands under the columns of the table is read. -/
theorem ofRow_congr {r r' : Row}
    (h : ∀ column ∈ columns, Row.value r' column = Row.value r column) : ofRow r' = ofRow r := by
  simp only [columns, List.forall_mem_cons] at h
  obtain ⟨hid, howner, hsecret, hkind, hexpires, hrevoked, hversion, hcreated, -⟩ := h
  simp only [ofRow, draft, Row.text, Row.bool, Row.int, Row.instant, Row.get, hid, howner, hsecret,
    hkind, hexpires, hrevoked, hversion, hcreated]

/-- What the look-up answers when a row of the table stands first in the reply. -/
def Reads (r : Row) (answer : Except StoreError (Option Token)) : Prop :=
  ∀ (affected : Nat) (r' : Row) (rest : List Row) secret,
    (TokenCall.findBySecret secret).statement.RepliesWith r r' →
      (TokenCall.findBySecret secret).interpret (.ok ⟨affected, r' :: rest⟩) = answer

theorem reads_of_ofRow {r : Row} {a : Except StoreError Token} (h : ofRow r = a) :
    Reads r (a.map some) := by
  intro affected r' rest secret hreply
  rw [Statement.RepliesWith, selects_findBySecret] at hreply
  exact congrArg (Except.map some) ((ofRow_congr hreply).trans h)

/-- The row holds the word of a kind. -/
def Validates (r : Row) : Prop :=
  ∃ word kind, Row.text r "kind" = .ok word ∧ TokenKind.ofWord? word = some kind

theorem kind_of_draft {r : Row} {d : Draft} (h : draft r = .ok d) :
    Row.text r "kind" = .ok d.kind := by
  unfold draft at h
  iterate 3 obtain ⟨_, -, h⟩ := ok_of_bind h
  obtain ⟨kind, hkind, h⟩ := ok_of_bind h
  iterate 4 obtain ⟨_, -, h⟩ := ok_of_bind h
  cases h
  exact hkind

/-- What is read was validated, and a row that is not read is an outage. -/
theorem ofRow_cases (r : Row) :
    (∃ t, ofRow r = .ok t ∧ Validates r) ∨ ∃ reason, ofRow r = .error (.unavailable reason) := by
  cases hd : draft r with
  | error f =>
    refine .inr ⟨f.message, ?_⟩
    unfold ofRow
    rw [hd]
    rfl
  | ok d =>
    rw [ofRow_of_draft hd]
    unfold Draft.finish
    cases hk : TokenKind.ofWord? d.kind with
    | none => exact .inr ⟨_, rfl⟩
    | some k => exact .inl ⟨_, rfl, _, k, kind_of_draft hd, hk⟩

/-- **A row that does not validate is an outage of the store.** -/
theorem reads_unavailable {r : Row} (h : ¬ Validates r) :
    ∃ reason, Reads r (.error (.unavailable reason)) := by
  obtain ⟨t, -, hvalid⟩ | ⟨reason, herror⟩ := ofRow_cases r
  · exact absurd hvalid h
  · exact ⟨reason, reads_of_ofRow herror⟩

end TokenTable

/-! ## Writing and reading -/

namespace UserTable

/-- A row of the table that an update means is one of the same account. -/
theorem id_of_means {u u' : User} {r : Row} (h : r.Extends (newRow u))
    (hmeans : (UserCall.update u').statement.Means r) : u'.id = u.id := by
  obtain ⟨cells, hcells, hvalues⟩ := hmeans
  rw [meant_update] at hcells
  cases hcells
  have hkey : Row.value r (key u.id).column = .ok (key u.id).value :=
    h.value (by rw [columnsOf_newRow]; exact nodup_columns) (by simp [newRow])
  have hmeant := (hvalues _ List.mem_cons_self).symm.trans hkey
  obtain ⟨id, _⟩ := u'
  obtain ⟨id', _⟩ := u
  simp only [key, Except.ok.injEq, Value.text.injEq] at hmeant
  exact congrArg UserId.mk hmeant

/-- A new record, in a row with other columns and in any order, is read with both instants cut. -/
theorem reads_created (u : User) :
    ∃ cells, (UserCall.create u).statement.added? = some cells ∧
      ∀ r : Row, r.Extends cells → Reads r (.ok (some u.cut)) :=
  ⟨newRow u, added_create u, fun _ h => reads_of_ofRow (ofRow_newRow h)⟩

/-- An updated record is read as what it was updated to; the time of creation is the one part that
    stays. -/
theorem reads_updated {u u' : User} {r : Row} (h : r.Extends (newRow u))
    (hmeans : (UserCall.update u').statement.Means r) :
    ∃ cells, (UserCall.update u').statement.set? = some cells ∧
      Reads (r.assign cells) (.ok (some { u'.cut with createdAt := u.createdAt.cut })) := by
  have hassign := h.assign (changedRow u')
  rw [assign_changedRow (id_of_means h hmeans)] at hassign
  exact ⟨changedRow u', set_update u', reads_of_ofRow (ofRow_newRow hassign)⟩

end UserTable

namespace TokenTable

/-- A new token, in a row with other columns and in any order, is read with both instants cut. -/
theorem reads_created (t : Token) :
    ∃ cells, (TokenCall.create t).statement.added? = some cells ∧
      ∀ r : Row, r.Extends cells → Reads r (.ok (some t.cut)) :=
  ⟨newRow t, added_create t, fun _ h => reads_of_ofRow (ofRow_newRow h)⟩

end TokenTable

/-- **Reading undoes writing.** Let a row hold the values that `create` binds, each under the column
    that the statement names for it, in any order and with others. Both look-ups read it as the
    record that was written, cut to microseconds; and once `update` has set its columns in it, as
    the record of the update, except that the time of creation stays. The same holds for a token and
    its look-up. A row that does not validate is an outage: neither a record nor a missing one. -/
theorem rows_undo_writes {u u' : User} {t : Token} (hu : u.Regular) (hu' : u'.Regular)
    (ht : t.Regular) :
    (u.CutTo u.cut ∧ u'.CutTo u'.cut ∧ t.CutTo t.cut) ∧
    (∃ cells, (UserCall.create u).statement.added? = some cells ∧
      ∀ r : Row, r.Extends cells →
        UserTable.Reads r (.ok (some u.cut)) ∧
        ((UserCall.update u').statement.Means r →
          ∃ changed, (UserCall.update u').statement.set? = some changed ∧
            UserTable.Reads (r.assign changed)
              (.ok (some { u'.cut with createdAt := u.cut.createdAt })))) ∧
    (∃ cells, (TokenCall.create t).statement.added? = some cells ∧
      ∀ r : Row, r.Extends cells → TokenTable.Reads r (.ok (some t.cut))) ∧
    (∀ r, ¬ UserTable.Validates r → ∃ reason, UserTable.Reads r (.error (.unavailable reason))) ∧
    ∀ r, ¬ TokenTable.Validates r →
      ∃ reason, TokenTable.Reads r (.error (.unavailable reason)) := by
  obtain ⟨cells, hcells, hcreated⟩ := UserTable.reads_created u
  refine ⟨⟨User.cutTo_cut hu, User.cutTo_cut hu', Token.cutTo_cut ht⟩,
    ⟨cells, hcells, fun r hr => ⟨hcreated r hr, fun hmeans => ?_⟩⟩, TokenTable.reads_created t,
    fun _ => UserTable.reads_unavailable, fun _ => TokenTable.reads_unavailable⟩
  obtain rfl : UserTable.newRow u = cells :=
    Option.some_inj.1 ((UserTable.added_create u).symm.trans hcells)
  exact UserTable.reads_updated hr hmeans

/-- An account of 1970 that was changed in 2026, at instants that are no whole microseconds. -/
def oldAda : User := { ada with createdAt := ⟨0, 1500⟩, updatedAt := ⟨1772352000, 2999⟩ }

/-- Its row, backwards and with one more column. -/
def oldAdasRow : Row := ⟨"note", .null⟩ :: (UserTable.newRow oldAda).reverse

theorem oldAdasRow_extends : oldAdasRow.Extends (UserTable.newRow oldAda) := by
  refine ⟨[⟨"note", .null⟩], ?_, by decide⟩
  exact ((List.reverse_perm _).cons _).trans (List.perm_append_singleton _ _).symm

theorem oldAdasRow_meant (u : User) (h : u.id = oldAda.id) :
    (UserCall.update u).statement.Means oldAdasRow := by
  refine ⟨_, UserTable.meant_update u, fun c hc => ?_⟩
  obtain rfl := List.mem_singleton.1 hc
  rw [h]
  exact oldAdasRow_extends.value UserTable.nodup_columns List.mem_cons_self

/-- The time before the year 2000 is cut upwards, the one after it downwards; a change of the name
    leaves the time of creation; and without a valid address the row is an outage. -/
theorem rows_undo_writes_oldAda :
    UserTable.Reads oldAdasRow
      (.ok (some { oldAda with createdAt := ⟨0, 2000⟩, updatedAt := ⟨1772352000, 2000⟩ })) ∧
    (∃ changed,
      (UserCall.update { oldAda with lastName := "M", createdAt := ⟨9, 9⟩ }).statement.set?
          = some changed ∧
        UserTable.Reads (oldAdasRow.assign changed)
          (.ok (some { oldAda with
            lastName := "M", createdAt := ⟨0, 2000⟩, updatedAt := ⟨1772352000, 2000⟩ }))) ∧
    ∃ reason, UserTable.Reads (oldAdasRow.assign [⟨"email", .text "ada"⟩])
      (.error (.unavailable reason)) := by
  obtain ⟨-, ⟨cells, hcells, hread⟩, -, hinvalid, -⟩ :=
    @rows_undo_writes oldAda { oldAda with lastName := "M", createdAt := ⟨9, 9⟩ }
      (.mint ada .refresh ⟨0, 0⟩ ⟨9, 0⟩ "2" "session") ⟨by decide, by decide⟩
      ⟨by decide, by decide⟩ ⟨by decide, by decide⟩
  obtain rfl : UserTable.newRow oldAda = cells :=
    Option.some_inj.1 ((UserTable.added_create oldAda).symm.trans hcells)
  obtain ⟨hcreated, hupdated⟩ := hread oldAdasRow oldAdasRow_extends
  refine ⟨hcreated, hupdated (oldAdasRow_meant _ rfl), hinvalid _ ?_⟩
  rintro ⟨⟨s, e, hs, he⟩, -⟩
  obtain rfl : "ada" = s := by
    have hada : Row.text (oldAdasRow.assign [⟨"email", .text "ada"⟩]) "email" = .ok "ada" := by
      rfl
    exact Except.ok.inj (hada.symm.trans hs)
  have hrefused : (EmailAddress.ofText "ada").isOk = false := by decide +kernel
  rw [he] at hrefused
  cases hrefused

end Database

end Gatehouse
