/-
  Gatehouse — what the text of a statement says.

  A statement is a text with numbered marks, and a list of values that are bound to the marks. What
  it writes is read off these two alone: under each column that it names stands the value of the
  mark at that place (`Statement.added?`, `Statement.set?`). The text falls into words at its gaps,
  and a name is one word that is none of the key words behind names (`Sql.IsName`).

  * `Sql.words_append`: a gap parts the words before it from those behind it;
  * `Statement.text_blank`: no value is part of the text;
  * `Statement.added?_insert`, `Statement.set?_update`, `Statement.meant?_update`: a statement
    writes the cells that it carries, and means the rows with its key;
  * `Statement.selects_select`: a look-up asks for its columns.
-/
import Gatehouse.Database.Statement
import Gatehouse.Proofs.Digests

namespace Gatehouse

namespace Database

namespace Sql

/-- The character stands between the words of a statement. -/
def isGap (c : Char) : Bool := c = ' ' || c = ',' || c = '(' || c = ')' || c = '='

/-- The words of a statement: key words, names and marks. -/
def words (text : String) : List String :=
  ((Text.pieces ' ' (text.toList.map fun c => if isGap c then ' ' else c)).filter
    (!·.isEmpty)).map String.ofList

/-- The words behind a key word, up to another one. -/
def between (first last : String) (words : List String) : List String :=
  ((words.dropWhile (· ≠ first)).drop 1).takeWhile (· ≠ last)

/-- The number of a mark. -/
def number? (mark : String) : Option Nat :=
  match mark.toList with
  | '$' :: digits => Text.readDecimal? digits
  | _ => none

/-- Each column with the number of its mark. -/
def numbered? : List String → List String → Option (List (String × Nat))
  | [], [] => some []
  | column :: columns, mark :: marks => do
    return (column, ← number? mark) :: (← numbered? columns marks)
  | _, _ => none

/-- The columns that an `INSERT` names, each with the number of the mark at its place. -/
def inserts? (text : String) : Option (List (String × Nat)) :=
  match words text with
  | "INSERT" :: "INTO" :: _ :: names =>
    numbered? (names.takeWhile (· ≠ "VALUES")) (between "VALUES" "" names)
  | _ => none

/-- The columns of a list of settings, and their marks. -/
def unzip : List String → List String × List String
  | column :: mark :: rest => (column :: (unzip rest).1, mark :: (unzip rest).2)
  | rest => (rest, [])

/-- The columns that an `UPDATE` sets, each with the number of its mark. -/
def assigns? (text : String) : Option (List (String × Nat)) :=
  match words text with
  | "UPDATE" :: _ :: names =>
    numbered? (unzip (between "SET" "WHERE" names)).1 (unzip (between "SET" "WHERE" names)).2
  | _ => none

/-- The column, with the number of its mark, by which a statement tells the rows that it means. -/
def condition? (text : String) : Option (List (String × Nat)) :=
  numbered? (unzip (between "WHERE" "" (words text))).1 (unzip (between "WHERE" "" (words text))).2

/-- The columns that a `SELECT` asks for. -/
def selects (text : String) : List String := between "SELECT" "FROM" (words text)

/-- A cell under each column, with the value that is bound to the mark; marks are counted from
    one. -/
def bound? (parameters : List Value) : List (String × Nat) → Option Row
  | [] => some []
  | (column, n) :: rest => do
    let cells ← bound? parameters rest
    if n = 0 then none
    else return ⟨column, ← parameters[n - 1]?⟩ :: cells

/-! ### Words -/

/-- The words among characters. -/
def chunks (cs : List Char) : List (List Char) :=
  (Text.pieces ' ' (cs.map fun c => if isGap c then ' ' else c)).filter (!·.isEmpty)

theorem words_eq (text : String) : words text = (chunks text.toList).map String.ofList := rfl

/-- A gap parts what stands before it from what stands behind it. -/
theorem chunks_append_gap {g : Char} (hg : isGap g = true) (cs ds : List Char) :
    chunks (cs ++ g :: ds) = chunks cs ++ chunks ds := by
  simp only [chunks, Text.pieces_eq_splitOn]
  rw [List.map_append, List.map_cons, if_pos hg, List.splitOn_append_cons_self, List.filter_append]

theorem chunks_gap {g : Char} (hg : isGap g = true) (ds : List Char) :
    chunks (g :: ds) = chunks ds := chunks_append_gap hg [] ds

theorem chunks_word {cs : List Char} (hne : cs ≠ []) (h : ∀ c ∈ cs, isGap c = false) :
    chunks cs = [cs] := by
  have hmap : (cs.map fun c => if isGap c then ' ' else c) = cs := by
    refine (List.map_congr_left fun c hc => ?_).trans (List.map_id cs)
    rw [h c hc]
    rfl
  have hspace : ' ' ∉ cs := fun hmem => by cases h ' ' hmem
  rw [chunks, hmap, Text.pieces_eq_splitOn, List.splitOn_eq_singleton hspace]
  simp [hne]

theorem chunks_intercalate (fields : List (List Char)) :
    chunks ([',', ' '].intercalate fields) = fields.flatMap chunks := by
  induction fields with
  | nil => rfl
  | cons f fs ih =>
    cases fs with
    | nil => simp
    | cons g gs =>
      rw [List.intercalate_cons_cons, List.append_assoc, List.cons_append, List.cons_append,
        List.nil_append, chunks_append_gap rfl, chunks_gap rfl, ih]
      rfl

/-- The text begins with a gap. -/
def opens (text : String) : Bool := text.toList.head?.any isGap

/-- The text ends in a gap. -/
def closes (text : String) : Bool := text.toList.getLast?.any isGap

theorem words_append_opens {b : String} (h : opens b = true) (a : String) :
    words (a ++ b) = words a ++ words b := by
  rw [words_eq, words_eq, words_eq, String.toList_append, ← List.map_append]
  rw [opens] at h
  cases hb : b.toList with
  | nil => simp [hb] at h
  | cons g cs =>
    rw [hb] at h
    rw [chunks_append_gap h, chunks_gap h]

theorem words_append_closes {a : String} (h : closes a = true) (b : String) :
    words (a ++ b) = words a ++ words b := by
  obtain ⟨g, hlast, hg⟩ := (Option.any_eq_true _ _).1 h
  obtain ⟨cs, ha⟩ := List.getLast?_eq_some_iff.1 hlast
  rw [words_eq, words_eq, words_eq, String.toList_append, ← List.map_append, ha, List.append_assoc,
    List.singleton_append, chunks_append_gap hg, chunks_append_gap hg]
  have hnil : chunks [] = [] := rfl
  rw [hnil, List.append_nil]

/-- What stands between two gaps. -/
theorem words_between {g : String} (hopens : opens g = true) (hcloses : closes g = true)
    (a b : String) : words (a ++ g ++ b) = words a ++ words g ++ words b := by
  have hlast : closes (a ++ g) = true := by
    obtain ⟨c, hc, hgap⟩ := (Option.any_eq_true _ _).1 hcloses
    rw [closes, String.toList_append, List.getLast?_append, hc]
    exact hgap
  rw [words_append_closes hlast, words_append_opens hopens]

theorem words_commas (items : List String) :
    words (Statement.commas items) = items.flatMap words := by
  have hcommas :
      (Statement.commas items).toList = [',', ' '].intercalate (items.map String.toList) := by
    rw [Statement.commas, String.toList_intercalate]
    rfl
  rw [words_eq, hcommas, chunks_intercalate, List.flatMap_map, List.map_flatMap]
  rfl

theorem words_equals (a b : String) : words (a ++ " = " ++ b) = words a ++ words b := by
  have hequals : words " = " = [] := rfl
  rw [words_between rfl rfl, hequals, List.append_nil]

theorem words_where (a column mark : String) :
    words (a ++ " WHERE " ++ column ++ " = " ++ mark)
      = words a ++ ["WHERE"] ++ words column ++ words mark := by
  have hwhere : words " WHERE " = ["WHERE"] := rfl
  rw [words_equals, words_between rfl rfl, hwhere]

/-! ### Names -/

/-- A name is one word, and none of the key words that stand behind names. -/
structure IsName (s : String) : Prop where
  nonempty : s.toList ≠ []
  solid : ∀ c ∈ s.toList, isGap c = false
  plain : s ∉ ["FROM", "VALUES", "WHERE"]

instance (s : String) : Decidable (IsName s) :=
  decidable_of_iff
    (s.toList ≠ [] ∧ s.toList.any isGap = false ∧ s ∉ ["FROM", "VALUES", "WHERE"])
    (by
      simp only [List.any_eq_false, Bool.not_eq_true]
      exact ⟨fun h => ⟨h.1, h.2.1, h.2.2⟩, fun h => ⟨h.nonempty, h.solid, h.plain⟩⟩)

theorem IsName.words_eq {s : String} (h : IsName s) : words s = [s] := by
  rw [Sql.words_eq, chunks_word h.nonempty h.solid, List.map_singleton, String.ofList_toList]

theorem flatMap_words {names : List String} (h : ∀ s ∈ names, IsName s) :
    names.flatMap words = names := by
  induction names with
  | nil => rfl
  | cons s names ih =>
    rw [List.flatMap_cons, (h s List.mem_cons_self).words_eq,
      ih fun s' hs' => h s' (List.mem_cons_of_mem s hs'), List.singleton_append]

theorem toList_place (n : Nat) :
    (Statement.place n).toList = '$' :: Text.decimalChars n := by
  simp [Statement.place, Text.decimal]

theorem number?_place (n : Nat) : number? (Statement.place n) = some n := by
  rw [number?, toList_place]
  exact Text.readDecimal?_decimalChars n

theorem isName_place (n : Nat) : IsName (Statement.place n) := by
  refine ⟨?_, ?_, ?_⟩
  · rw [toList_place]
    exact List.cons_ne_nil _ _
  · rw [toList_place]
    intro c hc
    rcases List.mem_cons.1 hc with rfl | hc
    · rfl
    · by_contra hgap
      have hword := Digest.word_iff.1 (Digest.word_decimalChars n) c hc
      simp only [isGap, Bool.not_eq_false, Bool.or_eq_true, decide_eq_true_eq] at hgap
      rcases hgap with (((rfl | rfl) | rfl) | rfl) | rfl <;> cases hword
  · intro hmem
    have h := List.mem_map_of_mem (f := fun s : String => s.toList.head?) hmem
    rw [toList_place] at h
    revert h
    simp

theorem takeWhile_append {last : String} {names rest : List String} (hlast : last ∉ names)
    (hrest : ∀ w ∈ rest.head?, w = last) : (names ++ rest).takeWhile (· ≠ last) = names := by
  have hnames : ∀ w ∈ names, decide (w ≠ last) = true := fun w hw =>
    decide_eq_true (ne_of_mem_of_not_mem hw hlast)
  have hstop : rest.takeWhile (· ≠ last) = [] := by
    cases rest with
    | nil => rfl
    | cons w rest => exact List.takeWhile_cons_of_neg (by simp [hrest w rfl])
  rw [List.takeWhile_append_of_pos hnames, hstop, List.append_nil]

/-- The words behind a key word, up to another one or the end. -/
theorem between_append (before rest : List String) {first last : String} {names : List String}
    (hfirst : first ∉ before) (hlast : last ∉ names) (hrest : ∀ w ∈ rest.head?, w = last) :
    between first last (before ++ first :: (names ++ rest)) = names := by
  have hbefore : ∀ w ∈ before, decide (w ≠ first) = true := fun w hw =>
    decide_eq_true (ne_of_mem_of_not_mem hw hfirst)
  rw [between, List.dropWhile_append_of_pos hbefore, List.dropWhile_cons_of_neg (by simp),
    List.drop_one, List.tail_cons, takeWhile_append hlast hrest]

/-! ### Columns -/

/-- Columns stand over marks, which are counted on. -/
theorem numbered?_places (columns : List String) (n : Nat) :
    numbered? columns ((List.range' n columns.length).map Statement.place)
      = some (columns.zipIdx n) := by
  induction columns generalizing n with
  | nil => rfl
  | cons column columns ih =>
    rw [List.length_cons, List.range'_succ, List.map_cons, numbered?, number?_place, ih]
    rfl

theorem words_setting {column : String} (h : IsName column) (n : Nat) :
    words (column ++ " = " ++ Statement.place n) = [column, Statement.place n] := by
  rw [words_equals, h.words_eq, (isName_place n).words_eq, List.singleton_append]

theorem unzip_settings {cells : Row} (h : ∀ s ∈ Statement.columnsOf cells, IsName s) (n : Nat) :
    unzip ((Statement.settings n cells).flatMap words)
      = (Statement.columnsOf cells, (List.range' n cells.length).map Statement.place) := by
  induction cells generalizing n with
  | nil => rfl
  | cons c cells ih =>
    obtain ⟨hc, hcells⟩ := List.forall_mem_cons.1 h
    rw [Statement.settings, List.flatMap_cons, words_setting hc, List.cons_append,
      List.singleton_append, unzip, ih hcells]
    rfl

theorem isName_of_mem_settings {cells : Row} (h : ∀ s ∈ Statement.columnsOf cells, IsName s)
    {n : Nat} {w : String} (hw : w ∈ (Statement.settings n cells).flatMap words) : IsName w := by
  induction cells generalizing n with
  | nil => cases hw
  | cons c cells ih =>
    obtain ⟨hc, hcells⟩ := List.forall_mem_cons.1 h
    rw [Statement.settings, List.flatMap_cons, words_setting hc] at hw
    rcases List.mem_append.1 hw with hw | hw
    · rcases List.mem_cons.1 hw with rfl | hw
      · exact hc
      · obtain rfl := List.mem_singleton.1 hw
        exact isName_place n
    · exact ih hcells hw

/-- The marks stand for the values of the cells, behind those of other cells. -/
theorem bound?_zipIdx (front : List Value) (cells : Row) :
    bound? (front ++ cells.map (·.value)) ((Statement.columnsOf cells).zipIdx (front.length + 1))
      = some cells := by
  induction cells generalizing front with
  | nil => rfl
  | cons c cells ih =>
    have hrest := ih (front ++ [c.value])
    rw [List.append_assoc, List.singleton_append, List.length_append, List.length_singleton] at hrest
    have hcolumns : Statement.columnsOf (c :: cells) = c.column :: Statement.columnsOf cells := rfl
    rw [hcolumns, List.zipIdx_cons, List.map_cons, bound?, hrest]
    simp

end Sql

/-- The row with nothing under its columns. -/
def Row.blank (cells : Row) : Row := cells.map fun c => { c with value := .null }

namespace Statement

/-- The statement without its values. -/
def blank : Statement → Statement
  | insert table cells => insert table (Row.blank cells)
  | select table columns key => select table columns { key with value := .null }
  | contains table key => contains table { key with value := .null }
  | update table key cells => update table { key with value := .null } (Row.blank cells)
  | mark table column key unmarked => mark table column { key with value := .null } unmarked
  | delete table key => delete table { key with value := .null }
  | deleteBelow table bound => deleteBelow table { bound with value := .null }

theorem columnsOf_blank (cells : Row) : columnsOf (Row.blank cells) = columnsOf cells := by
  simp [columnsOf, Row.blank]

theorem settings_blank (cells : Row) (n : Nat) :
    settings n (Row.blank cells) = settings n cells := by
  induction cells generalizing n with
  | nil => rfl
  | cons c cells ih => exact congrArg ((c.column ++ " = " ++ place n) :: ·) (ih (n + 1))

/-- **No value is part of the text of a statement.** -/
theorem text_blank (s : Statement) : s.blank.text = s.text := by
  cases s with
  | insert table cells =>
    unfold blank text
    dsimp only
    rw [columnsOf_blank, Row.blank, List.length_map]
  | update table key cells =>
    unfold blank text
    dsimp only
    rw [settings_blank]
  | _ => rfl

/-- The cells of the row that an `INSERT` adds. -/
def added? (s : Statement) : Option Row := (Sql.inserts? s.text).bind (Sql.bound? s.parameters)

/-- The cells that an `UPDATE` sets. -/
def set? (s : Statement) : Option Row := (Sql.assigns? s.text).bind (Sql.bound? s.parameters)

/-- The cells by which a statement tells the rows that it means. -/
def meant? (s : Statement) : Option Row := (Sql.condition? s.text).bind (Sql.bound? s.parameters)

/-- The row is one that the statement means. -/
def Means (s : Statement) (r : Row) : Prop :=
  ∃ cells, s.meant? = some cells ∧ ∀ c ∈ cells, Row.value r c.column = .ok c.value

/-- The second row is a reply about the first one: it has the same under each column that the
    statement asks for. -/
def RepliesWith (s : Statement) (r r' : Row) : Prop :=
  ∀ column ∈ Sql.selects s.text, Row.value r' column = Row.value r column

/-! ### Statements -/

variable {table : String} {columns : List String} {key : Cell} {cells : Row}

theorem words_insert (table : String) (cells : Row) : Sql.words (insert table cells).text
    = ["INSERT", "INTO"] ++ Sql.words table ++ (columnsOf cells).flatMap Sql.words ++ ["VALUES"]
      ++ ((List.range' 1 cells.length).map place).flatMap Sql.words := by
  have hinto : Sql.words "INSERT INTO " = ["INSERT", "INTO"] := rfl
  have hparenthesis : Sql.words " (" = [] := rfl
  have hvalues : Sql.words ") VALUES (" = ["VALUES"] := rfl
  have hclosed : Sql.words ")" = [] := rfl
  have hplaces : ((List.range cells.length).map fun i => place (i + 1))
      = (List.range' 1 cells.length).map place := by
    rw [List.range'_eq_map_range, List.map_map]
    exact List.map_congr_left fun i _ => congrArg place (Nat.add_comm i 1)
  have htext : (insert table cells).text = "INSERT INTO " ++ table ++ " ("
      ++ commas (columnsOf cells) ++ ") VALUES ("
      ++ commas ((List.range' 1 cells.length).map place) ++ ")" := by
    rw [← hplaces]
    rfl
  rw [htext, Sql.words_append_opens (b := ")") rfl, Sql.words_between (g := ") VALUES (") rfl rfl,
    Sql.words_between (g := " (") rfl rfl, Sql.words_append_closes (a := "INSERT INTO ") rfl,
    Sql.words_commas, Sql.words_commas, hinto, hparenthesis, hvalues, hclosed, List.append_nil,
    List.append_nil]

theorem words_select (table : String) (columns : List String) (key : Cell) :
    Sql.words (select table columns key).text
      = ["SELECT"] ++ columns.flatMap Sql.words ++ ["FROM"] ++ Sql.words table ++ ["WHERE"]
        ++ Sql.words key.column ++ Sql.words (place 1) := by
  have hselect : Sql.words "SELECT " = ["SELECT"] := rfl
  have hfrom : Sql.words " FROM " = ["FROM"] := rfl
  show Sql.words ("SELECT " ++ commas columns ++ " FROM " ++ table ++ " WHERE " ++ key.column
    ++ " = " ++ place 1) = _
  rw [Sql.words_where, Sql.words_between rfl rfl, Sql.words_append_closes rfl, Sql.words_commas,
    hselect, hfrom]

theorem words_update (table : String) (key : Cell) (cells : Row) :
    Sql.words (update table key cells).text
      = ["UPDATE"] ++ Sql.words table ++ ["SET"] ++ (settings 2 cells).flatMap Sql.words
        ++ ["WHERE"] ++ Sql.words key.column ++ Sql.words (place 1) := by
  have hupdate : Sql.words "UPDATE " = ["UPDATE"] := rfl
  have hset : Sql.words " SET " = ["SET"] := rfl
  show Sql.words ("UPDATE " ++ table ++ " SET " ++ commas (settings 2 cells) ++ " WHERE "
    ++ key.column ++ " = " ++ place 1) = _
  rw [Sql.words_where, Sql.words_between rfl rfl, Sql.words_append_closes rfl, Sql.words_commas,
    hupdate, hset]

/-- A look-up asks for its columns. -/
theorem selects_select (hcolumns : ∀ s ∈ columns, Sql.IsName s) :
    Sql.selects (select table columns key).text = columns := by
  have hfrom : "FROM" ∉ columns := fun hmem => (hcolumns _ hmem).plain (by decide)
  rw [Sql.selects, words_select, Sql.flatMap_words hcolumns]
  simp only [List.append_assoc, List.cons_append, List.nil_append]
  exact Sql.between_append [] _ (by simp) hfrom (by simp)

variable (htable : Sql.IsName table) (hcells : ∀ s ∈ columnsOf cells, Sql.IsName s)
include htable hcells

/-- An `INSERT` adds the row that it carries. -/
theorem added?_insert : (insert table cells).added? = some cells := by
  have hplaces : ∀ s ∈ (List.range' 1 cells.length).map place, Sql.IsName s := by
    intro s hs
    obtain ⟨n, -, rfl⟩ := List.mem_map.1 hs
    exact Sql.isName_place n
  have hwords : Sql.words (insert table cells).text = "INSERT" :: "INTO" :: table ::
      (columnsOf cells ++ "VALUES" :: (List.range' 1 cells.length).map place) := by
    rw [words_insert, htable.words_eq, Sql.flatMap_words hcells, Sql.flatMap_words hplaces]
    simp
  have hvalues : "VALUES" ∉ columnsOf cells := fun hmem => (hcells _ hmem).plain (by decide)
  have hempty : "" ∉ (List.range' 1 cells.length).map place := fun hmem =>
    (hplaces _ hmem).nonempty rfl
  have hbetween := Sql.between_append _ [] hvalues hempty (by simp)
  rw [List.append_nil] at hbetween
  have hinserts : Sql.inserts? (insert table cells).text = some ((columnsOf cells).zipIdx 1) := by
    simp only [Sql.inserts?, hwords]
    rw [hbetween, Sql.takeWhile_append hvalues (by simp), ← Sql.numbered?_places, columnsOf,
      List.length_map]
  rw [added?, hinserts]
  exact Sql.bound?_zipIdx [] cells

/-- An `UPDATE` sets the cells that it carries. -/
theorem set?_update (key : Cell) : (update table key cells).set? = some cells := by
  have hwords : Sql.words (update table key cells).text = "UPDATE" :: table :: ([] ++ "SET" ::
      ((settings 2 cells).flatMap Sql.words ++ "WHERE" ::
        (Sql.words key.column ++ Sql.words (place 1)))) := by
    rw [words_update, htable.words_eq]
    simp
  have hwhere : "WHERE" ∉ (settings 2 cells).flatMap Sql.words := fun hmem =>
    (Sql.isName_of_mem_settings hcells hmem).plain (by decide)
  have hassigns : Sql.assigns? (update table key cells).text
      = some ((columnsOf cells).zipIdx 2) := by
    simp only [Sql.assigns?, hwords]
    rw [Sql.between_append _ _ (by simp) hwhere (by simp), Sql.unzip_settings hcells,
      ← Sql.numbered?_places, columnsOf, List.length_map]
  rw [set?, hassigns]
  exact Sql.bound?_zipIdx [key.value] cells

/-- An `UPDATE` means the rows with its key. -/
theorem meant?_update (hkey : Sql.IsName key.column) :
    (update table key cells).meant? = some [key] := by
  have hwords : Sql.words (update table key cells).text
      = ("UPDATE" :: table :: "SET" :: (settings 2 cells).flatMap Sql.words) ++ "WHERE" ::
        ([key.column, place 1] ++ []) := by
    rw [words_update, htable.words_eq, hkey.words_eq, (Sql.isName_place 1).words_eq]
    simp
  have hwhere : "WHERE" ∉ "UPDATE" :: table :: "SET" :: (settings 2 cells).flatMap Sql.words := by
    simp only [List.mem_cons, not_or]
    refine ⟨by decide, fun h => ?_, by decide, fun hmem => ?_⟩
    · exact htable.plain (h ▸ by decide)
    · exact (Sql.isName_of_mem_settings hcells hmem).plain (by decide)
  have hempty : "" ∉ [key.column, place 1] := by
    simp only [List.mem_cons, List.not_mem_nil, or_false, not_or]
    exact ⟨fun h => hkey.nonempty (h ▸ rfl), fun h => (Sql.isName_place 1).nonempty (h ▸ rfl)⟩
  have hcondition : Sql.condition? (update table key cells).text = some [(key.column, 1)] := by
    rw [Sql.condition?, hwords, Sql.between_append _ _ hwhere hempty (by simp)]
    exact Sql.numbered?_places [key.column] 1
  rw [meant?, hcondition]
  rfl

end Statement

end Database

end Gatehouse
