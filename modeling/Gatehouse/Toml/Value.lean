/-
  Gatehouse — TOML documents.

  A value remembers how it was written as far as that decides who may add to it later: a
  table has a header of its own, or is implied by the headers or the dotted keys of what
  lies in it, or is written inline and closed; an array grows with each of its headers, or
  is closed. `putPair`, `putHeader` and `putElement` add to a document what one line says;
  they fail where the line says something twice.
-/

namespace Gatehouse.Toml

/-- How a table came into a document. -/
inductive Making
  | header
  | implied
  | dotted
  | inline
deriving DecidableEq, Repr

/-- A value. Dates and times are kept as text. -/
inductive Value
  | text (s : String)
  | integer (n : Int)
  | real (x : Float)
  | bool (b : Bool)
  | moment (s : String)
  | array (grows : Bool) (items : List Value)
  | table (making : Making) (entries : List (String × Value))

/-- What a table holds, in the order of writing. -/
abbrev Entries := List (String × Value)

/-- Replace the value of a key that is there. -/
def replace (key : String) (v : Value) : Entries → Entries
  | [] => []
  | (k, w) :: rest => if k = key then (k, v) :: rest else (k, w) :: replace key v rest

/-- Change a table: how it came about and what it holds, or nothing if it may not be changed
    so. -/
abbrev Change := Making → Entries → Option (Making × Entries)

/-- The last item and those before it. -/
def splitItems (items : List Value) : Option (List Value × Value) :=
  items.getLast?.map fun last => (items.dropLast, last)

/-- Change the table at a path. Tables on the way that are not there yet are made; of an array
    that grows, the last item counts. A path of a dotted key does not enter a table that has
    a header. -/
def within (byDots : Bool) : List String → Change → Change
  | [], change, making, entries => change making entries
  | key :: path, change, making, entries =>
    match entries.lookup key with
    | none =>
      (within byDots path change (if byDots then .dotted else .implied) []).map fun (m, es) =>
        (making, entries ++ [(key, .table m es)])
    | some (.table .inline _) => none
    | some (.table inner es) =>
      if byDots ∧ inner = .header then none
      else (within byDots path change inner es).map fun (m, es) =>
        (making, replace key (.table m es) entries)
    | some (.array true items) =>
      match splitItems items with
      | some (before, .table inner es) =>
        (within byDots path change inner es).map fun (m, es) =>
          (making, replace key (.array true (before ++ [.table m es])) entries)
      | _ => none
    | some _ => none

/-- Add a pair to a table, at a dotted path from it. The path may only run through tables that
    dotted keys made, and the key must be new. -/
def putPair (path : List String) (key : String) (v : Value) : Change :=
  within true path fun making entries =>
    if making = .dotted ↔ path = [] then none
    else if (entries.lookup key).isSome then none
    else some (making, entries ++ [(key, v)])

/-- Open the table of a header. It must be new or so far only implied by other headers. -/
def putHeader (path : List String) (key : String) : Change :=
  within false path fun making entries =>
    match entries.lookup key with
    | none => some (making, entries ++ [(key, .table .header [])])
    | some (.table .implied es) => some (making, replace key (.table .header es) entries)
    | some _ => none

/-- Open a new item of the array of a header. The array must be new or made by such headers. -/
def putElement (path : List String) (key : String) : Change :=
  within false path fun making entries =>
    match entries.lookup key with
    | none => some (making, entries ++ [(key, .array true [.table .header []])])
    | some (.array true items) =>
      some (making, replace key (.array true (items ++ [.table .header []])) entries)
    | some _ => none

end Gatehouse.Toml
