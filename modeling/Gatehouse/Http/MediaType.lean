/-
  Gatehouse — media types.

  A content type is a type and a subtype, with parameters behind semicolons: tokens, or
  texts in quotes. `MediaType.isJson` says whether a body is announced as JSON: type
  `application`, and subtype `json`, alone or before or behind a plus sign.
-/
import Gatehouse.Text.Split

namespace Gatehouse.MediaType

/-- A character of a token. -/
def isTokenChar (c : Char) : Bool :=
  c.isAlphanum || "!#$%&'*+-.^_\x60|~".toList.contains c

/-- A character in quotes. -/
def isQuotedChar (c : Char) : Bool := 31 < c.toNat && c.toNat ≠ 127

/-- Pass over the rest of a text in quotes and over the spaces behind it, up to the next
    parameter. -/
def afterQuoted? : List Char → Option (List Char)
  | [] => none
  | '"' :: rest =>
    match rest.dropWhile (· = ' ') with
    | [] => some []
    | ';' :: rest => some rest
    | _ => none
  | c :: rest => if isQuotedChar c then afterQuoted? rest else none

/-- Pass over the value of a parameter. A value in quotes has at least one character, which
    may be a quote. -/
def afterValue? : List Char → Option (List Char)
  | '"' :: c :: rest => if isQuotedChar c then afterQuoted? rest else none
  | ['"'] => none
  | value =>
    match value.dropWhile isTokenChar with
    | [] => some []
    | ';' :: rest => if (value.takeWhile isTokenChar).isEmpty then none else some rest
    | _ => none

/-- The parameters behind the first semicolon are well-formed; at most `fuel` of them. -/
def parametersOk : Nat → List Char → Bool
  | 0, rest => rest.isEmpty
  | fuel + 1, rest =>
    match rest.dropWhile (· = ' ') with
    | [] => true
    | rest =>
      let name := rest.takeWhile isTokenChar
      match rest.dropWhile isTokenChar with
      | '=' :: value =>
        !name.isEmpty && (afterValue? value).any (parametersOk fuel)
      | _ => false

/-- The type and the subtype, if the content type is well-formed. -/
def parts? (text : List Char) : Option (List Char × List Char) := do
  let (essence, parameters) := (Text.splitFirst ';' text).getD (text, [])
  let (type, subtype) ← Text.splitFirst '/' essence
  if type.isEmpty || !type.all isTokenChar || !subtype.all isTokenChar then none
  else if essence.length < text.length
      && (subtype.isEmpty || !parametersOk text.length parameters) then none
  else some (type, subtype)

/-- The subtype in front of its last plus sign, and the suffix behind it. A plus sign that
    comes first does not count. -/
def suffixed (subtype : List Char) : List Char × Option (List Char) :=
  match Text.splitLast '+' subtype with
  | some (base, suffix) => if base.isEmpty then (subtype, none) else (base, some suffix)
  | none => (subtype, none)

/-- The body is announced as JSON. -/
def isJson (text : String) : Bool :=
  match parts? (text.toList.map Char.toLower) with
  | some (type, subtype) =>
    let (base, suffix) := suffixed subtype
    type = "application".toList && (base = "json".toList || suffix = some "json".toList)
  | none => false

end Gatehouse.MediaType
