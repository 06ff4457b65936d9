/-
  Gatehouse — layers of a configuration.

  A layer is a list of assignments, each of a value to a path of names. The built-in values,
  a TOML file and the environment each make one; names count without regard to case. Laying
  a layer over a tree makes its assignments one after the other, so a later layer wins path
  by path and leaves alone what it does not name.
-/
import Gatehouse.Config.Tree
import Gatehouse.Text.Lowercase
import Gatehouse.Text.Split
import Gatehouse.Toml.Read

namespace Gatehouse.Config

/-- One thing that a layer says: the value at a path, or only that there is a section. -/
inductive Assignment
  | value (path : List String) (origin : Option Origin) (value : Toml.Value)
  | section (path : List String)

/-- What a layer says, in order. -/
abbrev Layer := List Assignment

/-- Make an assignment. -/
def Assignment.apply (t : Option Tree) : Assignment → Option Tree
  | value path origin v => some (Tree.put (.leaf origin v) path t)
  | .section path => some (Tree.touch path t)

/-- Lay a layer over a tree. -/
def Layer.apply (layer : Layer) (t : Option Tree) : Option Tree := layer.foldl Assignment.apply t

/-! ## Names -/

/-- A character of a name in a path. -/
def isNamePart (c : Char) : Bool := Toml.isBare c || c = ' '

/-- The path that a key with dots names. A key that is not made of names is one name. -/
def pathOf (key : String) : List String :=
  let parts := Text.pieces '.' key.toList
  if parts.all fun part => !part.isEmpty && part.all isNamePart then
    parts.map fun part => Text.lowercase (String.ofList part)
  else [Text.lowercase key]

/-- The name of a variable with dots for its pairs of underscores. -/
def dotted : List Char → List Char
  | '_' :: '_' :: rest => '.' :: dotted rest
  | c :: rest => c :: dotted rest
  | [] => []

/-! ## Sources -/

mutual

/-- The assignments of a value that stands at a path. -/
def assignments (origin : Origin) (path : List String) : Toml.Value → Layer
  | .table _ [] => [.section path]
  | .table _ entries => entryAssignments origin path entries
  | v => [.value path origin v]

/-- The assignments of the entries of a table that stands at a path. -/
def entryAssignments (origin : Origin) (path : List String) : Toml.Entries → Layer
  | [] => []
  | (name, v) :: rest =>
    assignments origin (path ++ [Text.lowercase name]) v ++ entryAssignments origin path rest

end

/-- The layer of a document. Only the keys outside of all tables may be paths. -/
def ofDocument (path : String) (entries : Toml.Entries) : Layer :=
  entries.flatMap fun (key, v) => assignments (.file path) (pathOf key) v

/-- The layer of a file, given its content. -/
def ofFile (path content : String) : Except Error Layer :=
  match Toml.read content with
  | some entries => .ok (ofDocument path entries)
  | none => .error (.malformed path)

/-- The layer of the environment: every variable is a text. -/
def ofEnvironment (vars : List (String × String)) : Layer :=
  vars.map fun (name, value) =>
    let key := dotted (Text.lowercase name).toList
    .value (pathOf (String.ofList key)) (some .environment) (.text value)

end Gatehouse.Config
