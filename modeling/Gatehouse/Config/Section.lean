/-
  Gatehouse — the sections of a configuration.

  A section names its settings, or lists them in their order. What a setting's value lacks
  is told before a setting without a value, and both before a section that is not there.
-/
import Gatehouse.Config.Convert

namespace Gatehouse.Config

/-- What a section holds. -/
inductive Content
  | named (children : List (String × Tree))
  | listed (origin : Option Origin) (items : List Toml.Value)

/-- The form of a section: its name, the name of its type, and the names of its settings. -/
structure Form where
  name : String
  type : String
  settings : List String
deriving DecidableEq, Repr

/-- A section of a form. -/
structure Section where
  form : Form
  content : Content

/-- The type's error, told of a setting. -/
def located (key : String) : Except Mismatch α → Except Error α
  | .ok a => .ok a
  | .error m => .error (.mismatch m key)

namespace Section

/-- The value of a setting, if it has one. A list must have one at the setting's place. -/
def setting? (s : Section) (name : String) (convert : Cell → Except Mismatch α) :
    Except Error (Option α) :=
  match s.content with
  | .named children =>
    match children.lookup name with
    | none => .ok none
    | some t => (located (s.form.name ++ "." ++ name) (convert (.ofTree t))).map some
  | .listed origin items =>
    let place := s.form.settings.idxOf name
    match items[place]? with
    | none => .error (.short place s.form.type s.form.settings.length)
    | some v =>
      (located (s.form.name ++ "[" ++ Text.decimal place ++ "]") (convert ⟨origin, v⟩)).map some

end Section

/-- The value, which must be there. -/
def required (name : String) : Option α → Except Error α
  | some a => .ok a
  | none => .error (.missing name)

/-- Read the section of a form, if it is there. -/
def section? (form : Form) (read : Section → Except Error α) (root : List (String × Tree)) :
    Except Error (Option α) :=
  match root.lookup form.name with
  | none => .ok none
  | some (.branch children) => (read ⟨form, .named children⟩).map some
  | some (.leaf origin (.array _ items)) => (read ⟨form, .listed origin items⟩).map some
  | some (.leaf _ v) => .error (.noSection (foundIn v) form.type)

end Gatehouse.Config
