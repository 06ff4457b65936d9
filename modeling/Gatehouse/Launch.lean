/-
  Gatehouse — starting the server.

  The server starts with a configuration that can be read, a signing secret that is long
  enough, and a database it can try to reach. `Launch.check` gives that configuration, or a
  report of the first thing that is in the way.
-/
import Gatehouse.Config.Load
import Gatehouse.Database.Location
import Gatehouse.Jwt.Signer

namespace Gatehouse.Launch

/-- An error with what caused it, the nearest cause first. -/
structure Report where
  text : String
  causes : List String
deriving DecidableEq, Repr

/-- The causes under their heading; several are numbered. -/
def causesText : List String → String
  | [] => ""
  | [cause] => "\nCaused by:\n    " ++ cause ++ "\n"
  | causes =>
    "\nCaused by:\n" ++ String.join (causes.zipIdx.map fun (cause, i) =>
      "    " ++ Text.decimal i ++ ": " ++ cause ++ "\n")

/-- The report as it is printed. -/
def Report.print (r : Report) : String := "Error: " ++ r.text ++ "\n" ++ causesText r.causes

/-- A fault of the configuration of the database. -/
def databaseMessage (reason : String) : String := "error with configuration: " ++ reason

/-- The report of a database that cannot be tried. A bad way to protect the connection is told
    by the configuration of the connection, and that by the one of the database. -/
def databaseReport (f : Location.Fault) : Report :=
  match f with
  | .badMode _ =>
    let inner := databaseMessage f.message
    ⟨databaseMessage inner, [inner, f.message]⟩
  | _ => ⟨databaseMessage f.message, [f.message]⟩

/-- The report of a signing secret that is too short. -/
def secretReport (bytes : Nat) : Report :=
  ⟨"jwt.secret must be at least " ++ Text.decimal Jwt.leastSecret ++ " bytes, got "
    ++ Text.decimal bytes, []⟩

/-- The configuration to start with, or why the server does not start. -/
def check (files : Config.Files) (vars : List (String × String)) : Except Report Config :=
  match Config.load files vars with
  | .error e => .error ⟨e.message, []⟩
  | .ok config =>
    let bytes := config.jwt.secret.utf8ByteSize
    if bytes < Jwt.leastSecret then .error (secretReport bytes)
    else match Location.fault? config.database.url with
      | some f => .error (databaseReport f)
      | none => .ok config

end Gatehouse.Launch
