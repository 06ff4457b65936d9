/-
  Gatehouse — the program.

  It reads the directory `config` and the variables of its environment, and reports on the
  standard error what keeps the server from starting; then it ends with a failure. It ends
  without a word if the server can go on to open its database.
-/
import Gatehouse.Launch

namespace Gatehouse

/-- The content of a file of text, if it can be read. -/
def contentOf (path : String) : IO (Option String) := do
  try return some (← IO.FS.readFile path)
  catch _ => return none

/-- The variables of the environment: names with values, each ended by a null byte. -/
def environment : IO (List (String × String)) := do
  let text := (← contentOf "/proc/self/environ").getD ""
  return (Text.pieces '\x00' text.toList).filterMap fun cs =>
    (Text.splitFirst '=' cs).map fun (name, value) => (String.ofList name, String.ofList value)

/-- The files by the names that may be asked for in a mode. -/
def filesFor (mode : String) : IO Config.Files := do
  let names := ["default", "default.toml", mode, mode ++ ".toml"]
  let found ← names.filterMapM fun name => do
    return (← contentOf ("config/" ++ name)).map fun content => (name, content)
  return fun name => found.lookup name

end Gatehouse

open Gatehouse in
/-- Report what keeps the server from starting, if anything does. -/
def main : IO UInt32 := do
  let vars ← environment
  let files ← filesFor (Config.runMode vars)
  match Launch.check files vars with
  | .ok _ => return 0
  | .error report =>
    (← IO.getStderr).putStr report.print
    return 1
