/-
  Gatehouse — reading the configuration.

  `Config.load` lays four layers over each other: the built-in values, `default.toml`, the
  file of the mode that the server runs in, and the environment. What they say together must
  give every setting a value of its type.
-/
import Gatehouse.Config
import Gatehouse.Config.Layer
import Gatehouse.Config.Section

namespace Gatehouse.Config

/-! ## Sections -/

/-- The forms of the sections. -/
def databaseForm : Form := ⟨"database", "DatabaseConfig", ["url", "max_connections"]⟩
def serverForm : Form := ⟨"server", "ServerConfig", ["http_port"]⟩
def jwtForm : Form := ⟨"jwt", "JwtConfig", ["secret", "issuer", "audience"]⟩
def sessionForm : Form :=
  ⟨"session", "SessionConfig",
    ["rotate_refresh_tokens", "storage_timeout_secs", "email_timeout_secs"]⟩
def sweeperForm : Form := ⟨"sweeper", "SweeperConfig", ["interval_secs", "timeout_secs"]⟩
def rateLimitForm : Form := ⟨"rate_limit", "RateLimitConfig", ["max_attempts", "window_secs"]⟩
def emailForm : Form := ⟨"email", "EmailConfig", ["from"]⟩

def readDatabase (s : Section) : Except Error DatabaseConfig := do
  let url ← s.setting? "url" Cell.text
  let connections ← s.setting? "max_connections" (Cell.sized 32)
  return ⟨← required "url" url, ← required "max_connections" connections⟩

def readServer (s : Section) : Except Error ServerConfig := do
  let port ← s.setting? "http_port" (Cell.sized 16)
  return ⟨← required "http_port" port⟩

def readJwt (s : Section) : Except Error JwtConfig := do
  let secret ← s.setting? "secret" Cell.text
  let issuer ← s.setting? "issuer" Cell.text
  let audience ← s.setting? "audience" Cell.text
  return ⟨← required "secret" secret, ← required "issuer" issuer, ← required "audience" audience⟩

def readSession (s : Section) : Except Error SessionConfig := do
  let rotates ← s.setting? "rotate_refresh_tokens" Cell.truth
  let storage ← s.setting? "storage_timeout_secs" (Cell.sized 64)
  let mail ← s.setting? "email_timeout_secs" (Cell.sized 64)
  return ⟨← required "rotate_refresh_tokens" rotates, ← required "storage_timeout_secs" storage,
    ← required "email_timeout_secs" mail⟩

def readSweeper (s : Section) : Except Error SweeperConfig := do
  let interval ← s.setting? "interval_secs" (Cell.sized 64)
  let limit ← s.setting? "timeout_secs" (Cell.sized 64)
  return ⟨← required "interval_secs" interval, ← required "timeout_secs" limit⟩

def readRateLimit (s : Section) : Except Error RateLimitConfig := do
  let attempts ← s.setting? "max_attempts" (Cell.sized 64)
  let window ← s.setting? "window_secs" (Cell.sized 64)
  return ⟨← required "max_attempts" attempts, ← required "window_secs" window⟩

def readEmail (s : Section) : Except Error EmailConfig := do
  let sender ← s.setting? "from" Cell.text
  return ⟨← required "from" sender⟩

/-- The configuration that a tree says. -/
def ofTree (t : Option Tree) : Except Error Config := do
  let root := Tree.children t
  let database ← section? databaseForm readDatabase root
  let server ← section? serverForm readServer root
  let jwt ← section? jwtForm readJwt root
  let session ← section? sessionForm readSession root
  let sweeper ← section? sweeperForm readSweeper root
  let rateLimit ← section? rateLimitForm readRateLimit root
  let email ← section? emailForm readEmail root
  return {
    database := ← required "database" database
    server := ← required "server" server
    jwt := ← required "jwt" jwt
    session := ← required "session" session
    sweeper := ← required "sweeper" sweeper
    rateLimit := ← required "rate_limit" rateLimit
    email := ← required "email" email }

/-! ## Layers -/

/-- The built-in values. -/
def builtIn : Layer :=
  [.value ["database", "max_connections"] none (.integer 5),
   .value ["session", "rotate_refresh_tokens"] none (.bool true),
   .value ["session", "storage_timeout_secs"] none (.integer 5),
   .value ["session", "email_timeout_secs"] none (.integer 5),
   .value ["sweeper", "interval_secs"] none (.integer 300),
   .value ["sweeper", "timeout_secs"] none (.integer 10),
   .value ["rate_limit", "max_attempts"] none (.integer 100),
   .value ["rate_limit", "window_secs"] none (.integer 3600),
   .value ["email", "from"] none (.text "no-reply@localhost")]

/-- The directory of the configuration's files, given by their names in it. -/
abbrev Files := String → Option String

/-- The file that goes by a name: the one of just this name if there is one, else the one with
    the ending for TOML. Only a TOML file counts, and what names a directory finds none. -/
def findFile (files : Files) (name : String) : Option (String × String) :=
  let full := name ++ ".toml"
  if name ∈ ["", ".", ".."] then none
  else match files name with
    | some content => if name.endsWith ".toml" then some (name, content) else none
    | none => (files full).map fun content => (full, content)

/-- The layer of the file that goes by a name; empty if there is none. -/
def fileLayer (files : Files) (name : String) : Except Error Layer :=
  match findFile files name with
  | some (file, content) => ofFile ("config/" ++ file) content
  | none => .ok []

/-- The mode that the server runs in. -/
def runMode (vars : List (String × String)) : String :=
  (vars.lookup "RUN_MODE").getD "development"

/-- The configuration that the files and the environment say. -/
def load (files : Files) (vars : List (String × String)) : Except Error Config := do
  let defaults ← fileLayer files "default"
  let mode ← fileLayer files (runMode vars)
  ofTree (Layer.apply (builtIn ++ defaults ++ mode ++ ofEnvironment vars) none)

end Gatehouse.Config
