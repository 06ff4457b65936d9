/-
  Gatehouse — the configuration of the server.

  One structure for each section, and one for all of them. `Config.view` shows a
  configuration without the secret that signs access tokens.
-/
import Gatehouse.Service.Operations

namespace Gatehouse

/-- Where the accounts and tokens are kept. -/
structure DatabaseConfig where
  url : String
  maxConnections : Nat
deriving DecidableEq, Repr

/-- Where the server listens. -/
structure ServerConfig where
  port : Nat
deriving DecidableEq, Repr

/-- How access tokens are signed. -/
structure JwtConfig where
  secret : String
  issuer : String
  audience : String
deriving DecidableEq, Repr

/-- How sessions are kept. -/
structure SessionConfig where
  rotates : Bool
  storageSeconds : Nat
  mailSeconds : Nat
deriving DecidableEq, Repr

/-- How often expired tokens are swept away, and how long that may take. -/
structure SweeperConfig where
  intervalSeconds : Nat
  limitSeconds : Nat
deriving DecidableEq, Repr

/-- How many attempts a caller has in a window of time. -/
structure RateLimitConfig where
  attempts : Nat
  windowSeconds : Nat
deriving DecidableEq, Repr

/-- Whom mails come from. -/
structure EmailConfig where
  sender : String
deriving DecidableEq, Repr

/-- The configuration of the server. -/
structure Config where
  database : DatabaseConfig
  server : ServerConfig
  jwt : JwtConfig
  session : SessionConfig
  sweeper : SweeperConfig
  rateLimit : RateLimitConfig
  email : EmailConfig
deriving DecidableEq, Repr

/-- The settings of the session service. -/
def SessionConfig.settings (c : SessionConfig) : Settings :=
  { rotates := c.rotates, storageLimit := .ofSeconds c.storageSeconds,
    mailLimit := .ofSeconds c.mailSeconds }

namespace Config

/-! ## Diagnostics -/

/-- Named parts between braces, behind the name of a type. -/
def record (type : String) (parts : List (String × String)) : String :=
  type ++ " \x7b " ++ String.intercalate ", " (parts.map fun (name, v) => name ++ ": " ++ v)
    ++ " \x7d"

/-- The configuration for diagnostics, without the signing secret. -/
def view (c : Config) : String :=
  record "Config"
    [("database", record "DatabaseConfig"
        [("url", Text.quote c.database.url),
         ("max_connections", Text.decimal c.database.maxConnections)]),
     ("server", record "ServerConfig" [("http_port", Text.decimal c.server.port)]),
     ("jwt", record "JwtConfig"
        [("secret", Text.quote "<redacted>"), ("issuer", Text.quote c.jwt.issuer),
         ("audience", Text.quote c.jwt.audience)]),
     ("session", record "SessionConfig"
        [("rotate_refresh_tokens", Token.truth c.session.rotates),
         ("storage_timeout_secs", Text.decimal c.session.storageSeconds),
         ("email_timeout_secs", Text.decimal c.session.mailSeconds)]),
     ("sweeper", record "SweeperConfig"
        [("interval_secs", Text.decimal c.sweeper.intervalSeconds),
         ("timeout_secs", Text.decimal c.sweeper.limitSeconds)]),
     ("rate_limit", record "RateLimitConfig"
        [("max_attempts", Text.decimal c.rateLimit.attempts),
         ("window_secs", Text.decimal c.rateLimit.windowSeconds)]),
     ("email", record "EmailConfig" [("from", Text.quote c.email.sender)])]

end Config

end Gatehouse
