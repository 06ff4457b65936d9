import Gatehouse.Account.Digest
import Gatehouse.Account.Email
import Gatehouse.Account.EmailGrammar
import Gatehouse.Account.Password
import Gatehouse.Account.Registration
import Gatehouse.Account.User
import Gatehouse.Account.Username
import Gatehouse.Config
import Gatehouse.Config.Convert
import Gatehouse.Config.Error
import Gatehouse.Config.Layer
import Gatehouse.Config.Load
import Gatehouse.Config.Section
import Gatehouse.Config.Tree
import Gatehouse.Database.Location
import Gatehouse.Database.Statement
import Gatehouse.Database.Tokens
import Gatehouse.Database.Users
import Gatehouse.Error
import Gatehouse.Hash.Argon2
import Gatehouse.Hash.Blake2b
import Gatehouse.Hash.Sha256
import Gatehouse.Hash.Words
import Gatehouse.Http.Address
import Gatehouse.Http.Answer
import Gatehouse.Http.Body
import Gatehouse.Http.Limiter
import Gatehouse.Http.MediaType
import Gatehouse.Http.Message
import Gatehouse.Http.Router
import Gatehouse.Json.Cursor
import Gatehouse.Json.Error
import Gatehouse.Json.Read
import Gatehouse.Json.Record
import Gatehouse.Json.Scan
import Gatehouse.Json.Write
import Gatehouse.Jwt.Claims
import Gatehouse.Jwt.Header
import Gatehouse.Jwt.Signer
import Gatehouse.Launch
import Gatehouse.Main
import Gatehouse.Number.Nearest
import Gatehouse.Number.Shortest
import Gatehouse.Service.Event
import Gatehouse.Service.Flow
import Gatehouse.Service.Operations
import Gatehouse.Service.Sweeper
import Gatehouse.Session.OpaqueToken
import Gatehouse.Session.Token
import Gatehouse.Store.Tokens
import Gatehouse.Store.Users
import Gatehouse.Text.Alphanumeric
import Gatehouse.Text.Base64
import Gatehouse.Text.Blank
import Gatehouse.Text.Decimal
import Gatehouse.Text.Hex
import Gatehouse.Text.LetterCase
import Gatehouse.Text.Lowercase
import Gatehouse.Text.Quoted
import Gatehouse.Text.Ranges
import Gatehouse.Text.Split
import Gatehouse.Text.Utf8
import Gatehouse.Time.Calendar
import Gatehouse.Time.Instant
import Gatehouse.Time.Span
import Gatehouse.Toml.Moment
import Gatehouse.Toml.Number
import Gatehouse.Toml.Read
import Gatehouse.Toml.Scan
import Gatehouse.Toml.Value
import Gatehouse.Trial.Sweeping
import Gatehouse.Trial.World
import Gatehouse.Proofs.Exchange
import Gatehouse.Proofs.System
import Gatehouse.Proofs.Conduct
import Gatehouse.Proofs.Effects
import Gatehouse.Proofs.Records
import Gatehouse.Proofs.Rehearsal
import Gatehouse.Proofs.Secrets
import Gatehouse.Proofs.Redemption
import Gatehouse.Proofs.Family
import Gatehouse.Proofs.PasswordChange
import Gatehouse.Proofs.Sequence
import Gatehouse.Proofs.Calm
import Gatehouse.Proofs.Deeds
import Gatehouse.Proofs.Lifetime
import Gatehouse.Proofs.Accounts
import Gatehouse.Proofs.Confirmation
import Gatehouse.Proofs.Sessions
import Gatehouse.Proofs.Staleness
import Gatehouse.Proofs.Pairing
import Gatehouse.Proofs.Sweeps
import Gatehouse.Proofs.Failures
import Gatehouse.Proofs.Retries
import Gatehouse.Proofs.Outages
import Gatehouse.Proofs.Normalization
import Gatehouse.Proofs.DataModel
import Gatehouse.Proofs.Enrollment
import Gatehouse.Proofs.Encoding
import Gatehouse.Proofs.JsonText
import Gatehouse.Proofs.JsonNumbers
import Gatehouse.Proofs.JsonValues
import Gatehouse.Proofs.JsonRecords
import Gatehouse.Proofs.AccessTokens
import Gatehouse.Proofs.JsonQuotes
import Gatehouse.Proofs.Resumption
import Gatehouse.Proofs.JsonObjects
import Gatehouse.Proofs.JsonReadings
import Gatehouse.Proofs.Acceptance
import Gatehouse.Proofs.Window
import Gatehouse.Proofs.Handling
import Gatehouse.Proofs.Budget
import Gatehouse.Proofs.Bearer
import Gatehouse.Proofs.FailedLogins
import Gatehouse.Proofs.Rows
import Gatehouse.Proofs.Lockstep
import Gatehouse.Proofs.JsonFaults
import Gatehouse.Proofs.Likeness
import Gatehouse.Proofs.Causes
import Gatehouse.Proofs.Resending
import Gatehouse.Proofs.Renaming
import Gatehouse.Proofs.Disguise
import Gatehouse.Proofs.Bodies
import Gatehouse.Proofs.Discretion
import Gatehouse.Proofs.TokenBook
import Gatehouse.Proofs.Expiry
import Gatehouse.Proofs.Logout
import Gatehouse.Proofs.Aftermath
import Gatehouse.Proofs.Directory
import Gatehouse.Proofs.Complaints
import Gatehouse.Proofs.Shutdown
import Gatehouse.Proofs.Digests
import Gatehouse.Proofs.OpaqueTokens
import Gatehouse.Proofs.Spelling
import Gatehouse.Proofs.Documents
import Gatehouse.Proofs.Layers
import Gatehouse.Proofs.Settings
import Gatehouse.Proofs.Precedence
