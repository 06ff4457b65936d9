/-
  Gatehouse — answers.

  What a request comes to, as a status and a JSON body `status_code`, `data`. A refusal
  says no more than the client may know: an unknown account is answered like a wrong
  password, all unusable tokens alike, and outages without their reasons, which go to the
  log (`refusalEvent?`).
-/
import Gatehouse.Http.Message
import Gatehouse.Json.Write
import Gatehouse.Service.Operations

namespace Gatehouse.Http

/-! ## Bodies -/

/-- The header of a JSON body. -/
def jsonType : Header := ⟨"content-type", "application/json"⟩

/-- The header of a plain text. -/
def plainType : Header := ⟨"content-type", "text/plain; charset=utf-8"⟩

/-- The document that wraps every answer. -/
def wrap (status : Nat) (data : Json.Doc) : Json.Doc :=
  .object [("status_code", .int status), ("data", data)]

/-- A response with a JSON body. -/
def jsonResponse (status : Nat) (data : Json.Doc) : Response :=
  { status, headers := [jsonType], body := (wrap status data).render }

/-- A response with a plain text. -/
def plainResponse (status : Nat) (text : String) : Response :=
  { status, headers := [plainType], body := text }

/-- A response without a body. -/
def emptyResponse (status : Nat) : Response := { status, headers := [], body := "" }

/-! ## Successes -/

/-- A success with its data. -/
structure Success (α : Type) where
  status : Nat
  data : α
deriving DecidableEq, Repr

/-- A plain acknowledgement. -/
structure Notice where
  message : String
deriving DecidableEq, Repr

def Notice.doc (n : Notice) : Json.Doc := .object [("message", .text n.message)]

/-- The response of a success. -/
def Success.response {α : Type} (doc : α → Json.Doc) (s : Success α) : Response :=
  jsonResponse s.status (doc s.data)

/-- What a client sees of an account. -/
def profileDoc (p : Profile) : Json.Doc :=
  .object [("id", .text p.id.text), ("email", .text p.email.text),
    ("user_name", .text p.name.text), ("first_name", .text p.firstName),
    ("last_name", .text p.lastName), ("is_active", .bool p.isActive),
    ("email_verified", .bool p.emailVerified), ("created_at", .text p.createdAt.text)]

/-- The members for a pair of tokens. -/
def pairMembers (t : TokenPair) : List (String × Json.Doc) :=
  [("access_token", .text t.access.token), ("refresh_token", .text t.refreshSecret),
    ("token_type", .text "Bearer"), ("expires_in", .int Jwt.lifetimeSeconds),
    ("access_expires_at", .text t.access.expiresAt.text),
    ("refresh_expires_at", .text t.refreshExpiresAt.text)]

/-- What a client gets for a refresh token. -/
def pairDoc (t : TokenPair) : Json.Doc := .object (pairMembers t)

/-- What a client gets for logging in. -/
def loginDoc (l : Login) : Json.Doc :=
  .object (("user", profileDoc l.profile) :: pairMembers l.tokens)

/-- What a client sees of its own access token. -/
def identityDoc (i : Jwt.Identity) : Json.Doc :=
  .object [("user_id", .text i.userId), ("email", .text i.email),
    ("user_name", .text i.userName), ("expires_at", .text i.expiresAt.text)]

/-! ## Refusals -/

/-- A refusal, with what the client is told. -/
inductive Refusal
  | internal (message : String)
  | unavailable (message : String)
  | unprocessable (message : String) (fields : FieldErrors)
  | badRequest (message : String)
  | conflict (message : String)
  | unauthorized (message : String)
  | forbidden (message : String)
  | tooMany (message : String)
deriving DecidableEq, Repr

namespace Refusal

def status : Refusal → Nat
  | internal _ => 500
  | unavailable _ => 503
  | unprocessable .. => 422
  | badRequest _ => 400
  | conflict _ => 409
  | unauthorized _ => 401
  | forbidden _ => 403
  | tooMany _ => 429

def message : Refusal → String
  | internal m | unavailable m | unprocessable m _ | badRequest m | conflict m | unauthorized m
  | forbidden m | tooMany m => m

/-- The rejected fields. -/
def fields : Refusal → FieldErrors
  | unprocessable _ fs => fs
  | _ => []

/-- The data of a refusal; no member for fields if there are none. -/
def doc (r : Refusal) : Json.Doc :=
  .object <| ("message", .text r.message) ::
    if r.fields.isEmpty then []
    else [("fields", .list (r.fields.map fun e =>
      .object [("field", .text e.field), ("message", .text e.message)]))]

def response (r : Refusal) : Response := jsonResponse r.status r.doc

/-- The refusal for a failed operation. -/
def ofAuth : AuthError → Refusal
  | .invalidCredentials | .userNotFound _ => .unauthorized AuthError.invalidCredentials.message
  | .invalidToken | .tokenExpired | .tokenRevoked | .invalidSignature | .invalidIssuer
  | .invalidAudience => .unauthorized "Invalid or expired token"
  | .accountDeactivated => .forbidden AuthError.accountDeactivated.message
  | .emailTaken => .conflict AuthError.emailTaken.message
  | .weakPassword reason =>
    .unprocessable (AuthError.weakPassword reason).message [⟨"password", reason⟩]
  | .validationFailed fields => .unprocessable "Validation failed" fields
  | .storageUnavailable _ => .unavailable "Service temporarily unavailable"
  | .internal _ => .internal "Internal server error"

/-- What the log gets to know of a failed operation, where the client is told less. -/
def event? : AuthError → Option Event
  | .invalidToken => some (.tokenRejected .invalidToken)
  | .tokenExpired => some (.tokenRejected .tokenExpired)
  | .tokenRevoked => some (.tokenRejected .tokenRevoked)
  | .invalidSignature => some (.tokenRejected .invalidSignature)
  | .invalidIssuer => some (.tokenRejected .invalidIssuer)
  | .invalidAudience => some (.tokenRejected .invalidAudience)
  | .storageUnavailable reason => some (.storageFailed reason)
  | .internal reason => some (.internalFailed reason)
  | _ => none

end Refusal

end Gatehouse.Http
