/-
  Gatehouse — the table of tokens.

  Each call to the store of tokens is one statement (`TokenCall.statement`) whose reply is
  read back as the answer (`TokenCall.interpret`). One statement is one atomic step of the
  database, so that concurrent calls for one token settle one after the other.
-/
import Gatehouse.Database.Users
import Gatehouse.Store.Tokens

namespace Gatehouse.Database.TokenTable

/-- The name of the table. -/
def name : String := "auth_tokens"

/-- The columns in the order in which they are written and read. -/
def columns : List String :=
  ["id", "user_id", "token", "kind", "expires_at", "blacklisted", "credential_version",
    "created_at"]

/-- A secret, as a cell. -/
def secretCell (secret : String) : Cell := ⟨"token", .text secret⟩

/-- An owner, as a cell. -/
def ownerCell (id : UserId) : Cell := ⟨"user_id", .text id.text⟩

/-- The cells of a new token. -/
def newRow (t : Token) : Row :=
  [⟨"id", .text t.id⟩, ownerCell t.userId, secretCell t.secret, ⟨"kind", .text t.kind.word⟩,
    ⟨"expires_at", .ofInstant t.expiresAt⟩, ⟨"blacklisted", .bool t.revoked⟩,
    ⟨"credential_version", .int t.credentialVersion⟩, ⟨"created_at", .ofInstant t.createdAt⟩]

/-- A token whose columns are all read, before its kind is checked. -/
structure Draft where
  id : String
  userId : String
  secret : String
  kind : String
  expiresAt : Instant
  revoked : Bool
  credentialVersion : Int
  createdAt : Instant

/-- Read all columns. -/
def draft (r : Row) : Except Failure Draft := do
  return { id := ← Row.text r "id", userId := ← Row.text r "user_id",
           secret := ← Row.text r "token", kind := ← Row.text r "kind",
           expiresAt := ← Row.instant r "expires_at", revoked := ← Row.bool r "blacklisted",
           credentialVersion := ← Row.int r "credential_version",
           createdAt := ← Row.instant r "created_at" }

/-- Check the kind. -/
def Draft.finish (d : Draft) : Except StoreError Token :=
  match TokenKind.ofWord? d.kind with
  | some kind =>
    .ok { id := d.id, userId := ⟨d.userId⟩, secret := d.secret, kind, expiresAt := d.expiresAt,
          revoked := d.revoked, credentialVersion := d.credentialVersion,
          createdAt := d.createdAt }
  | none =>
    .error (.unavailable
      ("Stored token " ++ d.id ++ " is unreadable: " ++ TokenKind.unknown d.kind))

/-- Read a token. -/
def ofRow (r : Row) : Except StoreError Token := do
  let d ← (draft r).mapError Failure.toStoreError
  d.finish

/-- Read the first row, if there is one. -/
def ofRows : List Row → Except StoreError (Option Token)
  | [] => .ok none
  | r :: _ => (ofRow r).map some

end Gatehouse.Database.TokenTable

namespace Gatehouse.TokenCall

open Database

/-- The statement of a call. -/
def statement : TokenCall → Statement
  | create t => .insert TokenTable.name (TokenTable.newRow t)
  | findBySecret secret =>
    .select TokenTable.name TokenTable.columns (TokenTable.secretCell secret)
  | blacklist secret => .mark TokenTable.name "blacklisted" (TokenTable.secretCell secret) false
  | revokeIfActive secret =>
    .mark TokenTable.name "blacklisted" (TokenTable.secretCell secret) true
  | deleteAllForUser id => .delete TokenTable.name (TokenTable.ownerCell id)
  | sweepExpired now => .deleteBelow TokenTable.name ⟨"expires_at", .ofInstant now⟩

/-- What a failure means for a call. -/
def failed : TokenCall → Failure → StoreError
  | create t, f => if f.isDuplicate then .conflict t.id else f.toStoreError
  | _, f => f.toStoreError

/-- What a reply means for a call. -/
def answer : (c : TokenCall) → Reply → Except StoreError c.Answer
  | create _, _ => .ok ()
  | findBySecret _, r => TokenTable.ofRows r.rows
  | blacklist _, _ => .ok ()
  | revokeIfActive _, r => .ok (r.affected == 1)
  | deleteAllForUser _, r => .ok r.affected
  | sweepExpired _, r => .ok r.affected

/-- The answer to a call, from what the database made of its statement. -/
def interpret (c : TokenCall) : Except Failure Reply → Except StoreError c.Answer
  | .ok r => c.answer r
  | .error f => .error (c.failed f)

end Gatehouse.TokenCall
