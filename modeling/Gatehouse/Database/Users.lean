/-
  Gatehouse — the table of accounts.

  Each call to the store of accounts is one statement (`UserCall.statement`) whose reply
  is read back as the answer (`UserCall.interpret`). A stored record is checked like an
  entered one; a record that fails the check is an outage of the store, not a missing
  record.
-/
import Gatehouse.Database.Statement
import Gatehouse.Store.Users

namespace Gatehouse.Database

/-- A failure of the database as the service sees it. -/
def Failure.toStoreError (f : Failure) : StoreError := .unavailable f.message

namespace UserTable

/-- The name of the table. -/
def name : String := "users"

/-- The constraint that keeps addresses apart. -/
def emailConstraint : String := "users_email_key"

/-- The columns in the order in which they are written and read. -/
def columns : List String :=
  ["id", "email", "user_name", "password_hash", "first_name", "last_name", "is_active",
    "email_verified", "credential_version", "created_at", "updated_at"]

/-- The identifier of a record, as a cell. -/
def key (id : UserId) : Cell := ⟨"id", .text id.text⟩

/-- An address, as a cell. -/
def emailCell (email : EmailAddress) : Cell := ⟨"email", .text email.text⟩

/-- The cells that may change, up to the time of the change. -/
def body (u : User) : Row :=
  [emailCell u.email, ⟨"user_name", .text u.name.text⟩, ⟨"password_hash", .text u.passwordHash⟩,
    ⟨"first_name", .text u.firstName⟩, ⟨"last_name", .text u.lastName⟩,
    ⟨"is_active", .bool u.isActive⟩, ⟨"email_verified", .bool u.emailVerified⟩,
    ⟨"credential_version", .int u.credentialVersion⟩]

/-- The time of the last change, as a cell. -/
def updatedCell (u : User) : Cell := ⟨"updated_at", .ofInstant u.updatedAt⟩

/-- The cells of a new record. -/
def newRow (u : User) : Row :=
  key u.id :: body u ++ [⟨"created_at", .ofInstant u.createdAt⟩, updatedCell u]

/-- The cells that an update sets. -/
def changedRow (u : User) : Row := body u ++ [updatedCell u]

/-- A record whose address or name is not valid. -/
def invalid (id what reason : String) : StoreError :=
  .unavailable ("Stored user " ++ id ++ " has invalid " ++ what ++ ": " ++ reason)

/-- A record whose columns are all read, before its address and name are checked. -/
structure Draft where
  id : String
  email : String
  name : String
  passwordHash : String
  firstName : String
  lastName : String
  isActive : Bool
  emailVerified : Bool
  credentialVersion : Int
  createdAt : Instant
  updatedAt : Instant

/-- Read all columns. -/
def draft (r : Row) : Except Failure Draft := do
  return { id := ← Row.text r "id", email := ← Row.text r "email",
           name := ← Row.text r "user_name", passwordHash := ← Row.text r "password_hash",
           firstName := ← Row.text r "first_name", lastName := ← Row.text r "last_name",
           isActive := ← Row.bool r "is_active", emailVerified := ← Row.bool r "email_verified",
           credentialVersion := ← Row.int r "credential_version",
           createdAt := ← Row.instant r "created_at", updatedAt := ← Row.instant r "updated_at" }

/-- Check the address and the name. -/
def Draft.finish (d : Draft) : Except StoreError User := do
  let email ← (EmailAddress.ofText d.email).mapError fun e => invalid d.id "email" e.message
  let name ← (Username.ofText d.name).mapError fun e => invalid d.id "user name" e.message
  return { id := ⟨d.id⟩, email, name, passwordHash := d.passwordHash, firstName := d.firstName,
           lastName := d.lastName, isActive := d.isActive, emailVerified := d.emailVerified,
           credentialVersion := d.credentialVersion, createdAt := d.createdAt,
           updatedAt := d.updatedAt }

/-- Read a record. -/
def ofRow (r : Row) : Except StoreError User := do
  let d ← (draft r).mapError Failure.toStoreError
  d.finish

/-- Read the first row, if there is one. -/
def ofRows : List Row → Except StoreError (Option User)
  | [] => .ok none
  | r :: _ => (ofRow r).map some

end UserTable

end Gatehouse.Database

namespace Gatehouse.UserCall

open Database

/-- The statement of a call. -/
def statement : UserCall → Statement
  | create u => .insert UserTable.name (UserTable.newRow u)
  | findById id => .select UserTable.name UserTable.columns (UserTable.key id)
  | findByEmail email => .select UserTable.name UserTable.columns (UserTable.emailCell email)
  | existsByEmail email => .contains UserTable.name (UserTable.emailCell email)
  | update u => .update UserTable.name (UserTable.key u.id) (UserTable.changedRow u)

/-- What a duplicate in a new record is a conflict about. -/
def conflictOf (u : User) (f : Failure) : StoreError :=
  if f.constraint? = some UserTable.emailConstraint then .conflict u.email.text
  else .conflict u.id.text

/-- What a failure means for a call. -/
def failed : UserCall → Failure → StoreError
  | create u, f => if f.isDuplicate then conflictOf u f else f.toStoreError
  | update u, f => if f.isDuplicate then .conflict u.email.text else f.toStoreError
  | _, f => f.toStoreError

/-- What a reply means for a call. -/
def answer : (c : UserCall) → Reply → Except StoreError c.Answer
  | create u, _ => .ok u
  | findById _, r => UserTable.ofRows r.rows
  | findByEmail _, r => UserTable.ofRows r.rows
  | existsByEmail _, r => r.scalar.mapError Failure.toStoreError
  | update u, r => if r.affected = 0 then .error (.notFound u.id.text) else .ok u

/-- The answer to a call, from what the database made of its statement. -/
def interpret (c : UserCall) : Except Failure Reply → Except StoreError c.Answer
  | .ok r => c.answer r
  | .error f => .error (c.failed f)

end Gatehouse.UserCall
