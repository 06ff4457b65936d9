/-
  Gatehouse — request bodies.

  A body is announced as JSON, is of limited size, and holds a record. `readBody` checks
  that in this order; a rejection is answered with a plain text. A registration may leave
  out any field, so that it is reported with the others.
-/
import Gatehouse.Account.Registration
import Gatehouse.Http.Answer
import Gatehouse.Http.MediaType
import Gatehouse.Json.Record

namespace Gatehouse.Http

/-- The most bytes of a body. -/
def bodyLimit : Nat := 2097152

/-- Why a body was not read. -/
inductive Rejection
  | notJson
  | tooLarge
  | badJson (error : Json.Error) (input : List UInt8)

/-- The place of an error in the body, and the error. -/
def located (e : Json.Error) (input : List UInt8) : String :=
  (if e.path.isEmpty then "" else String.join e.path ++ ": ") ++ e.text input

/-- The response to a body that was not read. -/
def Rejection.response : Rejection → Response
  | notJson => plainResponse 415 "Expected request with \x60Content-Type: application/json\x60"
  | tooLarge => plainResponse 413 "Failed to buffer the request body: length limit exceeded"
  | badJson e input =>
    if e.fault.isData then
      plainResponse 422
        ("Failed to deserialize the JSON body into the target type: " ++ located e input)
    else plainResponse 400 ("Failed to parse the request body as JSON: " ++ located e input)

/-- Read the body of a request. What follows the record in the body is not looked at. -/
def readBody {α : Type} (read : Json.Reader α) (r : Request) : Except Rejection α :=
  if !(header? r.headers "content-type").any MediaType.isJson then .error .notJson
  else if bodyLimit < r.body.length then .error .tooLarge
  else (Json.readFront read r.body).mapError fun e => .badJson e r.body

/-! ## Records -/

/-- A text while it is read, and a second one. -/
structure TwoTexts where
  first : Option String := none
  second : Option String := none

/-- A record of one text. -/
def oneText (title name : String) : Json.Record (Option String) String where
  title
  start := none
  fields := [.of name id (fun _ a => some a) Json.readText none]
  finish := Json.required name

/-- A record of two texts. -/
def twoTexts (title first second : String) : Json.Record TwoTexts (String × String) where
  title
  start := {}
  fields :=
    [.of first TwoTexts.first (fun d a => { d with first := some a }) Json.readText none,
     .of second TwoTexts.second (fun d a => { d with second := some a }) Json.readText none]
  finish := fun d => do
    return (← Json.required first d.first, ← Json.required second d.second)

/-- An address and a password. -/
def loginRecord := twoTexts "LoginRequest" "email" "password"

/-- The old password and the new one. -/
def passwordRecord := twoTexts "ChangePasswordRequest" "old_password" "new_password"

/-- A refresh token. -/
def refreshRecord := oneText "RefreshRequest" "refresh_token"

/-- The refresh token that is to end. -/
def logoutRecord := oneText "LogoutRequest" "refresh_token"

/-- A verification token. -/
def verifyRecord := oneText "VerifyEmailRequest" "token"

/-- The address that waits for a link. -/
def resendRecord := oneText "ResendVerificationRequest" "email"

/-- A registration form while it is read. -/
structure FormDraft where
  email : Option String := none
  userName : Option String := none
  password : Option String := none
  confirmation : Option String := none
  firstName : Option String := none
  lastName : Option String := none

/-- A registration form; what is left out is empty. -/
def formRecord : Json.Record FormDraft Registration.Form where
  title := "RegisterRequest"
  start := {}
  fields :=
    [.of "email" FormDraft.email (fun d a => { d with email := some a }) Json.readText (some ""),
     .of "user_name" FormDraft.userName (fun d a => { d with userName := some a }) Json.readText
       (some ""),
     .of "password" FormDraft.password (fun d a => { d with password := some a }) Json.readText
       (some ""),
     .of "confirm_password" FormDraft.confirmation (fun d a => { d with confirmation := some a })
       Json.readText (some ""),
     .of "first_name" FormDraft.firstName (fun d a => { d with firstName := some a })
       Json.readText (some ""),
     .of "last_name" FormDraft.lastName (fun d a => { d with lastName := some a }) Json.readText
       (some "")]
  finish := fun d =>
    .ok { email := d.email.getD "", userName := d.userName.getD "",
          password := d.password.getD "", confirmation := d.confirmation.getD "",
          firstName := d.firstName.getD "", lastName := d.lastName.getD "" }

end Gatehouse.Http
