/-
  Gatehouse — registration forms.

  `Form.validate` checks the fields of a form together, so that a client can show all
  complaints at once; the strength of the password is judged only when the fields are
  clean.
-/
import Gatehouse.Account.Email
import Gatehouse.Account.Password
import Gatehouse.Account.Username
import Gatehouse.Error
import Gatehouse.Text.Blank

namespace Gatehouse.Registration

/-- What someone enters to open an account. -/
structure Form where
  email : String
  userName : String
  password : String
  confirmation : String
  firstName : String
  lastName : String
deriving DecidableEq, Repr

/-- What a form is worth once it is accepted. -/
structure Accepted where
  email : EmailAddress
  name : Username

namespace Form

/-- The address, or what is wrong with it. -/
def checkEmail (f : Form) : Except String EmailAddress :=
  if Text.isBlankText f.email then .error "email is required"
  else (EmailAddress.ofText f.email).mapError EmailError.message

/-- The user name without blanks at its ends, or what is wrong with it. -/
def checkName (f : Form) : Except String Username :=
  if Text.isBlankText f.userName then .error "user name is required"
  else (Username.ofText (Text.trim f.userName)).mapError UsernameError.message

/-- A password is given. -/
def checkPassword (f : Form) : Except String Unit :=
  if Text.isBlankText f.password then .error "password is required" else .ok ()

/-- The password was entered twice alike. -/
def checkConfirmation (f : Form) : Except String Unit :=
  if f.password = f.confirmation then .ok () else .error "passwords do not match"

/-- The complaint about a field, if it was refused. -/
def complaint {α : Type} (field : String) : Except String α → Option FieldError
  | .ok _ => none
  | .error message => some ⟨field, message⟩

/-- The complaints about all fields, in the order of the form. -/
def complaints (f : Form) : FieldErrors :=
  [complaint "email" f.checkEmail, complaint "user_name" f.checkName,
    complaint "password" f.checkPassword,
    complaint "confirm_password" f.checkConfirmation].filterMap id

/-- Accept a form without complaints and with a strong password. -/
def validate (f : Form) : Except AuthError Accepted :=
  match f.checkEmail, f.checkName with
  | .ok email, .ok name =>
    if f.complaints.isEmpty then
      match Password.weakness? f.password with
      | none => .ok ⟨email, name⟩
      | some w => .error (.weakPassword w.message)
    else .error (.validationFailed f.complaints)
  | _, _ => .error (.validationFailed f.complaints)

end Form

end Gatehouse.Registration
