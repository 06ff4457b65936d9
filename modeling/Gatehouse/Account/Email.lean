/-
  Gatehouse — e-mail addresses.

  An address is entered in any spelling and kept in one: without blanks at its ends and
  in lower case. Look-ups and the rule "one account per address" compare that form.
  `EmailAddress.ofText` is the only way to an address, and a value of the type carries
  the facts that it checked.
-/
import Gatehouse.Account.EmailGrammar
import Gatehouse.Text.Decimal
import Gatehouse.Text.Lowercase

namespace Gatehouse

/-- Why an entered text is refused as an address. -/
inductive EmailError
  | tooLong (actual : Nat)
  | invalidFormat (fault : AddressFault)
deriving DecidableEq, Repr

namespace EmailAddress

/-- The most bytes of an address. -/
def limit : Nat := 254

/-- The one spelling of an address: trimmed, then in lower case. -/
def normalize (entered : String) : String := Text.lowercase (Text.trim entered)

end EmailAddress

def EmailError.message : EmailError → String
  | .tooLong actual =>
    "Email too long: maximum " ++ Text.decimal EmailAddress.limit ++ " characters, got "
      ++ Text.decimal actual
  | .invalidFormat fault => "Invalid email format: " ++ fault.message

/-- A well-formed address in its one spelling. -/
structure EmailAddress where
  text : String
  entered : ∃ s, EmailAddress.normalize s = text
  fits : text.utf8ByteSize ≤ EmailAddress.limit
  wellFormed : EmailGrammar.check text.toList = .ok ()
deriving DecidableEq

namespace EmailAddress

instance : Repr EmailAddress := ⟨fun e n => reprPrec e.text n⟩

/-- Two addresses are the same if their spellings are. -/
@[ext]
theorem ext {d e : EmailAddress} (h : d.text = e.text) : d = e := by
  cases d; cases e; cases h; rfl

/-- A text in the one spelling as an address. -/
def ofNormal (text : String) (entered : ∃ s, normalize s = text) :
    Except EmailError EmailAddress :=
  if fits : text.utf8ByteSize ≤ limit then
    match wellFormed : EmailGrammar.check text.toList with
    | .ok () => .ok ⟨text, entered, fits, wellFormed⟩
    | .error fault => .error (.invalidFormat fault)
  else .error (.tooLong text.utf8ByteSize)

theorem text_of_ofNormal {t : String} {ht : ∃ s, normalize s = t} {e : EmailAddress}
    (h : ofNormal t ht = .ok e) : e.text = t := by
  unfold ofNormal at h
  split at h
  · split at h
    · cases h; rfl
    · cases h
  · cases h

/-- The address that the entered text stands for. -/
def ofText (entered : String) : Except EmailError EmailAddress :=
  ofNormal (normalize entered) ⟨entered, rfl⟩

/-- An accepted text is kept in its one spelling. -/
theorem text_of_ofText {s : String} {e : EmailAddress} (h : ofText s = .ok e) :
    e.text = normalize s :=
  text_of_ofNormal h

end EmailAddress

end Gatehouse
