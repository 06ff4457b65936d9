/-
  Gatehouse — an address is one key, however it is entered.

  Normalizing is a projection onto the texts that have no blank at an end and no character with a
  lower case of its own (`Text.Normal`). Whoever enters an address reaches what is kept under its
  normal form, and the normal form itself is entered as the same address: by a row that is read,
  by a login, and by the request for another link.

  * `EmailAddress.normalize_eq_self_iff`: the texts that normalizing leaves as they are;
  * `EmailAddress.ofText_normalize`: a text and its normal form are accepted, or refused, alike;
  * `Database.UserTable.email_of_ofRow`: the address of a row is the one whose text it holds;
  * `EmailAddress.normalize_projects`: all of it for one entered text.
-/
import Gatehouse.Proofs.Rows

namespace Gatehouse

/-! ## The one spelling -/

namespace EmailAddress

/-- The texts in the one spelling are those that are their own normal forms. -/
theorem normalize_eq_self_iff {s : String} : normalize s = s ↔ Text.Normal s := by
  constructor
  · intro h
    rw [← h]
    exact normal_normalize s
  · exact normalize_of_normal

/-- A text and its normal form are the same address, or are refused for the same reason. -/
theorem ofText_normalize (s : String) : ofText (normalize s) = ofText s := by
  have hform : ∀ {x y : String} (hx : ∃ s, normalize s = x) (hy : ∃ s, normalize s = y), x = y →
      ofNormal x hx = ofNormal y hy := by
    rintro x _ hx hy rfl
    rfl
  exact hform _ _ (normalize_normalize s)

end EmailAddress

/-! ## Look-ups -/

namespace Service

variable {email email' : String} (h : EmailAddress.ofText email = EmailAddress.ofText email')

include h

theorem findAccount_congr (s : Settings) : findAccount s email = findAccount s email' := by
  rw [findAccount, findAccount, h]

/-- A login does not depend on the spelling of the address. -/
theorem login_congr (s : Settings) (password : String) :
    login s email password = login s email' password := by
  rw [login, login, findAccount_congr h]

/-- Nor does the request for another link. -/
theorem resendVerification_congr (s : Settings) :
    resendVerification s email = resendVerification s email' := by
  rw [resendVerification, resendVerification, h]

end Service

/-! ## Rows -/

namespace Database.UserTable

/-- The address of a row that is read is the one whose text the row holds. -/
theorem email_of_ofRow {r : Row} {u : User} {e : EmailAddress}
    (htext : Row.text r "email" = .ok e.text) (h : ofRow r = .ok u) : u.email = e := by
  cases hd : draft r with
  | error f =>
    unfold ofRow at h
    rw [hd] at h
    cases h
  | ok d =>
    have hemail : d.email = e.text := by
      have hsame := (texts_of_draft hd).1.symm.trans htext
      exact Except.ok.inj hsame
    rw [ofRow_of_draft hd, Draft.finish, hemail, EmailAddress.ofText_text] at h
    cases hname : Username.ofText d.name with
    | error f => rw [hname] at h; cases h
    | ok name => rw [hname] at h; cases h; rfl

end Database.UserTable

/-! ## One key -/

namespace EmailAddress

open Database

/-- **Normalizing is a projection, and an address is one key.** The normal form of a text is its own
    normal form, and the texts with this property are those without a blank at an end whose
    characters rest. The text of an accepted address is therefore entered as that address, so that a
    row in which it was stored is read with it, and a login or a request for another link that
    enters it asks for the same account as one that enters the first text. -/
theorem normalize_projects (s : String) :
    normalize (normalize s) = normalize s ∧
    (normalize s = s ↔ Text.Normal s) ∧
    ∀ e, ofText s = .ok e →
      ofText e.text = .ok e ∧
      (∀ (u : User) (r : Row), u.email = e → r.Extends (UserTable.newRow u) →
        ∃ v, UserTable.ofRow r = .ok v ∧ v.email = e) ∧
      (∀ (u : User) (r : Row), Row.text r "email" = .ok e.text → UserTable.ofRow r = .ok u →
        u.email = e) ∧
      ∀ (c : Settings) (password : String),
        Service.findAccount c e.text = Service.users c (.findByEmail e) ∧
        Service.login c e.text password = Service.login c s password ∧
        Service.resendVerification c e.text = Service.resendVerification c s := by
  refine ⟨normalize_normalize s, normalize_eq_self_iff, fun e he => ?_⟩
  have hsame : ofText e.text = ofText s := by rw [ofText_text, he]
  refine ⟨ofText_text e, fun u r hu hr => ?_, fun u r => UserTable.email_of_ofRow,
    fun c password => ⟨?_, Service.login_congr hsame c password,
      Service.resendVerification_congr hsame c⟩⟩
  · exact ⟨u.cut, UserTable.ofRow_newRow hr, hu⟩
  · rw [Service.findAccount, ofText_text]

/-- Capitals between wide blanks, with a sigma at the end of a word. -/
def capitals : String := "\u3000ΟΔΟΣ@Example.ORG "

theorem normalize_projects_capitals :
    ∃ e : EmailAddress, e.text = "οδος@example.org" ∧ ofText capitals = .ok e ∧
      ofText "οδος@example.org" = .ok e ∧
      (∀ u, UserTable.ofRow (UserTable.newRow { ada with email := e }) = .ok u → u.email = e) ∧
      Service.login {} "οδος@example.org" "secret" = Service.login {} capitals "secret" := by
  have hnormal : normalize capitals = "οδος@example.org" := by decide +kernel
  have haccepted : (ofText capitals).isOk = true := by decide +kernel
  cases he : ofText capitals with
  | error f => rw [he] at haccepted; cases haccepted
  | ok e =>
    have htext : e.text = "οδος@example.org" := (text_of_ofText he).trans hnormal
    obtain ⟨-, -, hkey⟩ := normalize_projects capitals
    obtain ⟨hagain, -, hread, hservice⟩ := hkey e he
    refine ⟨e, htext, rfl, htext ▸ hagain, fun u => hread u _ rfl, ?_⟩
    rw [← htext]
    exact (hservice {} "secret").2.1

end EmailAddress

end Gatehouse
