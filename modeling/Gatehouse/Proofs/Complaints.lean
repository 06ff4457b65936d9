/-
  Gatehouse — what is wrong with a registration form.

  `Form.Violates` says which fields of a form break a rule, and `Form.Complains` in which words
  that is told; both are about the form alone, not about how it is checked. Checking it comes to
  the same: the complaints are about the fields that break a rule, about each of them once, in the
  order of the form. Nothing else keeps a form from being accepted than complaints and, once there
  are none, a weak password.

  * `Text.trim_eq_empty_iff`: a text is blank if nothing of it is left between its ends;
  * `Form.message?_eq_some_iff`: what is said of a field is what is wrong with it;
  * `Form.fields_complaints`: which fields are named, and in which order;
  * `Form.judged`: what becomes of a form.
-/
import Gatehouse.Account.Registration
import Mathlib.Data.List.DropRight

namespace Gatehouse

/-! ## Blank texts -/

namespace Text

theorem trimChars_eq_nil_iff {cs : List Char} : trimChars cs = [] ↔ ∀ c ∈ cs, isBlank c := by
  have hleft : trimChars cs = (cs.dropWhile isBlank).rdropWhile isBlank := rfl
  rw [hleft, List.rdropWhile_eq_nil_iff]
  constructor
  · intro h c hc
    rw [← List.takeWhile_append_dropWhile (p := isBlank) (l := cs), List.mem_append] at hc
    exact hc.elim List.mem_takeWhile_imp (h c)
  · intro h c hc
    exact h c ((List.dropWhile_suffix _).subset hc)

/-- A text is blank if nothing is left of it when it is trimmed. -/
theorem trim_eq_empty_iff {s : String} : trim s = "" ↔ isBlankText s = true := by
  rw [trim, isBlankText, List.all_eq_true, ← trimChars_eq_nil_iff]
  exact String.ofList_eq_empty_iff

end Text

namespace Registration

/-- The fields of a form that can be refused. -/
inductive Field
  | email
  | userName
  | password
  | confirmation
deriving DecidableEq, Repr

namespace Field

/-- What a client calls the field. -/
def name : Field → String
  | email => "email"
  | userName => "user_name"
  | password => "password"
  | confirmation => "confirm_password"

/-- The fields in the order of the form. -/
def all : List Field := [email, userName, password, confirmation]

theorem mem_all (x : Field) : x ∈ all := by
  cases x <;> decide

theorem name_injective : Function.Injective name := by
  intro x y
  cases x <;> cases y <;> decide

end Field

namespace Form

variable {f : Form} {x : Field} {m : String}

/-! ## The rules -/

/-- The field breaks a rule. -/
def Violates (f : Form) : Field → Prop
  | .email => Text.trim f.email = "" ∨ ∃ e, EmailAddress.ofText f.email = .error e
  | .userName =>
    Text.trim f.userName = "" ∨ ∃ e, Username.ofText (Text.trim f.userName) = .error e
  | .password => Text.trim f.password = ""
  | .confirmation => f.password ≠ f.confirmation

/-- What is to be said of a field that breaks a rule. That it is empty comes before all else. -/
inductive Complains (f : Form) : Field → String → Prop
  | noEmail : Text.trim f.email = "" → Complains f .email "email is required"
  | badEmail {e} : Text.trim f.email ≠ "" → EmailAddress.ofText f.email = .error e →
      Complains f .email e.message
  | noName : Text.trim f.userName = "" → Complains f .userName "user name is required"
  | badName {e} : Text.trim f.userName ≠ "" → Username.ofText (Text.trim f.userName) = .error e →
      Complains f .userName e.message
  | noPassword : Text.trim f.password = "" → Complains f .password "password is required"
  | mismatch : f.password ≠ f.confirmation →
      Complains f .confirmation "passwords do not match"

/-- There is something to be said of exactly the fields that break a rule. -/
theorem violates_iff : f.Violates x ↔ ∃ m, f.Complains x m := by
  constructor
  · intro h
    cases x with
    | email =>
      by_cases hblank : Text.trim f.email = ""
      · exact ⟨_, .noEmail hblank⟩
      · obtain ⟨e, he⟩ := h.resolve_left hblank
        exact ⟨_, .badEmail hblank he⟩
    | userName =>
      by_cases hblank : Text.trim f.userName = ""
      · exact ⟨_, .noName hblank⟩
      · obtain ⟨e, he⟩ := h.resolve_left hblank
        exact ⟨_, .badName hblank he⟩
    | password => exact ⟨_, .noPassword h⟩
    | confirmation => exact ⟨_, .mismatch h⟩
  · rintro ⟨m, h⟩
    cases h with
    | noEmail h => exact .inl h
    | badEmail _ h => exact .inr ⟨_, h⟩
    | noName h => exact .inl h
    | badName _ h => exact .inr ⟨_, h⟩
    | noPassword h => exact h
    | mismatch h => exact h

/-! ## The checks -/

/-- What a check says, if it refuses. -/
def said {α : Type} : Except String α → Option String
  | .ok _ => none
  | .error message => some message

/-- What is said of a field. -/
def message? (f : Form) : Field → Option String
  | .email => said f.checkEmail
  | .userName => said f.checkName
  | .password => said f.checkPassword
  | .confirmation => said f.checkConfirmation

/-- What is said of a text that has to be given and to be accepted. -/
theorem said_of_required {ε α : Type} {entered required : String} {r : Except ε α}
    {g : ε → String} :
    said (if Text.isBlankText entered then .error required else r.mapError g) = some m ↔
      Text.trim entered = "" ∧ m = required ∨
        Text.trim entered ≠ "" ∧ ∃ e, r = .error e ∧ m = g e := by
  simp only [ne_eq, Text.trim_eq_empty_iff]
  split_ifs with hblank
  · simp [said, hblank, eq_comm]
  · cases r <;> simp [said, Except.mapError, hblank, eq_comm]

/-- **What is said of a field is what is wrong with it.** -/
theorem message?_eq_some_iff : f.message? x = some m ↔ f.Complains x m := by
  cases x with
  | email =>
    rw [message?, checkEmail, said_of_required]
    constructor
    · rintro (⟨hblank, rfl⟩ | ⟨hgiven, e, he, rfl⟩)
      · exact .noEmail hblank
      · exact .badEmail hgiven he
    · intro h
      cases h with
      | noEmail hblank => exact .inl ⟨hblank, rfl⟩
      | badEmail hgiven he => exact .inr ⟨hgiven, _, he, rfl⟩
  | userName =>
    rw [message?, checkName, said_of_required]
    constructor
    · rintro (⟨hblank, rfl⟩ | ⟨hgiven, e, he, rfl⟩)
      · exact .noName hblank
      · exact .badName hgiven he
    · intro h
      cases h with
      | noName hblank => exact .inl ⟨hblank, rfl⟩
      | badName hgiven he => exact .inr ⟨hgiven, _, he, rfl⟩
  | password =>
    rw [message?, checkPassword]
    constructor
    · intro h
      split_ifs at h with hblank
      · cases h
        exact .noPassword (Text.trim_eq_empty_iff.2 hblank)
      · cases h
    · intro h
      cases h with
      | noPassword hblank =>
        rw [if_pos (Text.trim_eq_empty_iff.1 hblank)]
        rfl
  | confirmation =>
    rw [message?, checkConfirmation]
    constructor
    · intro h
      split_ifs at h with hsame
      · cases h
      · cases h
        exact .mismatch hsame
    · intro h
      cases h with
      | mismatch hne =>
        rw [if_neg hne]
        rfl

theorem isSome_message?_iff : (f.message? x).isSome = true ↔ f.Violates x := by
  simp only [violates_iff, Option.isSome_iff_exists, message?_eq_some_iff]

instance : DecidablePred f.Violates := fun _ => decidable_of_iff _ isSome_message?_iff

/-! ## The complaints -/

/-- The complaints go through the fields in order. -/
theorem complaints_eq (f : Form) :
    f.complaints = Field.all.filterMap fun x => (f.message? x).map (⟨x.name, ·⟩) := by
  have hsaid : ∀ {α : Type} (field : String) (r : Except String α),
      complaint field r = (said r).map (⟨field, ·⟩) := by
    intro α field r
    cases r <;> rfl
  simp only [complaints, hsaid, List.filterMap_cons, List.filterMap_nil, Field.all, message?,
    Field.name, id]

/-- The fields that are complained about are those that break a rule, in the order of the form. -/
theorem fields_complaints (f : Form) :
    f.complaints.map (·.field) = (Field.all.filter (f.Violates ·)).map Field.name := by
  rw [complaints_eq]
  induction Field.all with
  | nil => rfl
  | cons x xs ih =>
    cases hx : f.message? x with
    | none =>
      have hnot : ¬ f.Violates x := by rw [← isSome_message?_iff, hx]; simp
      simpa [List.filterMap_cons, List.filter_cons, hx, hnot] using ih
    | some m =>
      have hyes : f.Violates x := by rw [← isSome_message?_iff, hx]; rfl
      simpa [List.filterMap_cons, List.filter_cons, hx, hyes] using ih

example : (complaints ⟨"", " ", "Str0ng!Pass", "different", "Alice", "Liddell"⟩).map (·.field) =
    ["email", "user_name", "confirm_password"] := by decide +kernel

/-- What the complaints say of a field. -/
theorem mem_complaints_iff : ⟨x.name, m⟩ ∈ f.complaints ↔ f.Complains x m := by
  rw [complaints_eq, List.mem_filterMap, ← message?_eq_some_iff]
  constructor
  · rintro ⟨y, -, hy⟩
    obtain ⟨m', hm', heq⟩ := Option.map_eq_some_iff.1 hy
    obtain ⟨hname, rfl⟩ := FieldError.mk.inj heq
    rwa [← Field.name_injective hname]
  · intro h
    exact ⟨x, x.mem_all, by rw [h]; rfl⟩

theorem complaints_eq_nil_iff : f.complaints = [] ↔ ∀ x, ¬ f.Violates x := by
  rw [← List.map_eq_nil_iff (f := (·.field)), fields_complaints, List.map_eq_nil_iff,
    List.filter_eq_nil_iff]
  simp [Field.mem_all]

/-! ## The verdict -/

theorem validate_of_complaints (h : f.complaints ≠ []) :
    f.validate = .error (.validationFailed f.complaints) := by
  unfold validate
  split
  · rw [if_neg (by simpa using h)]
  · rfl

theorem ok_of_said {α : Type} {r : Except String α} (h : said r = none) : ∃ a, r = .ok a := by
  cases r with
  | ok a => exact ⟨a, rfl⟩
  | error message => cases h

theorem ok_of_mapError {ε α : Type} {g : ε → String} {r : Except ε α} {a : α}
    (h : r.mapError g = .ok a) : r = .ok a := by
  cases r with
  | ok b => rw [Except.ok.inj h]
  | error e => cases h

theorem text_of_checkEmail {e : EmailAddress} (h : f.checkEmail = .ok e) :
    e.text = EmailAddress.normalize f.email := by
  unfold checkEmail at h
  split_ifs at h
  exact EmailAddress.text_of_ofText (ok_of_mapError h)

theorem text_of_checkName {u : Username} (h : f.checkName = .ok u) :
    u.text = Text.trim f.userName := by
  unfold checkName at h
  split_ifs at h
  have haccepted := ok_of_mapError h
  unfold Username.ofText at haccepted
  split_ifs at haccepted
  cases haccepted
  rfl

/-- A form without complaints stands or falls with the strength of its password. -/
theorem validate_of_clean (h : ∀ x, ¬ f.Violates x) :
    ∃ a : Accepted, a.email.text = EmailAddress.normalize f.email ∧
      a.name.text = Text.trim f.userName ∧
      f.validate = match Password.weakness? f.password with
        | none => .ok a
        | some w => .error (.weakPassword w.message) := by
  have hsaid : ∀ x, f.message? x = none := by
    intro x
    rw [← Option.not_isSome_iff_eq_none, isSome_message?_iff]
    exact h x
  obtain ⟨email, hemail⟩ := ok_of_said (hsaid .email)
  obtain ⟨name, hname⟩ := ok_of_said (hsaid .userName)
  have hclean : f.complaints = [] := complaints_eq_nil_iff.2 h
  refine ⟨⟨email, name⟩, text_of_checkEmail hemail, text_of_checkName hname, ?_⟩
  rw [validate, hemail, hname, hclean]
  cases Password.weakness? f.password <;> rfl

/-- What becomes of a form. -/
structure Judged (f : Form) : Prop where
  /-- It is refused for its fields exactly if one of them breaks a rule. -/
  refused : (∃ errors, f.validate = .error (.validationFailed errors)) ↔ ∃ x, f.Violates x
  /-- Then the fields that do are named, each once, in the order of the form. -/
  named : ∀ errors, f.validate = .error (.validationFailed errors) → errors ≠ [] ∧
    errors.map (·.field) = (Field.all.filter (f.Violates ·)).map Field.name
  told : ∀ errors, f.validate = .error (.validationFailed errors) →
    ∀ x m, ⟨x.name, m⟩ ∈ errors ↔ f.Complains x m
  weak : (∀ x, ¬ f.Violates x) → ∀ w, Password.weakness? f.password = some w →
    f.validate = .error (.weakPassword w.message)
  accepted : (∀ x, ¬ f.Violates x) → Password.weakness? f.password = none →
    ∃ a, f.validate = .ok a ∧ a.email.text = EmailAddress.normalize f.email ∧
      a.name.text = Text.trim f.userName

/-- Who is told of complaints is told of all of them. -/
theorem eq_complaints {errors : FieldErrors}
    (h : f.validate = .error (.validationFailed errors)) :
    (∃ x, f.Violates x) ∧ errors = f.complaints := by
  by_cases hclean : ∀ x, ¬ f.Violates x
  · obtain ⟨a, -, -, hvalidate⟩ := validate_of_clean hclean
    rw [hvalidate] at h
    split at h <;> cases h
  · rw [validate_of_complaints fun hnil => hclean (complaints_eq_nil_iff.1 hnil)] at h
    cases h
    exact ⟨not_forall_not.1 hclean, rfl⟩

/-- **A form is judged by its fields first, all of them together, and by its password then.** -/
theorem judged (f : Form) : f.Judged where
  refused := by
    constructor
    · rintro ⟨errors, h⟩
      exact (eq_complaints h).1
    · rintro ⟨x, hx⟩
      exact ⟨_, validate_of_complaints fun hnil => complaints_eq_nil_iff.1 hnil x hx⟩
  named errors h := by
    obtain ⟨⟨x, hx⟩, rfl⟩ := eq_complaints h
    exact ⟨fun hnil => complaints_eq_nil_iff.1 hnil x hx, f.fields_complaints⟩
  told errors h x m := by
    obtain ⟨-, rfl⟩ := eq_complaints h
    exact mem_complaints_iff
  weak hclean w hw := by
    obtain ⟨a, -, -, hvalidate⟩ := validate_of_clean hclean
    rw [hvalidate, hw]
  accepted hclean hstrong := by
    obtain ⟨a, hemail, hname, hvalidate⟩ := validate_of_clean hclean
    exact ⟨a, by rw [hvalidate, hstrong], hemail, hname⟩

end Form

end Registration

end Gatehouse
