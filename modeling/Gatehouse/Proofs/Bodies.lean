/-
  Gatehouse — bodies of requests with other words.

  What a client enters stands in the body of a request under the names of the record that a route
  reads. Two bodies that tell the same with other words are both read, with the other words in the
  other one, or both rejected with one status; only a limit that one of them exceeds tells them
  apart.

  * `Http.Reworded`: two requests enter the same with other words;
  * `Http.respects_oneText`, `Http.respects_twoTexts`, `Http.respects_form`: the records of the
    routes are read alike;
  * `Http.Reworded.readAlike`: such requests are read alike within the limit.
-/
import Gatehouse.Http.Router
import Gatehouse.Proofs.Likeness

namespace Gatehouse.Http

open Json

/-- Both bodies are read, and what is read satisfies `S`, or both are rejected with one status. -/
def ReadAlike {α : Type} (read : Reader α) (S : α → α → Prop) (r r' : Request) : Prop :=
  Outcomes (fun e e' => e.response.status = e'.response.status) S (readBody read r)
    (readBody read r')

theorem ReadAlike.mono {α : Type} {read : Reader α} {S S' : α → α → Prop} {r r' : Request}
    (h : ReadAlike read S r r') (hS : ∀ a a', readBody read r = .ok a → readBody read r' = .ok a' →
      S a a' → S' a a') : ReadAlike read S' r r' := by
  unfold ReadAlike at h ⊢
  generalize readBody read r = x at h hS ⊢
  generalize readBody read r' = x' at h hS ⊢
  cases h with
  | ok h => exact .ok (hS _ _ rfl rfl h)
  | error h => exact .error h

/-! ## Records -/

section

variable {T : String → String → String → Prop}

theorem respects_oneText (title name : String) :
    (oneText title name).Respects T (Option.Rel (T name)) (T name) := by
  refine ⟨.none, fun f hf => ?_, fun d d' h => ?_⟩
  · obtain rfl := List.mem_singleton.1 hf
    exact Field.respects_text (fun _ _ h => h) (fun _ _ _ _ _ ht => .some ht) nofun
  · cases h with
    | none => exact .error rfl
    | some h => exact .ok h

/-- Both drafts have the same texts, but for the words. -/
def TwoTexts.Alike (T : String → String → String → Prop) (first second : String)
    (d d' : TwoTexts) : Prop :=
  Option.Rel (T first) d.first d'.first ∧ Option.Rel (T second) d.second d'.second

theorem required_alike {S : String → String → Prop} (name : String) {x x' : Option String}
    (h : Option.Rel S x x') :
    Outcomes (fun e e' => e.isData = e'.isData) S (required name x) (required name x') := by
  cases h with
  | none => exact .error rfl
  | some h => exact .ok h

theorem respects_twoTexts (title first second : String) :
    (twoTexts title first second).Respects T (TwoTexts.Alike T first second)
      fun x x' => T first x.1 x'.1 ∧ T second x.2 x'.2 := by
  refine ⟨⟨.none, .none⟩, fun f hf => ?_, fun d d' h => ?_⟩
  · simp only [twoTexts, List.mem_cons, List.not_mem_nil, or_false] at hf
    rcases hf with rfl | rfl
    · exact Field.respects_text (fun _ _ h => h.1) (fun _ _ h _ _ ht => ⟨.some ht, h.2⟩) nofun
    · exact Field.respects_text (fun _ _ h => h.2) (fun _ _ h _ _ ht => ⟨h.1, .some ht⟩) nofun
  · exact (required_alike first h.1).bind fun _ _ ht =>
      (required_alike second h.2).bind fun _ _ hu => .ok ⟨ht, hu⟩

/-- Both drafts of a form have the same texts, but for the words. -/
structure FormDraft.Alike (T : String → String → String → Prop) (d d' : FormDraft) : Prop where
  email : Option.Rel (T "email") d.email d'.email
  userName : Option.Rel (T "user_name") d.userName d'.userName
  password : Option.Rel (T "password") d.password d'.password
  confirmation : Option.Rel (T "confirm_password") d.confirmation d'.confirmation
  firstName : Option.Rel (T "first_name") d.firstName d'.firstName
  lastName : Option.Rel (T "last_name") d.lastName d'.lastName

/-- Both forms have the same texts, but for the words. -/
structure FormAlike (T : String → String → String → Prop) (form form' : Registration.Form) :
    Prop where
  email : T "email" form.email form'.email
  userName : T "user_name" form.userName form'.userName
  password : T "password" form.password form'.password
  confirmation : T "confirm_password" form.confirmation form'.confirmation
  firstName : T "first_name" form.firstName form'.firstName
  lastName : T "last_name" form.lastName form'.lastName

/-- A form is read alike; what it leaves out is left out of both. -/
theorem respects_form (hblank : ∀ name, T name "" "") :
    formRecord.Respects T (FormDraft.Alike T) (FormAlike T) := by
  have hdefault : ∀ name t, some "" = some t → T name t t := by
    rintro name t ⟨⟩
    exact hblank name
  refine ⟨⟨.none, .none, .none, .none, .none, .none⟩, fun f hf => ?_, fun d d' h => ?_⟩
  · simp only [formRecord, List.mem_cons, List.not_mem_nil, or_false] at hf
    rcases hf with rfl | rfl | rfl | rfl | rfl | rfl
    · exact Field.respects_text (fun _ _ h => h.email)
        (fun _ _ h _ _ ht => { h with email := .some ht }) (hdefault _)
    · exact Field.respects_text (fun _ _ h => h.userName)
        (fun _ _ h _ _ ht => { h with userName := .some ht }) (hdefault _)
    · exact Field.respects_text (fun _ _ h => h.password)
        (fun _ _ h _ _ ht => { h with password := .some ht }) (hdefault _)
    · exact Field.respects_text (fun _ _ h => h.confirmation)
        (fun _ _ h _ _ ht => { h with confirmation := .some ht }) (hdefault _)
    · exact Field.respects_text (fun _ _ h => h.firstName)
        (fun _ _ h _ _ ht => { h with firstName := .some ht }) (hdefault _)
    · exact Field.respects_text (fun _ _ h => h.lastName)
        (fun _ _ h _ _ ht => { h with lastName := .some ht }) (hdefault _)
  · have entered : ∀ {name : String} {x x' : Option String}, Option.Rel (T name) x x' →
        T name (x.getD "") (x'.getD "") := by
      intro name x x' h
      cases h with
      | none => exact hblank name
      | some h => exact h
    exact .ok ⟨entered h.email, entered h.userName, entered h.password, entered h.confirmation,
      entered h.firstName, entered h.lastName⟩

end

/-! ## Requests -/

/-- What the requests enter for a record is the same but for the words; a body that is not read
    enters nothing, and stays as it is. -/
inductive Reworded {σ α : Type} (T : String → String → String → Prop) (record : Record σ α)
    (r r' : Request) : Prop
  | told : Retold T (record.fields.map (·.name)) r.body r'.body → Reworded T record r r'
  | unread : (∀ a, readBody record.read r ≠ .ok a) → r'.body = r.body → Reworded T record r r'

theorem status_badJson (e : Json.Error) (input : List UInt8) :
    (Rejection.badJson e input).response.status = if e.fault.isData then 422 else 400 := by
  simp only [Rejection.response]
  split_ifs
  · rfl
  · rfl

/-- **Requests with other words are read alike**, unless one body only exceeds the limit. -/
theorem Reworded.readAlike {σ α : Type} {T : String → String → String → Prop} {record : Record σ α}
    {R : σ → σ → Prop} {S : α → α → Prop} {r r' : Request} (h : Reworded T record r r')
    (hrecord : record.Respects T R S)
    (hjson : header? r'.headers "content-type" = header? r.headers "content-type")
    (hsize : bodyLimit < r'.body.length ↔ bodyLimit < r.body.length) :
    ReadAlike record.read S r r' := by
  cases h with
  | told htold =>
    unfold ReadAlike readBody
    rw [hjson]
    split_ifs with hnone hlong hlong' hlong'
    · exact .error rfl
    · exact .error rfl
    · exact absurd (hsize.2 hlong) hlong'
    · exact absurd (hsize.1 hlong') hlong
    · refine (Record.readFront_retold hrecord htold).mapError fun e e' hkind => ?_
      rw [status_badJson, status_badJson, show e.fault.isData = e'.fault.isData from hkind]
  | unread hnone hbody =>
    have hsame : readBody record.read r' = readBody record.read r := by
      unfold readBody
      rw [hjson, hbody]
    unfold ReadAlike
    rw [hsame]
    cases hread : readBody record.read r with
    | ok a => exact absurd hread (hnone a)
    | error e => exact .error rfl

/-- Under some names stand secrets, which satisfy `S`; all else stays as it is. -/
def Secretly (names : List String) (S : String → String → Prop) (name t t' : String) : Prop :=
  if name ∈ names then S t t' else t' = t

/-! ## Bodies that are written -/

/-- A request with a body that is written as an object with members. -/
def writing (route : Route) (members : List (String × Doc)) : Request :=
  ⟨"POST", route.path, [⟨"Content-Type", "application/json"⟩], none,
    Jwt.bytesOf (write (.object members))⟩

theorem ofPath?_writing (route : Route) (members : List (String × Doc)) :
    Route.ofPath? (writing route members).path = some route := by
  show Route.ofPath? (pathOf route.path) = some route
  cases route <;> decide +kernel

/-- Written bodies tell the same with other words if their members do. -/
theorem reworded_writing {σ α : Type} {T : String → String → String → Prop} {record : Record σ α}
    (route : Route) {ms ms' : List (String × Doc)}
    (h : List.Forall₂ (MemberAlike T) (writtenTexts ms) (writtenTexts ms')) :
    Reworded T record (writing route ms) (writing route ms') :=
  .told ((object_write ms).retold _ (object_write ms') h)

theorem isJson_writing (route : Route) (members : List (String × Doc)) :
    (header? (writing route members).headers "content-type").any MediaType.isJson = true := by
  show (header? [⟨"Content-Type", "application/json"⟩] "content-type").any MediaType.isJson = true
  decide +kernel

end Gatehouse.Http
