/-
  Gatehouse — what a flow asks and what it is told.

  An `Exchange` is a question with the reply that came. After some exchanges a flow has
  become another flow (`Flow.Leads`). `Flow.Meets Φ Ψ h m` says of a flow `m` that has the
  exchanges `h` behind it what holds whoever replies: each question satisfies `Φ` and each
  result `Ψ`, seen from all the exchanges before it; of failures it says nothing. Replies
  are only asked to fit their questions (`Ask.Fits`): what was looked up has the key it was
  looked up by, and a store hands back the record it was given.

  * `Flow.meets_bind`, `Flow.meets_mapFailure`, `Flow.meets_attempt`: the rules for the
    ways in which flows are put together;
  * `Flow.Leads.meets`: what a flow meets holds wherever its exchanges lead.
-/
import Gatehouse.Service.Flow

namespace Gatehouse

/-- A question, and the reply that came. -/
structure Exchange where
  ask : Ask
  reply : ask.Reply

/-- The exchanges of a flow so far, in order. -/
abbrev History := List Exchange

/-- The reply fits the question, whatever the stores hold. -/
def Ask.Fits : (q : Ask) → q.Reply → Prop
  | .users _ (.findById id), some (.ok (some u)) => u.id = id
  | .users _ (.findByEmail email), some (.ok (some u)) => u.email = email
  | .users _ (.create u), some (.ok v) => v = u
  | .users _ (.update u), some (.ok v) => v = u
  | .tokens _ (.findBySecret secret), some (.ok (some t)) => t.secret = secret
  | _, _ => True

namespace Exchange

/-- A record is looked up. -/
def seeks : Exchange → Bool
  | ⟨.users _ (.findById _), _⟩ => true
  | ⟨.users _ (.findByEmail _), _⟩ => true
  | _ => false

/-- The record that a look-up found. -/
def found? : Exchange → Option User
  | ⟨.users _ (.findById _), some (.ok u?)⟩ => u?
  | ⟨.users _ (.findByEmail _), some (.ok u?)⟩ => u?
  | _ => none

/-- The record that was to take the place of another. -/
def rewritten? : Exchange → Option User
  | ⟨.users _ (.update u), _⟩ => some u
  | _ => none

/-- The record that was to be added. -/
def enrolled? : Exchange → Option User
  | ⟨.users _ (.create u), _⟩ => some u
  | _ => none

/-- The token that was to be added. -/
def minted? : Exchange → Option Token
  | ⟨.tokens _ (.create t), _⟩ => some t
  | _ => none

/-- The secret that was to be revoked, and whether the answer was that it was active. -/
def flipped? : Exchange → Option (String × Bool)
  | ⟨.tokens _ (.revokeIfActive secret), some (.ok active)⟩ => some (secret, active)
  | ⟨.tokens _ (.revokeIfActive secret), _⟩ => some (secret, false)
  | _ => none

/-- The token that a look-up found. -/
def presented? : Exchange → Option Token
  | ⟨.tokens _ (.findBySecret _), some (.ok t?)⟩ => t?
  | _ => none

/-- The text that was drawn. -/
def drawn? : Exchange → Option String
  | ⟨.draw _, .ok text⟩ => some text
  | _ => none

/-- The record that has taken the place of another, as far as the caller was told. -/
def settled? : Exchange → Option User
  | ⟨.users _ (.update u), some (.ok _)⟩ => some u
  | _ => none

theorem ask_of_found {x : Exchange} {u : User} (h : x.found? = some u)
    (hr : x.ask.Fits x.reply) :
    (∃ limit, x.ask = .users limit (.findById u.id)) ∨
      ∃ limit, x.ask = .users limit (.findByEmail u.email) := by
  unfold found? at h
  split at h
  · subst h; exact .inl ⟨_, by rw [show u.id = _ from hr]⟩
  · subst h; exact .inr ⟨_, by rw [show u.email = _ from hr]⟩
  · cases h

theorem seeks_of_found {x : Exchange} {u : User} (h : x.found? = some u) : x.seeks = true := by
  unfold found? at h
  split at h
  · rfl
  · rfl
  · cases h

theorem ask_of_rewritten {x : Exchange} {u : User} (h : x.rewritten? = some u) :
    ∃ limit, x.ask = .users limit (.update u) := by
  unfold rewritten? at h
  split at h
  · cases h; exact ⟨_, rfl⟩
  · cases h

theorem ask_of_minted {x : Exchange} {t : Token} (h : x.minted? = some t) :
    ∃ limit, x.ask = .tokens limit (.create t) := by
  unfold minted? at h
  split at h
  · cases h; exact ⟨_, rfl⟩
  · cases h

theorem flipped_of_ask {x : Exchange} {limit : Span} {secret : String}
    (h : x.ask = .tokens limit (.revokeIfActive secret)) :
    ∃ active, x.flipped? = some (secret, active) := by
  obtain ⟨q, r⟩ := x
  subst h
  rcases r with _ | e | active <;> exact ⟨_, rfl⟩

end Exchange

namespace Flow

variable {ε ε' α β : Type} {Φ : History → Ask → Prop} {h h₀ : History}

/-- After the exchanges, the flow `m` has become another flow. -/
inductive Leads (m : Flow ε α) : History → Flow ε α → Prop
  | refl : Leads m [] m
  | snoc {h q k r} : Leads m h (.ask q k) → q.Fits r → Leads m (h ++ [⟨q, r⟩]) (k r)

/-- With the exchanges `h` behind it, the flow asks only what satisfies `Φ`, and returns only
    what satisfies `Ψ`. -/
inductive Meets (Φ : History → Ask → Prop) (Ψ : History → α → Prop) :
    History → Flow ε α → Prop
  | done {h a} : Ψ h a → Meets Φ Ψ h (.done a)
  | fail {h e} : Meets Φ Ψ h (.fail e)
  | crash {h o} : Meets Φ Ψ h (.crash o)
  | ask {h q k} : Φ h q → (∀ r, q.Fits r → Meets Φ Ψ (h ++ [⟨q, r⟩]) (k r)) →
      Meets Φ Ψ h (.ask q k)

variable {Ψ : History → α → Prop}

theorem meets_bind {Ψ : History → β → Prop} {m : Flow ε α} {f : α → Flow ε β}
    (hm : Meets Φ (fun h a => Meets Φ Ψ h (f a)) h m) : Meets Φ Ψ h (m >>= f) := by
  induction hm with
  | done ha => exact ha
  | fail => exact .fail
  | crash => exact .crash
  | ask hq _ ih => exact .ask hq ih

theorem meets_mapFailure {g : ε → ε'} {m : Flow ε α} (hm : Meets Φ Ψ h m) :
    Meets Φ Ψ h (m.mapFailure g) := by
  unfold mapFailure
  induction hm with
  | done ha => exact .done ha
  | fail => exact .fail
  | crash => exact .crash
  | ask hq _ ih => exact .ask hq ih

theorem meets_attempt {Ψ : History → Except ε α → Prop} {m : Flow ε α}
    (hm : Meets Φ (fun h a => Ψ h (.ok a)) h m) (he : ∀ h e, Ψ h (.error e)) :
    Meets Φ Ψ h (m.attempt : Flow ε' _) := by
  induction hm with
  | done ha => exact .done ha
  | fail => exact .done (he _ _)
  | crash => exact .crash
  | ask hq _ ih => exact .ask hq ih

theorem meets_ofOption {e : ε} {a? : Option α} (ha : ∀ a, a? = some a → Ψ h a) :
    Meets Φ Ψ h (.ofOption e a?) := by
  cases a? with
  | none => exact .fail
  | some a => exact .done (ha a rfl)

theorem meets_ofExcept {a? : Except ε α} (ha : ∀ a, a? = .ok a → Ψ h a) :
    Meets Φ Ψ h (.ofExcept a?) := by
  cases a? with
  | error e => exact .fail
  | ok a => exact .done (ha a rfl)

theorem meets_log {e : Event} {Ψ : History → Unit → Prop} (hq : Φ h (.log e))
    (ha : Ψ (h ++ [⟨.log e, ()⟩]) ()) : Meets Φ Ψ h (.log e : Flow ε Unit) :=
  .ask hq fun _ _ => .done ha

theorem Meets.mono {Ψ' : History → α → Prop} {m : Flow ε α} (hm : Meets Φ Ψ h m)
    (hΨ : ∀ h a, Ψ h a → Ψ' h a) : Meets Φ Ψ' h m := by
  induction hm with
  | done ha => exact .done (hΨ _ _ ha)
  | fail => exact .fail
  | crash => exact .crash
  | ask hq _ ih => exact .ask hq ih

theorem Meets.result {a : α} (hm : Meets Φ Ψ h (.done a : Flow ε α)) : Ψ h a := by
  cases hm with
  | done ha => exact ha

theorem Meets.question {q : Ask} {k : q.Reply → Flow ε α} (hm : Meets Φ Ψ h (.ask q k)) :
    Φ h q := by
  cases hm with
  | ask hq _ => exact hq

/-- What a flow meets it still meets wherever its exchanges have led. -/
theorem Leads.meets {m m' : Flow ε α} (hl : m.Leads h m') (hm : Meets Φ Ψ h₀ m) :
    Meets Φ Ψ (h₀ ++ h) m' := by
  induction hl with
  | refl => simpa using hm
  | snoc _ hr ih =>
    rw [← List.append_assoc]
    cases ih with
    | ask _ hk => exact hk _ hr

end Flow

end Gatehouse
