/-
  Gatehouse — flows that keep in step.

  Two flows keep in step if they ask one question each, in turn, and go on alike whenever the
  replies to the two questions are alike. What is alike is up to an `Accord`: it says which
  questions go together, and which replies to them, and may say so differently in different phases
  of a run.

  * `Flow.InStep`: two flows keep in step, with a rule for each of the ways in which flows are put
    together;
  * `Flow.InStep.run`: in surroundings that keep an accord, two such flows have exchanges that go
    together one by one, and end alike.
-/
import Gatehouse.Proofs.Outages
import Mathlib.Data.List.Forall2

namespace Gatehouse

/-! ## What is alike -/

/-- Two results that satisfy `Q`, or two errors that satisfy `E`. -/
inductive Outcomes {ε ε' α α' : Type} (E : ε → ε' → Prop) (Q : α → α' → Prop) :
    Except ε α → Except ε' α' → Prop
  | ok {a a'} : Q a a' → Outcomes E Q (.ok a) (.ok a')
  | error {e e'} : E e e' → Outcomes E Q (.error e) (.error e')

theorem Outcomes.mono {ε ε' α α' : Type} {E E' : ε → ε' → Prop} {Q Q' : α → α' → Prop}
    {r : Except ε α} {r' : Except ε' α'} (h : Outcomes E Q r r') (hE : ∀ e e', E e e' → E' e e')
    (hQ : ∀ a a', Q a a' → Q' a a') : Outcomes E' Q' r r' := by
  cases h with
  | ok h => exact .ok (hQ _ _ h)
  | error h => exact .error (hE _ _ h)

theorem Outcomes.bind {ε ε' α α' β β' : Type} {E : ε → ε' → Prop} {Q : α → α' → Prop}
    {Q' : β → β' → Prop} {r : Except ε α} {r' : Except ε' α'} {f : α → Except ε β}
    {f' : α' → Except ε' β'} (h : Outcomes E Q r r')
    (hf : ∀ a a', Q a a' → Outcomes E Q' (f a) (f' a')) : Outcomes E Q' (r >>= f) (r' >>= f') := by
  cases h with
  | ok h => exact hf _ _ h
  | error h => exact .error h

theorem Outcomes.mapError {ε ε' η η' α α' : Type} {E : ε → ε' → Prop} {E' : η → η' → Prop}
    {Q : α → α' → Prop} {r : Except ε α} {r' : Except ε' α'} {g : ε → η} {g' : ε' → η'}
    (h : Outcomes E Q r r') (hg : ∀ e e', E e e' → E' (g e) (g' e')) :
    Outcomes E' Q (r.mapError g) (r'.mapError g') := by
  cases h with
  | ok h => exact .ok h
  | error h => exact .error (hg _ _ h)

theorem Outcomes.map {ε ε' α α' β β' : Type} {E : ε → ε' → Prop} {Q : α → α' → Prop}
    {Q' : β → β' → Prop} {r : Except ε α} {r' : Except ε' α'} {f : α → β} {f' : α' → β'}
    (h : Outcomes E Q r r') (hf : ∀ a a', Q a a' → Q' (f a) (f' a')) :
    Outcomes E Q' (r.map f) (r'.map f') := by
  cases h with
  | ok h => exact .ok (hf _ _ h)
  | error h => exact .error h

theorem Outcomes.refl {ε α : Type} {E : ε → ε → Prop} {Q : α → α → Prop} (hE : ∀ e, E e e)
    (hQ : ∀ a, Q a a) (r : Except ε α) : Outcomes E Q r r := by
  cases r with
  | error e => exact .error (hE e)
  | ok a => exact .ok (hQ a)

/-- Which questions of two flows go together in a phase, and which replies to them; and which phase
    comes after a question. -/
structure Accord (π : Type) where
  next : π → Ask → π
  Pairs : π → (q q' : Ask) → (q.Reply → q'.Reply → Prop) → Prop

/-- Two exchanges go together in some phase. -/
def Accord.Together {π : Type} (A : Accord π) (x x' : Exchange) : Prop :=
  ∃ p R, A.Pairs p x.ask x'.ask R ∧ R x.reply x'.reply

/-- Two handlers reply alike from states that satisfy `I`, and keep them so. -/
def Accord.Kept {π σ σ' : Type} (A : Accord π) (I : π → σ → σ' → Prop)
    (handler : (q : Ask) → σ → q.Reply × σ) (handler' : (q : Ask) → σ' → q.Reply × σ') : Prop :=
  ∀ ⦃p q q' R s s'⦄, A.Pairs p q q' R → I p s s' →
    R (handler q s).1 (handler' q' s').1 ∧ I (A.next p q) (handler q s).2 (handler' q' s').2

/-- Two endings are alike: what is returned satisfies `Q` in some phase, and the causes of failures
    satisfy `E`. -/
inductive Ending.Alike {π ε ε' α α' : Type} (E : ε → ε' → Prop) (Q : π → α → α' → Prop) :
    Ending ε α → Ending ε' α' → Prop
  | done {p a a'} : Q p a a' → Alike E Q (.done a) (.done a')
  | failed {e e'} : E e e' → Alike E Q (.failed e) (.failed e')
  | crashed {x} : Alike E Q (.crashed x) (.crashed x)

/-! ## Flows -/

namespace Flow

variable {π σ σ' ε ε' ε₁ ε₁' α α' β β' : Type} {A : Accord π}

/-- From a phase on, two flows keep in step; if they return, then `Q` holds of what is returned, and
    `E` of how they fail. -/
inductive InStep (A : Accord π) (E : ε → ε' → Prop) (Q : π → α → α' → Prop) :
    π → Flow ε α → Flow ε' α' → Prop
  | done {p a a'} : Q p a a' → InStep A E Q p (.done a) (.done a')
  | fail {p e e'} : E e e' → InStep A E Q p (.fail e) (.fail e')
  | crash {p x} : InStep A E Q p (.crash x) (.crash x)
  | ask {p q q' R k k'} : A.Pairs p q q' R →
      (∀ r r', R r r' → InStep A E Q (A.next p q) (k r) (k' r')) →
      InStep A E Q p (.ask q k) (.ask q' k')

/-- **Flows that keep in step, in surroundings that keep the accord, have exchanges that go together
    one by one, and end alike.** -/
theorem InStep.run {E : ε → ε' → Prop} {Q : π → α → α' → Prop} {p : π} {m : Flow ε α}
    {m' : Flow ε' α'} (hm : m.InStep A E Q p m') {I : π → σ → σ' → Prop}
    {handler : (q : Ask) → σ → q.Reply × σ} {handler' : (q : Ask) → σ' → q.Reply × σ'}
    (hkept : A.Kept I handler handler') {s : σ} {s' : σ'} (hs : I p s s') :
    List.Forall₂ A.Together (m.record handler s) (m'.record handler' s') ∧
      Ending.Alike E Q (m.run handler s).1 (m'.run handler' s').1 := by
  induction hm generalizing s s' with
  | done h => exact ⟨.nil, .done h⟩
  | fail h => exact ⟨.nil, .failed h⟩
  | crash => exact ⟨.nil, .crashed⟩
  | @ask p q q' R k k' hpair _ ih =>
    obtain ⟨hreply, hnext⟩ := hkept hpair hs
    obtain ⟨hrecord, hend⟩ := ih _ _ hreply hnext
    exact ⟨.cons ⟨p, R, hpair, hreply⟩ hrecord, hend⟩

/-! ### Rules -/

theorem InStep.mono {E : ε → ε' → Prop} {Q Q' : π → α → α' → Prop} {p : π} {m : Flow ε α}
    {m' : Flow ε' α'} (hm : m.InStep A E Q p m') (hQ : ∀ p a a', Q p a a' → Q' p a a') :
    m.InStep A E Q' p m' := by
  induction hm with
  | done h => exact .done (hQ _ _ _ h)
  | fail h => exact .fail h
  | crash => exact .crash
  | ask hpair _ ih => exact .ask hpair ih

theorem inStep_bind {E : ε → ε' → Prop} {Q : π → β → β' → Prop} {p : π} {m : Flow ε α}
    {m' : Flow ε' α'} {f : α → Flow ε β} {f' : α' → Flow ε' β'}
    (hm : m.InStep A E (fun p a a' => (f a).InStep A E Q p (f' a')) p m') :
    (m >>= f).InStep A E Q p (m' >>= f') := by
  induction hm with
  | done h => exact h
  | fail h => exact .fail h
  | crash => exact .crash
  | ask hpair _ ih => exact .ask hpair ih

theorem inStep_mapFailure {E : ε → ε' → Prop} {E₁ : ε₁ → ε₁' → Prop} {Q : π → α → α' → Prop} {p : π}
    {g : ε → ε₁} {g' : ε' → ε₁'} {m : Flow ε α} {m' : Flow ε' α'} (hm : m.InStep A E Q p m')
    (hg : ∀ e e', E e e' → E₁ (g e) (g' e')) :
    (m.mapFailure g).InStep A E₁ Q p (m'.mapFailure g') := by
  unfold mapFailure
  induction hm with
  | done h => exact .done h
  | fail h => exact .fail (hg _ _ h)
  | crash => exact .crash
  | ask hpair _ ih => exact .ask hpair ih

theorem inStep_attempt {E : ε → ε' → Prop} {E₁ : ε₁ → ε₁' → Prop}
    {Q : π → Except ε α → Except ε' α' → Prop} {p : π} {m : Flow ε α} {m' : Flow ε' α'}
    (hm : m.InStep A E (fun p a a' => Q p (.ok a) (.ok a')) p m')
    (he : ∀ p e e', E e e' → Q p (.error e) (.error e')) :
    (m.attempt : Flow ε₁ _).InStep A E₁ Q p (m'.attempt : Flow ε₁' _) := by
  induction hm with
  | done h => exact .done h
  | fail h => exact .done (he _ _ _ h)
  | crash => exact .crash
  | ask hpair _ ih => exact .ask hpair ih

theorem inStep_ofExcept {E : ε → ε' → Prop} {Q : π → α → α' → Prop} {p : π} {r : Except ε α}
    {r' : Except ε' α'} (h : Outcomes E (Q p) r r') :
    (ofExcept r).InStep A E Q p (ofExcept r') := by
  cases h with
  | ok h => exact .done h
  | error h => exact .fail h

end Flow

end Gatehouse
