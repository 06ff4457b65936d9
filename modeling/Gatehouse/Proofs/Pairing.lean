/-
  Gatehouse — two runs side by side.

  A flow that runs alone in one scene is compared with a flow that runs alone in another
  (`Flow.Matches`). Both return, or both fail, or both are given up for the same cause; what
  they return, how they fail and what they leave behind is related.

  * `Flow.matches_bind`, `Flow.matches_mapFailure`, `Flow.matches_attempt`: the rules for the
    ways in which flows are put together;
  * `Flow.matches_of_ensures`: how to compare flows of which it is known how each one ends;
  * `Flow.Apart`: a flow that asks nothing of the stores ends alike whatever they hold.
-/
import Gatehouse.Proofs.Sequence

namespace Gatehouse

/-! ## What is drawn -/

namespace Surroundings

/-- The generator draws no text twice. -/
def Unrepeating (o : Surroundings) : Prop :=
  ∀ m n bytes bytes' x, o.reply m (.draw bytes) = .ok x → o.reply n (.draw bytes') = .ok x → m = n

/-- No identifier and no secret of a stored token is drawn from the moment `n` on. -/
def Spares (o : Surroundings) (n : Nat) (s : TokenStore) : Prop :=
  ∀ t ∈ s.records, ∀ k bytes x, n ≤ k → o.reply k (.draw bytes) = .ok x → t.id ≠ x ∧ t.secret ≠ x

end Surroundings

/-! ## Two endings -/

/-- Two endings with the scenes that they have left: what is returned satisfies `Q`; the causes of
    failures satisfy `E`, and the scenes `I` if nothing is returned. -/
inductive Ending.Pairs {ε ε' α β : Type} (I : Scene → Scene → Prop) (E : ε → ε' → Prop)
    (Q : α → β → Scene → Scene → Prop) : Ending ε α → Ending ε' β → Scene → Scene → Prop
  | done {a b s t} : Q a b s t → Pairs I E Q (.done a) (.done b) s t
  | failed {e e' s t} : E e e' → I s t → Pairs I E Q (.failed e) (.failed e') s t
  | crashed {x s t} : I s t → Pairs I E Q (.crashed x) (.crashed x) s t

/-- A flow that runs alone in the first scene, and one that runs alone in the second, end alike. -/
def Flow.Matches {ε ε' α β : Type} (o o' : Surroundings) (I : Scene → Scene → Prop)
    (E : ε → ε' → Prop) (Q : α → β → Scene → Scene → Prop) (m : Flow ε α) (m' : Flow ε' β)
    (s s' : Scene) : Prop :=
  Ending.Pairs I E Q (m.run (Scene.next o) s).1 (m'.run (Scene.next o') s').1
    (m.run (Scene.next o) s).2 (m'.run (Scene.next o') s').2

/-! ## Rules -/

namespace Flow

variable {ε ε' ε₁ ε₁' α α' β β' : Type} {o o' : Surroundings} {I : Scene → Scene → Prop}
  {E : ε → ε' → Prop} {Q : α → α' → Scene → Scene → Prop} {s s' : Scene}

theorem matches_done {a : α} {a' : α'} (h : Q a a' s s') :
    (done a : Flow ε α).Matches o o' I E Q (done a') s s' := .done h

theorem matches_fail {e : ε} {e' : ε'} (he : E e e') (hi : I s s') :
    (fail e : Flow ε α).Matches o o' I E Q (fail e') s s' := .failed he hi

theorem matches_crash {x : Overflow} (hi : I s s') :
    (crash x : Flow ε α).Matches o o' I E Q (crash x : Flow ε' α') s s' := .crashed hi

/-- What is known of the end of each flow is known of both. -/
theorem matches_of_ensures {m : Flow ε α} {m' : Flow ε' α'}
    (h : m.Ensures o s fun e t => m'.Ensures o' s' fun e' t' => Ending.Pairs I E Q e e' t t') :
    m.Matches o o' I E Q m' s s' := h

theorem Matches.mono {Q' : α → α' → Scene → Scene → Prop} {m : Flow ε α} {m' : Flow ε' α'}
    (h : m.Matches o o' I E Q m' s s') (hq : ∀ a a' t t', Q a a' t t' → Q' a a' t t') :
    m.Matches o o' I E Q' m' s s' := by
  unfold Matches at h ⊢
  generalize m.run (Scene.next o) s = r at h ⊢
  generalize m'.run (Scene.next o') s' = r' at h ⊢
  obtain ⟨e, t⟩ := r
  obtain ⟨e', t'⟩ := r'
  cases h with
  | done h => exact .done (hq _ _ _ _ h)
  | failed he hi => exact .failed he hi
  | crashed hi => exact .crashed hi

theorem matches_bind {Q : β → β' → Scene → Scene → Prop} {m : Flow ε α} {m' : Flow ε' α'}
    {f : α → Flow ε β} {f' : α' → Flow ε' β'}
    (h : m.Matches o o' I E (fun a a' t t' => (f a).Matches o o' I E Q (f' a') t t') m' s s') :
    (m >>= f).Matches o o' I E Q (m' >>= f') s s' := by
  unfold Matches at h ⊢
  rw [run_bind, run_bind]
  generalize m.run (Scene.next o) s = r at h ⊢
  generalize m'.run (Scene.next o') s' = r' at h ⊢
  obtain ⟨e, t⟩ := r
  obtain ⟨e', t'⟩ := r'
  cases h with
  | done h => exact h
  | failed he hi => exact .failed he hi
  | crashed hi => exact .crashed hi

theorem run_mapFailure {σ : Type} (handler : (q : Ask) → σ → q.Reply × σ) (f : ε → ε')
    (m : Flow ε α) (s : σ) :
    (m.mapFailure f).run handler s =
      match m.run handler s with
      | (.done a, s) => (.done a, s)
      | (.failed e, s) => (.failed (f e), s)
      | (.crashed x, s) => (.crashed x, s) := by
  unfold mapFailure
  induction m generalizing s with
  | done a => rfl
  | fail e => rfl
  | crash x => rfl
  | ask q k ih => exact ih _ _

theorem run_attempt {σ : Type} (handler : (q : Ask) → σ → q.Reply × σ) (m : Flow ε α) (s : σ) :
    (m.attempt : Flow ε' _).run handler s =
      match m.run handler s with
      | (.done a, s) => (.done (.ok a), s)
      | (.failed e, s) => (.done (.error e), s)
      | (.crashed x, s) => (.crashed x, s) := by
  induction m generalizing s with
  | done a => rfl
  | fail e => rfl
  | crash x => rfl
  | ask q k ih => exact ih _ _

theorem matches_mapFailure {F : ε₁ → ε₁' → Prop} {f : ε₁ → ε} {f' : ε₁' → ε'} {m : Flow ε₁ α}
    {m' : Flow ε₁' α'} (hf : ∀ e e', F e e' → E (f e) (f' e'))
    (h : m.Matches o o' I F Q m' s s') :
    (m.mapFailure f).Matches o o' I E Q (m'.mapFailure f') s s' := by
  unfold Matches at h ⊢
  rw [run_mapFailure, run_mapFailure]
  generalize m.run (Scene.next o) s = r at h ⊢
  generalize m'.run (Scene.next o') s' = r' at h ⊢
  obtain ⟨e, t⟩ := r
  obtain ⟨e', t'⟩ := r'
  cases h with
  | done h => exact .done h
  | failed he hi => exact .failed (hf _ _ he) hi
  | crashed hi => exact .crashed hi

theorem matches_attempt {E' : ε₁ → ε₁' → Prop}
    {Q : Except ε₁ α → Except ε₁' α' → Scene → Scene → Prop} {m : Flow ε₁ α} {m' : Flow ε₁' α'}
    (h : m.Matches o o' I E' (fun a a' => Q (.ok a) (.ok a')) m' s s')
    (he : ∀ e e' t t', E' e e' → I t t' → Q (.error e) (.error e') t t') :
    (m.attempt : Flow ε _).Matches o o' I E Q (m'.attempt : Flow ε' _) s s' := by
  unfold Matches at h ⊢
  rw [run_attempt, run_attempt]
  generalize m.run (Scene.next o) s = r at h ⊢
  generalize m'.run (Scene.next o') s' = r' at h ⊢
  obtain ⟨e, t⟩ := r
  obtain ⟨e', t'⟩ := r'
  cases h with
  | done h => exact .done h
  | failed he' hi => exact .done (he _ _ _ _ he' hi)
  | crashed hi => exact .crashed hi

theorem matches_ofOption {E : ε → ε → Prop} {e : ε} {a? : Option α}
    {Q : α → α → Scene → Scene → Prop} (hn : E e e) (hi : I s s')
    (ha : ∀ a, a? = some a → Q a a s s') :
    (ofOption e a?).Matches o o' I E Q (ofOption e a?) s s' := by
  cases a? with
  | none => exact .failed hn hi
  | some a => exact .done (ha a rfl)

end Flow

/-! ## Flows that leave the stores alone -/

/-- The question is not for a store. -/
def Ask.Apart : Ask → Prop
  | .users .. => False
  | .tokens .. => False
  | _ => True

/-- Such a question is answered by the surroundings. -/
theorem Stores.serve_apart {o : Surroundings} {n : Nat} (d : Stores) {q : Ask} (hq : q.Apart) :
    d.serve o n q = (o.reply n q, false, d) := by
  cases q with
  | users l c => exact hq.elim
  | tokens l c => exact hq.elim
  | _ => rfl

namespace Flow

/-- The flow asks nothing of the stores. -/
inductive Apart {ε α : Type} : Flow ε α → Prop
  | done {a} : Apart (.done a)
  | fail {e} : Apart (.fail e)
  | crash {x} : Apart (.crash x)
  | ask {q k} : q.Apart → (∀ r, Apart (k r)) → Apart (.ask q k)

/-- A flow that asks nothing of the stores leaves them as they are, and ends alike wherever it
    starts at the same moment. -/
theorem Apart.run {ε α : Type} {o : Surroundings} {m : Flow ε α} (hm : m.Apart) {s s' : Scene}
    (h : s.moment = s'.moment) :
    (m.run (Scene.next o) s).1 = (m.run (Scene.next o) s').1 ∧
      (m.run (Scene.next o) s).2.moment = (m.run (Scene.next o) s').2.moment ∧
      (m.run (Scene.next o) s).2.toStores = s.toStores ∧
      (m.run (Scene.next o) s').2.toStores = s'.toStores := by
  induction hm generalizing s s' with
  | done => exact ⟨rfl, h, rfl, rfl⟩
  | fail => exact ⟨rfl, h, rfl, rfl⟩
  | crash => exact ⟨rfl, h, rfl, rfl⟩
  | @ask q k hq hk ih =>
    have hnext : ∀ t : Scene, (Scene.next o q t).1 = o.reply t.moment q ∧
        (Scene.next o q t).2.toStores = t.toStores := by
      intro t
      simp [Scene.next, Stores.serve_apart _ hq]
    have hsame : (Scene.next o q s).1 = (Scene.next o q s').1 := by
      rw [(hnext s).1, (hnext s').1, h]
    have hlater : (Scene.next o q s).2.moment = (Scene.next o q s').2.moment :=
      congrArg (· + 1) h
    obtain ⟨he, hm, hs, hs'⟩ := ih (Scene.next o q s).1 hlater
    simp only [Flow.run, ← hsame]
    exact ⟨he, hm, hs.trans (hnext s).2, hs'.trans (hnext s').2⟩

theorem apart_log {ε : Type} {e : Event} : (Flow.log e : Flow ε Unit).Apart :=
  .ask trivial fun _ => .done

theorem Apart.bind {ε α β : Type} {m : Flow ε α} {f : α → Flow ε β} (hm : m.Apart)
    (hf : ∀ a, (f a).Apart) : (m >>= f).Apart := by
  induction hm with
  | done => exact hf _
  | fail => exact .fail
  | crash => exact .crash
  | ask hq _ ih => exact .ask hq ih

theorem Apart.attempt {ε ε' α : Type} {m : Flow ε α} (hm : m.Apart) :
    (m.attempt : Flow ε' _).Apart := by
  induction hm with
  | done => exact .done
  | fail => exact .done
  | crash => exact .crash
  | ask hq _ ih => exact .ask hq ih

end Flow

/-! ### Parts of operations -/

namespace Service

open Gatehouse.Flow

variable {cfg : Settings}

theorem apart_now : now.Apart := .ask trivial fun _ => .done

theorem apart_ofExcept {ε α : Type} (a? : Except ε α) : (ofExcept a?).Apart := by
  cases a? with
  | error e => exact .fail
  | ok a => exact .done

theorem apart_hash (password : String) : (hash password).Apart := .ask trivial apart_ofExcept

theorem apart_draw : draw.Apart := .ask trivial apart_ofExcept

theorem apart_verify (password : String) (digest : Option String) :
    (verify password digest).Apart := by
  cases digest with
  | none => exact .ask trivial fun _ => .done
  | some digest => exact .ask trivial fun _ => .done

theorem apart_issue (u : User) (t : Instant) : (issue u t).Apart := by
  refine .ask trivial ?_
  rintro (x | r)
  · exact .crash
  · exact apart_ofExcept _

theorem apart_validate (token : String) : (validate token).Apart :=
  apart_now.bind fun _ => .ask trivial fun _ => apart_ofExcept _

theorem apart_deliver (id : UserId) (m : Mail) : (deliver cfg id m).Apart := by
  refine .ask trivial fun r => ?_
  cases mailError? cfg.mailLimit r with
  | none => exact .done
  | some e => exact apart_log

theorem apart_checkAlive (t : Token) (time : Instant) : (checkAlive t time).Apart := by
  unfold checkAlive
  split_ifs
  · exact .fail
  · exact .fail
  · exact .done

theorem apart_nextVersion (version : Int) : (nextVersion version).Apart := by
  unfold nextVersion
  split_ifs
  · exact .done
  · exact .crash

end Service

end Gatehouse
