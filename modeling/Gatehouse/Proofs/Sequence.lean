/-
  Gatehouse — calls that are made one after another.

  Everything that the stores do not decide is fixed by the `Surroundings`: what is replied
  at the n-th exchange of a run, and which store calls are lost. In given surroundings a call
  is made from its beginning to its end before the next one (`State.conduct`).

  A call that is made alone sees no more of a state than its `Scene`: the stores, and how
  many exchanges there were. `Flow.Ensures` says how a flow that starts in a scene ends.

  * `State.conduct_steps`: what is conducted is a number of steps, so that all that holds of
    calls which take turns holds of calls which do not;
  * `State.conduct_ensures`: a call that is conducted does what its flow does to the scene;
  * `Flow.ensures_bind`: the rule for the way in which operations are put together.
-/
import Gatehouse.Proofs.Rehearsal

namespace Gatehouse

/-! ## Surroundings -/

/-- What becomes of a store call. -/
inductive Fate
  | served
  /-- The caller sees an error, or no answer in time, whether or not the store has carried
      the call out. -/
  | lost (error : Option StoreError) (carriedOut : Bool)

/-- What the caller sees of a call with a given result, and whether it took effect. -/
def Fate.settle {α : Type} (result : Except StoreError α) :
    Fate → Option (Except StoreError α) × Bool
  | served => (some result, result.isOk)
  | lost error carriedOut => (error.map .error, carriedOut && result.isOk)

theorem Fate.served_settle {α : Type} (result : Except StoreError α) (f : Fate) :
    Served result (f.settle result).1 (f.settle result).2 := by
  cases f with
  | served => exact .answered
  | lost error carriedOut =>
    refine .lost (fun a h => ?_) fun h => (Bool.and_eq_true_iff.1 h).2
    cases error <;> cases h

/-- What is replied at each exchange of a run to a question that is not for a store, and what
    becomes of a store call. -/
structure Surroundings where
  reply : Nat → (q : Ask) → q.Reply
  fate : Nat → Fate

/-- The reply to a question at the `n`-th exchange, whether a store has carried it out, and the
    stores afterwards. -/
def Stores.serve (o : Surroundings) (n : Nat) (d : Stores) : (q : Ask) → q.Reply × Bool × Stores
  | .users _ c =>
    let (result, users) := d.users.perform c
    let (reply, took) := (o.fate n).settle result
    (reply, took, if took then { d with users := users } else d)
  | .tokens _ c =>
    let (result, tokens) := d.tokens.perform c
    let (reply, took) := (o.fate n).settle result
    (reply, took, if took then { d with tokens := tokens } else d)
  | q => (o.reply n q, false, d)

theorem Stores.replies_serve (o : Surroundings) (n : Nat) (d : Stores) (q : Ask) :
    d.Replies q (d.serve o n q).1 (d.serve o n q).2.1 (d.serve o n q).2.2 := by
  cases q with
  | users l c => exact ⟨Fate.served_settle _ _, rfl⟩
  | tokens l c => exact ⟨Fate.served_settle _ _, rfl⟩
  | _ => exact ⟨rfl, rfl⟩

/-! ## One call after another -/

/-- The flow that has nothing left to do. -/
def Ending.flow {ε α : Type} : Ending ε α → Flow ε α
  | done a => .done a
  | failed e => .fail e
  | crashed o => .crash o

/-- Stores without a record. -/
def Stores.empty : Stores := ⟨{}, {}⟩

namespace State

/-- Answer a question of a call, and write the exchange down. -/
def next (o : Surroundings) (i : Nat) (c : Call) (q : Ask) (s : State) : q.Reply × State :=
  let (r, took, after) := s.toStores.serve o s.log.length q
  (r, { after with tasks := s.tasks, log := s.log ++ [⟨i, c, ⟨q, r⟩, took⟩] })

/-- Make a call from its beginning to its end. -/
def conduct (cfg : Settings) (o : Surroundings) (s : State) (c : Call) : State :=
  let (ending, after) := (c.flow cfg).run (next o s.tasks.length c) s
  { after with tasks := s.tasks ++ [⟨c, ending.flow⟩] }

/-- Make calls one after another, on stores that are empty at first. -/
def sequence (cfg : Settings) (o : Surroundings) (calls : List Call) : State :=
  calls.foldl (conduct cfg o) (start .empty)

/-- The time of day that the next call reads, if that is what it does first. -/
def clock (o : Surroundings) (s : State) : Instant := o.reply s.log.length .now

/-- A call that is made next returns. -/
def Accepts (cfg : Settings) (o : Surroundings) (s : State) (c : Call) : Prop :=
  ∃ v, (s.conduct cfg o c).Returned s.tasks.length c v

instance (cfg : Settings) (o : Surroundings) (s : State) (c : Call) :
    Decidable (s.Accepts cfg o c) :=
  decidable_of_iff ((s.conduct cfg o c).outcome? s.tasks.length = some (c, true))
    ⟨returned_of_outcome, fun ⟨_, h⟩ => outcome_of_returned h⟩

/-- A call that is made next fails, with this error. -/
def Refuses (cfg : Settings) (o : Surroundings) (s : State) (c : Call) (e : c.Failure) : Prop :=
  (s.conduct cfg o c).tasks[s.tasks.length]? = some ⟨c, .fail e⟩

variable {cfg : Settings} {o : Surroundings}

theorem run_steps (i : Nat) (c : Call) (m : Flow c.Failure c.Value) (tasks : List Task)
    (hi : tasks.length = i) (s : State) :
    Steps cfg { s with tasks := tasks ++ [⟨c, m⟩] }
      { (m.run (next o i c) s).2 with
        tasks := tasks ++ [⟨c, (m.run (next o i c) s).1.flow⟩] } := by
  subst hi
  induction m generalizing s with
  | done a => exact .refl
  | fail e => exact .refl
  | crash x => exact .refl
  | ask q k ih =>
    refine .head ?_ (ih _ (next o tasks.length c q s).2)
    have ht : (tasks ++ [(⟨c, .ask q k⟩ : Task)])[tasks.length]? = some ⟨c, .ask q k⟩ := by simp
    have hs : Step cfg _ _ := .turn (s := { s with tasks := tasks ++ [⟨c, .ask q k⟩] }) ht
      (Stores.replies_serve o s.log.length s.toStores q)
    rwa [List.set_append_right _ _ le_rfl, Nat.sub_self] at hs

/-- What is conducted is a number of steps. -/
theorem conduct_steps (s : State) (c : Call) : Steps cfg s (s.conduct cfg o c) :=
  .head (.arrive c) (run_steps _ c (c.flow cfg) s.tasks rfl s)

theorem sequence_concat (calls : List Call) (c : Call) :
    sequence cfg o (calls ++ [c]) = (sequence cfg o calls).conduct cfg o c := by
  simp [sequence]

/-- A sequence of calls is a run. -/
theorem sequence_runs (calls : List Call) : Runs cfg .empty (sequence cfg o calls) := by
  induction calls using List.reverseRecOn with
  | nil => exact .refl
  | append_singleton calls c ih =>
    rw [sequence_concat]
    exact ih.trans (conduct_steps _ c)

end State

/-! ## Scenes -/

/-- The time of day, as it was read. -/
def Exchange.reading? : Exchange → Option Instant
  | ⟨.now, t⟩ => some t
  | _ => none

/-- The times of day that were read. -/
def History.readings (h : History) : List Instant := h.filterMap Exchange.reading?

/-- What a call that is made alone goes by: the stores, how many exchanges there were before,
    the tokens that the call was to add, and the times of day that it has read. -/
structure Scene extends Stores where
  moment : Nat
  minted : List Token := []
  readings : List Instant := []

namespace Scene

/-- Answer a question. -/
def next (o : Surroundings) (q : Ask) (s : Scene) : q.Reply × Scene :=
  let (r, _, after) := s.toStores.serve o s.moment q
  let x : Exchange := ⟨q, r⟩
  (r, { after with
    moment := s.moment + 1
    minted := x.minted?.toList ++ s.minted
    readings := x.reading?.toList ++ s.readings })

end Scene

/-- What the exchanges show that are all of one caller. -/
theorem mem_view_of_caller {β : Type} {f : Exchange → Option β} {i j : Nat} {log : List Entry}
    {x : β} (h : ∀ e ∈ log, e.caller = j) :
    x ∈ (historyOf i log).filterMap f ↔ i = j ∧ ∃ e ∈ log, f e.exchange = some x := by
  simp only [List.mem_filterMap, mem_historyOf]
  constructor
  · rintro ⟨_, ⟨e, he, rfl, rfl⟩, hx⟩
    exact ⟨h e he, e, he, hx⟩
  · rintro ⟨rfl, e, he, hx⟩
    exact ⟨_, ⟨e, he, h e he, rfl⟩, hx⟩

/-- The scene before a call. -/
def State.scene (s : State) : Scene := { s.toStores with moment := s.log.length }

/-- The scene of a call that was made alone from the state `s₀`, whose exchanges have led to the
    state `s`. -/
structure Scene.Shows (i : Nat) (s₀ s : State) (sc : Scene) : Prop where
  stores : sc.toStores = s.toStores
  moment : sc.moment = s.log.length
  log : ∃ new, s.log = s₀.log ++ new ∧ (∀ e ∈ new, e.caller = i) ∧
    (∀ t, t ∈ sc.minted ↔ ∃ e ∈ new, e.exchange.minted? = some t) ∧
    ∀ t, t ∈ sc.readings ↔ ∃ e ∈ new, e.exchange.reading? = some t

section

variable {cfg : Settings} {o : Surroundings} {ε α : Type} {s₀ s : State} {sc : Scene}

theorem Scene.shows_start (i : Nat) (s : State) : s.scene.Shows i s s where
  stores := rfl
  moment := rfl
  log := ⟨[], by simp [State.scene]⟩

theorem Scene.Shows.next {i : Nat} (h : sc.Shows i s₀ s) (c : Call) (q : Ask) :
    (Scene.next o q sc).1 = (State.next o i c q s).1 ∧
      (Scene.next o q sc).2.Shows i s₀ (State.next o i c q s).2 := by
  obtain ⟨hstores, hmoment, new, hlog, hcaller, hminted, hreadings⟩ := h
  obtain ⟨d, n, minted, readings⟩ := sc
  cases hstores; cases hmoment
  refine ⟨rfl, rfl, by simp [Scene.next, State.next],
    new ++ [⟨i, c, ⟨q, (s.toStores.serve o s.log.length q).1⟩,
      (s.toStores.serve o s.log.length q).2.1⟩], ?_, ?_, fun t => ?_, fun t => ?_⟩
  · rw [← List.append_assoc, ← hlog]
    rfl
  · simpa [or_imp, forall_and] using hcaller
  · simp only [Scene.next, List.mem_append, Option.mem_toList, hminted, List.mem_singleton,
      or_and_right, exists_or, exists_eq_left]
    exact or_comm
  · simp only [Scene.next, List.mem_append, Option.mem_toList, hreadings, List.mem_singleton,
      or_and_right, exists_or, exists_eq_left]
    exact or_comm

theorem Scene.Shows.run {i : Nat} (h : sc.Shows i s₀ s) (c : Call) (m : Flow ε α) :
    (m.run (Scene.next o) sc).1 = (m.run (State.next o i c) s).1 ∧
      (m.run (Scene.next o) sc).2.Shows i s₀ (m.run (State.next o i c) s).2 := by
  induction m generalizing s sc with
  | done a => exact ⟨rfl, h⟩
  | fail e => exact ⟨rfl, h⟩
  | crash x => exact ⟨rfl, h⟩
  | ask q k ih =>
    obtain ⟨hr, hs⟩ := h.next (o := o) c q
    simp only [Flow.run, ← hr]
    exact ih _ hs

theorem Scene.run_moment (m : Flow ε α) (sc : Scene) :
    sc.moment ≤ (m.run (Scene.next o) sc).2.moment := by
  induction m generalizing sc with
  | done a => exact le_rfl
  | fail e => exact le_rfl
  | crash x => exact le_rfl
  | ask q k ih => exact (Nat.le_succ _).trans (ih _ (Scene.next o q sc).2)

end

/-! ## How a flow ends -/

namespace Flow

variable {o : Surroundings} {ε ε' α β : Type} {s : Scene}

/-- A flow that runs alone in the scene ends in a way, and leaves a scene, that satisfy `Ψ`. -/
def Ensures (o : Surroundings) (m : Flow ε α) (s : Scene) (Ψ : Ending ε α → Scene → Prop) : Prop :=
  Ψ (m.run (Scene.next o) s).1 (m.run (Scene.next o) s).2

theorem ensures_done {a : α} {Ψ : Ending ε α → Scene → Prop} (h : Ψ (.done a) s) :
    (pure a : Flow ε α).Ensures o s Ψ := h

theorem ensures_fail {e : ε} {Ψ : Ending ε α → Scene → Prop} (h : Ψ (.failed e) s) :
    (fail e : Flow ε α).Ensures o s Ψ := h

theorem ensures_bind {m : Flow ε α} {f : α → Flow ε β} {Ψ : Ending ε β → Scene → Prop}
    (h : m.Ensures o s fun e s' =>
      match e with
      | .done a => (f a).Ensures o s' Ψ
      | .failed e => Ψ (.failed e) s'
      | .crashed x => Ψ (.crashed x) s') : (m >>= f).Ensures o s Ψ := by
  unfold Ensures at h ⊢
  rw [run_bind]
  generalize m.run (Scene.next o) s = r at h ⊢
  obtain ⟨e, s'⟩ := r
  cases e <;> exact h

theorem ensures_mapFailure {f : ε → ε'} {m : Flow ε α} {Ψ : Ending ε' α → Scene → Prop}
    (h : m.Ensures o s fun e s' =>
      match e with
      | .done a => Ψ (.done a) s'
      | .failed e => Ψ (.failed (f e)) s'
      | .crashed x => Ψ (.crashed x) s') : (m.mapFailure f).Ensures o s Ψ := by
  unfold mapFailure
  induction m generalizing s with
  | done a => exact h
  | fail e => exact h
  | crash x => exact h
  | ask q k ih => exact ih _ h

theorem ensures_attempt {m : Flow ε α} {Ψ : Ending ε' (Except ε α) → Scene → Prop}
    (h : m.Ensures o s fun e s' =>
      match e with
      | .done a => Ψ (.done (.ok a)) s'
      | .failed e => Ψ (.done (.error e)) s'
      | .crashed x => Ψ (.crashed x) s') : (m.attempt).Ensures o s Ψ := by
  induction m generalizing s with
  | done a => exact h
  | fail e => exact h
  | crash x => exact h
  | ask q k ih => exact ih _ h

theorem ensures_ofOption {e : ε} {a? : Option α} {Ψ : Ending ε α → Scene → Prop}
    (hn : a? = none → Ψ (.failed e) s) (ha : ∀ a, a? = some a → Ψ (.done a) s) :
    (ofOption e a?).Ensures o s Ψ := by
  cases a? with
  | none => exact hn rfl
  | some a => exact ha a rfl

theorem ensures_ofExcept {a? : Except ε α} {Ψ : Ending ε α → Scene → Prop}
    (he : ∀ e, a? = .error e → Ψ (.failed e) s) (ha : ∀ a, a? = .ok a → Ψ (.done a) s) :
    (ofExcept a?).Ensures o s Ψ := by
  cases a? with
  | error e => exact he e rfl
  | ok a => exact ha a rfl

theorem Ensures.run {m : Flow ε α} {Ψ : Ending ε α → Scene → Prop} (h : m.Ensures o s Ψ) :
    Ψ (m.run (Scene.next o) s).1 (m.run (Scene.next o) s).2 := h

end Flow

/-! ## One call -/

/-- An ending is left behind as it is. -/
theorem Ending.flow_eq_done {ε α : Type} {e : Ending ε α} {a : α} :
    e.flow = .done a ↔ e = .done a := by
  cases e <;> simp [Ending.flow]

namespace State

/-- A call was made alone from a state: how it has ended, and what it has left. -/
structure Conducted (cfg : Settings) (o : Surroundings) (s : State) (c : Call)
    (e : Ending c.Failure c.Value) (sc : Scene) : Prop where
  tasks : (s.conduct cfg o c).tasks = s.tasks ++ [⟨c, e.flow⟩]
  stores : (s.conduct cfg o c).toStores = sc.toStores
  moment : (s.conduct cfg o c).log.length = sc.moment
  later : s.log.length ≤ sc.moment
  minted : ∀ i t, t ∈ (historyOf i (s.conduct cfg o c).log).minted ↔
    t ∈ (historyOf i s.log).minted ∨ i = s.tasks.length ∧ t ∈ sc.minted
  readings : ∀ i t, t ∈ (historyOf i (s.conduct cfg o c).log).readings ↔
    t ∈ (historyOf i s.log).readings ∨ i = s.tasks.length ∧ t ∈ sc.readings

section

variable {cfg : Settings} {o : Surroundings} {s : State} {c : Call}
  {e : Ending c.Failure c.Value} {sc : Scene}

/-- A call that is made next has the ending that is left behind. -/
theorem Conducted.latest (h : s.Conducted cfg o c e sc) :
    (s.conduct cfg o c).tasks[s.tasks.length]? = some ⟨c, e.flow⟩ := by
  rw [h.tasks, List.getElem?_concat_length]

/-- What a call before has come to is not touched. -/
theorem Conducted.kept (h : s.Conducted cfg o c e sc) {i : Nat} {x : Task}
    (hx : s.tasks[i]? = some x) : (s.conduct cfg o c).tasks[i]? = some x := by
  rw [h.tasks, getElem?_append_of_some hx]

theorem Conducted.accepts_iff (h : s.Conducted cfg o c e sc) :
    s.Accepts cfg o c ↔ ∃ v, e = .done v := by
  refine exists_congr fun v => ?_
  rw [Returned, h.latest, ← Ending.flow_eq_done]
  simp

/-- What had returned before a call has returned after it, and so has the call. -/
theorem Conducted.returned_iff (h : s.Conducted cfg o c e sc) {i : Nat} {c' : Call} {v : c'.Value} :
    (s.conduct cfg o c).Returned i c' v ↔
      s.Returned i c' v ∨ i = s.tasks.length ∧ (⟨c, e.flow⟩ : Task) = ⟨c', .done v⟩ := by
  unfold Returned
  rcases lt_trichotomy i s.tasks.length with hi | rfl | hi
  · rw [h.tasks, List.getElem?_append_left hi]
    exact (or_iff_left fun h => hi.ne h.1).symm
  · rw [h.latest, List.getElem?_eq_none le_rfl]
    simp
  · have hout : (s.tasks ++ [(⟨c, e.flow⟩ : Task)])[i]? = none :=
      List.getElem?_eq_none (by rw [List.length_append]; exact hi)
    rw [h.tasks, hout, List.getElem?_eq_none hi.le]
    simp [hi.ne']

/-- Since a call, there were those that had been there before, and the latest. -/
theorem Conducted.since (h : s.Conducted cfg o c e sc) {i : Nat} (hi : i < s.tasks.length) :
    (s.conduct cfg o c).tasks.drop (i + 1) = s.tasks.drop (i + 1) ++ [⟨c, e.flow⟩] := by
  rw [h.tasks, List.drop_append_of_le_length hi]

/-- Since the latest call there was none. -/
theorem Conducted.since_latest (h : s.Conducted cfg o c e sc) :
    (s.conduct cfg o c).tasks.drop (s.tasks.length + 1) = [] := by
  rw [h.tasks]
  exact List.drop_eq_nil_of_le (by simp)

/-- A call that is made alone does to the state what its flow does to the scene. -/
theorem conduct_ensures (s : State) (c : Call)
    {Ψ : Ending c.Failure c.Value → Scene → Prop} (h : (c.flow cfg).Ensures o s.scene Ψ) :
    ∃ e sc, s.Conducted cfg o c e sc ∧ Ψ e sc := by
  obtain ⟨he, hstores, hmoment, new, hlog, hcaller, hminted, hreadings⟩ :=
    (Scene.shows_start s.tasks.length s).run (o := o) c (c.flow cfg)
  have hlater := Scene.run_moment (o := o) (c.flow cfg) s.scene
  have hlog : (s.conduct cfg o c).log = s.log ++ new := hlog
  refine ⟨_, _, ⟨?_, hstores.symm, hmoment.symm, hlater, fun i t => ?_, fun i t => ?_⟩, h.run⟩
  · exact congrArg (fun e => s.tasks ++ [(⟨c, e.flow⟩ : Task)]) he.symm
  · rw [hlog, historyOf_append, History.minted, List.filterMap_append, List.mem_append]
    exact or_congr Iff.rfl
      ((mem_view_of_caller hcaller).trans (and_congr_right' (hminted t).symm))
  · rw [hlog, historyOf_append, History.readings, List.filterMap_append, List.mem_append]
    exact or_congr Iff.rfl
      ((mem_view_of_caller hcaller).trans (and_congr_right' (hreadings t).symm))

end

end State

end Gatehouse
