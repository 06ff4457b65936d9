/-
  Gatehouse — what stops the sweeper.

  A sweeper waits for two things at once: a tick of its timer, and a change on the line on which it
  may be told to stop. The line keeps the last word alone, and forgets those before it; that there
  is word is noticed first, and what it is is looked at then, so that a later word may have come in
  between. Which of all this happens when is left open (`Sweeper.Occasion`), and so is what the
  clock and the store reply.

  * `Sweeper.react_tick`: what a sweeper does for a tick, whatever comes of it;
  * `Sweeper.loop_through`: a sweeper goes on through all that does not tell it to stop;
  * `Sweeper.fares`: it sweeps once for each tick, until it sees that it is to stop or that nobody
    is left who could tell it to.
-/
import Gatehouse.Proofs.Outages
import Gatehouse.Service.Sweeper

namespace Gatehouse

/-! ## Exchanges of a sequence -/

/-- The exchanges of a sequence are those of the first part, and then those of the second from where
    it ended. -/
theorem Flow.record_bind {ε α β σ : Type} (handler : (q : Ask) → σ → q.Reply × σ) (m : Flow ε α)
    (f : α → Flow ε β) (s : σ) :
    (m >>= f).record handler s = m.record handler s ++
      match m.run handler s with
      | (.done a, s) => (f a).record handler s
      | _ => [] := by
  induction m generalizing s with
  | done a => rfl
  | fail e => rfl
  | crash o => rfl
  | ask q k ih => exact congrArg (_ :: ·) (ih (handler q s).1 (handler q s).2)

namespace Sweeper

/-! ## One waking -/

/-- What is written down of a sweep, from the reply of the store. -/
def line? (s : Sweeper) : Option (Except StoreError Nat) → Option Event
  | some (.ok 0) => none
  | some (.ok n) => some (.swept n)
  | some (.error e) => some (.sweepFailed (SweepError.store e).message)
  | none => some (.sweepFailed (SweepError.timedOut s.timeout).message)

/-- A reading of the clock, and what came of the sweep that followed it. -/
structure Round where
  clock : Instant
  reply : Option (Except StoreError Nat)

/-- The exchanges for one tick: the clock is read, what had expired by then is swept, and what came
    of it is written down. -/
def round (s : Sweeper) (x : Round) : History :=
  [⟨.now, x.clock⟩, ⟨.tokens s.timeout (.sweepExpired x.clock), x.reply⟩] ++
    (s.line? x.reply).toList.map fun e => ⟨.log e, ()⟩

/-- The sweeper is to go on. -/
def Wake.goesOn : Wake → Bool
  | .tick => true
  | .told stop => !stop
  | .forsaken => false

variable {σ : Type} (handler : (q : Ask) → σ → q.Reply × σ) (s : Sweeper)

/-- What a sweeper does once the store has replied. -/
def conclude (s : Sweeper) (reply : Option (Except StoreError Nat)) : Flow Empty Bool := do
  report (← (swept s.timeout reply).attempt)
  return true

/-- Whatever the store has replied, there is at most a line to write, and the sweeper goes on. -/
theorem conclude_run (reply : Option (Except StoreError Nat)) (a : σ) :
    (∃ b, (s.conclude reply).run handler a = (.done true, b)) ∧
      (s.conclude reply).record handler a =
        (s.line? reply).toList.map fun e => ⟨.log e, ()⟩ := by
  rcases reply with _ | e | n | n <;> exact ⟨⟨_, rfl⟩, rfl⟩

/-- **A tick is swept for once,** and the sweeper goes on whatever comes of it. -/
theorem react_tick (a : σ) : ∃ x b, (s.react .tick).run handler a = (.done true, b) ∧
    (s.react .tick).record handler a = s.round x := by
  have hreact : s.react .tick = .ask .now fun t =>
    .ask (.tokens s.timeout (.sweepExpired t)) s.conclude := rfl
  let t : Instant := (handler .now a).1
  let swept := handler (.tokens s.timeout (.sweepExpired t)) (handler .now a).2
  obtain ⟨⟨b, hrun⟩, hrecord⟩ := s.conclude_run handler swept.1 swept.2
  refine ⟨⟨t, swept.1⟩, b, ?_, ?_⟩
  · rw [hreact]
    exact hrun
  · rw [hreact]
    exact congrArg (⟨.now, t⟩ :: ⟨.tokens s.timeout (.sweepExpired t), swept.1⟩ :: ·) hrecord

/-! ## Many wakings -/

/-- As long as nothing tells it to stop, a sweeper sweeps once for each tick, and goes on. -/
theorem loop_through {ws : List Wake} (hws : ∀ w ∈ ws, w.goesOn = true) (rest : List Wake) (a : σ) :
    ∃ (rounds : List Round) (b : σ), rounds.length = ws.count .tick ∧
      (s.loop (ws ++ rest)).run handler a = (s.loop rest).run handler b ∧
      (s.loop (ws ++ rest)).record handler a =
        rounds.flatMap s.round ++ (s.loop rest).record handler b := by
  induction ws generalizing a with
  | nil => exact ⟨[], a, rfl, rfl, rfl⟩
  | cons w ws ih =>
    have hloop : s.loop (w :: ws ++ rest) = s.react w >>= fun on =>
      if on then s.loop (ws ++ rest) else do stopped; return some (ws ++ rest) := rfl
    have hnext := fun a => ih (fun w hw => hws w (List.mem_cons_of_mem _ hw)) a
    cases w with
    | tick =>
      obtain ⟨x, b, hrun, hrecord⟩ := s.react_tick handler a
      obtain ⟨rounds, c, hlength, hrest, hrests⟩ := hnext b
      refine ⟨x :: rounds, c, by simp [hlength], ?_, ?_⟩
      · rw [hloop, Flow.run_bind, hrun]
        exact hrest
      · rw [hloop, Flow.record_bind, hrun, hrecord, List.flatMap_cons, List.append_assoc, ← hrests]
        rfl
    | told stop =>
      obtain rfl : stop = false := by simpa [Wake.goesOn] using hws (.told stop) List.mem_cons_self
      obtain ⟨rounds, c, hlength, hrest, hrests⟩ := hnext a
      exact ⟨rounds, c, by simpa using hlength, hrest, hrests⟩
    | forsaken => cases hws .forsaken List.mem_cons_self

/-- What tells a sweeper to stop is the last thing it wakes for. -/
theorem loop_stopped {w : Wake} (hw : w.goesOn = false) (rest : List Wake) (a : σ) :
    ((s.loop (w :: rest)).run handler a).1 = .done (some rest) ∧
      (s.loop (w :: rest)).record handler a = [⟨.log .sweeperStopped, ()⟩] := by
  cases w with
  | tick => cases hw
  | told stop =>
    obtain rfl : stop = true := by simpa [Wake.goesOn] using hw
    exact ⟨rfl, rfl⟩
  | forsaken => exact ⟨rfl, rfl⟩

/-! ## The line -/

/-- The line on which a sweeper is told whether to stop. It keeps the last word alone. -/
structure Line where
  word : Bool := false
  /-- The last word has not been noticed. -/
  fresh : Bool := false
  /-- Somebody is left who could send word. -/
  held : Bool := true
  /-- It was noticed that there is word, but not yet looked at. -/
  alert : Bool := false

/-- What can happen around a sweeper, in whatever order. What happens on the line while a tick is
    swept for is as good as what happens after it. -/
inductive Occasion
  /-- The timer ticks, and the sweeper wakes for it. -/
  | tick
  /-- Word is sent. -/
  | sent (stop : Bool)
  /-- The last one leaves who could send word. -/
  | left
  /-- The sweeper wakes for the line, if there is anything to be noticed. -/
  | noticed
  /-- The sweeper looks what the last word is. -/
  | looked

namespace Line

/-- The line after an occasion. -/
def next (c : Line) : Occasion → Line
  | .tick => c
  | .sent stop => if c.held then { c with word := stop, fresh := true } else c
  | .left => { c with held := false }
  | .noticed => if c.alert then c else { c with fresh := false, alert := c.fresh }
  | .looked => { c with alert := false }

/-- What the sweeper wakes for at an occasion, as soon as it knows what it is. -/
def wake? (c : Line) : Occasion → Option Wake
  | .tick => if c.alert then none else some .tick
  | .noticed => if c.alert || c.fresh || c.held then none else some .forsaken
  | .looked => if c.alert then some (.told c.word) else none
  | _ => none

/-- The line after some occasions. -/
def after (c : Line) (l : List Occasion) : Line := l.foldl next c

/-- What the sweeper wakes for on some occasions. -/
def wakes (c : Line) : List Occasion → List Wake
  | [] => []
  | x :: l => (c.wake? x).toList ++ (c.next x).wakes l

/-- At the occasion, the sweeper sees that it is to stop, or that nobody is left who could tell it
    to. -/
def Ends (c : Line) (x : Occasion) : Prop :=
  x = .looked ∧ c.alert = true ∧ c.word = true ∨
    x = .noticed ∧ c.alert = false ∧ c.fresh = false ∧ c.held = false

/-- At none of the occasions, the sweeper sees such a thing. -/
def Calm (c : Line) (l : List Occasion) : Prop :=
  ∀ before x rest, l = before ++ x :: rest → ¬ (c.after before).Ends x

variable {c : Line} {x : Occasion} {l : List Occasion}

theorem wakes_append (c : Line) (l l' : List Occasion) :
    c.wakes (l ++ l') = c.wakes l ++ (c.after l).wakes l' := by
  induction l generalizing c with
  | nil => rfl
  | cons x l ih => rw [List.cons_append, wakes, wakes, ih, List.append_assoc]; rfl

/-- What ends its waiting is what the sweeper does not go on after. -/
theorem ends_iff : c.Ends x ↔ ∃ w, c.wake? x = some w ∧ w.goesOn = false := by
  cases x with
  | looked => cases c.alert <;> simp_all [Ends, wake?, Wake.goesOn]
  | noticed => simp [Ends, wake?, Wake.goesOn, and_assoc]
  | _ => simp [Ends, wake?, Wake.goesOn]

theorem calm_cons : c.Calm (x :: l) ↔ ¬ c.Ends x ∧ (c.next x).Calm l := by
  constructor
  · intro h
    refine ⟨h [] x l rfl, fun before y rest hl => ?_⟩
    exact h (x :: before) y rest (by rw [hl, List.cons_append])
  · rintro ⟨hx, hl⟩ before y rest h
    cases before with
    | nil =>
      cases h
      exact hx
    | cons z before =>
      obtain ⟨rfl, rfl⟩ := List.cons.inj h
      exact hl before y rest rfl

/-- On a calm line, the sweeper goes on after all that it wakes for. -/
theorem Calm.goesOn (h : c.Calm l) : ∀ w ∈ c.wakes l, w.goesOn = true := by
  induction l generalizing c with
  | nil => simp [wakes]
  | cons x l ih =>
    obtain ⟨hx, hl⟩ := calm_cons.1 h
    intro w hw
    rcases List.mem_append.1 hw with hw | hw
    · by_contra hstop
      exact hx (ends_iff.2 ⟨w, by simpa using hw, by simpa using hstop⟩)
    · exact ih hl w hw

-- Word that is taken back before the sweeper has looked is never seen.
example : wakes {} [.tick, .sent true, .noticed, .sent false, .looked, .tick] =
    [.tick, .told false, .tick] := rfl

/-- Either a line is calm, or there is a first occasion that ends the waiting. -/
theorem calm_or_ends (c : Line) (l : List Occasion) : c.Calm l ∨
    ∃ before x rest, l = before ++ x :: rest ∧ c.Calm before ∧ (c.after before).Ends x := by
  induction l generalizing c with
  | nil => exact .inl fun before x rest h => by cases before <;> cases h
  | cons x l ih =>
    by_cases hx : c.Ends x
    · exact .inr ⟨[], x, l, rfl, fun before y rest h => (by cases before <;> cases h), hx⟩
    · rcases ih (c.next x) with hl | ⟨before, y, rest, rfl, hbefore, hy⟩
      · exact .inl (calm_cons.2 ⟨hx, hl⟩)
      · exact .inr ⟨x :: before, y, rest, rfl, calm_cons.2 ⟨hx, hbefore⟩, hy⟩

end Line

/-! ## A whole life -/

/-- How a sweeper fares on some occasions: how its life ends, and the exchanges that it has. -/
inductive Fares (s : Sweeper) (c : Line) (l : List Occasion) :
    Ending Empty (Option (List Wake)) → History → Prop
  /-- Nothing has told it to stop. It has swept for each tick, and waits. -/
  | waiting {rounds : List Round} : c.Calm l → rounds.length = (c.wakes l).count .tick →
      Fares s c l (.done none)
        (⟨.log (.sweeperStarted s.interval s.timeout), ()⟩ :: rounds.flatMap s.round)
  /-- It has swept for each tick before it saw that it is to stop, and for none after that. -/
  | stopped {before x rest} {rounds : List Round} : l = before ++ x :: rest → c.Calm before →
      (c.after before).Ends x → rounds.length = (c.wakes before).count .tick →
      Fares s c l (.done (some ((c.after (before ++ [x])).wakes rest)))
        (⟨.log (.sweeperStarted s.interval s.timeout), ()⟩ :: rounds.flatMap s.round ++
          [⟨.log .sweeperStopped, ()⟩])

/-- **Nothing stops the sweeper but being told to,** or being left without anybody who could tell
    it, whatever the clock and the store reply. Until then it sweeps once for each tick, up to the
    time of that tick. -/
theorem fares (c : Line) (l : List Occasion) (a : σ) :
    s.Fares c l ((s.run (c.wakes l)).run handler a).1 ((s.run (c.wakes l)).record handler a) := by
  set b := (handler (.log (.sweeperStarted s.interval s.timeout)) a).2
  have hrun : ∀ ws, (s.run ws).run handler a = (s.loop ws).run handler b := fun _ => rfl
  have hrecord : ∀ ws, (s.run ws).record handler a =
      ⟨.log (.sweeperStarted s.interval s.timeout), ()⟩ :: (s.loop ws).record handler b :=
    fun _ => rfl
  rw [hrun, hrecord]
  rcases c.calm_or_ends l with hcalm | ⟨before, x, rest, rfl, hcalm, hx⟩
  · obtain ⟨rounds, d, hlength, hrest, hrests⟩ := s.loop_through handler hcalm.goesOn [] b
    rw [List.append_nil] at hrest hrests
    rw [hrest, hrests]
    have hwaiting := Fares.waiting (s := s) hcalm hlength
    rwa [← List.append_nil (rounds.flatMap s.round)] at hwaiting
  · obtain ⟨w, hw, hstop⟩ := Line.ends_iff.1 hx
    obtain ⟨rounds, d, hlength, hrest, hrests⟩ := s.loop_through handler hcalm.goesOn
      (w :: (c.after (before ++ [x])).wakes rest) b
    have hwakes : c.wakes (before ++ x :: rest) =
        c.wakes before ++ w :: (c.after (before ++ [x])).wakes rest := by
      rw [Line.wakes_append, Line.wakes, hw, Line.after, Line.after, List.foldl_append]
      rfl
    obtain ⟨hend, hlast⟩ := s.loop_stopped handler hstop ((c.after (before ++ [x])).wakes rest) d
    rw [hwakes, hrest, hrests, hend, hlast]
    exact .stopped rfl hcalm hx hlength

end Sweeper

end Gatehouse
