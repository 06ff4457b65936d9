/-
  Gatehouse — trials of the sweeper.

  The sweeper runs in a trial's world, where time is moved by hand: `Sweeping.pass` lets a
  stretch of time go by, and everything that falls due before its end happens on time. A
  sweep that waits for the store is suspended, and goes on when the waiting is over.
-/
import Gatehouse.Service.Sweeper
import Gatehouse.Trial.World

namespace Gatehouse.Trial

/-- What the sweeper is about. Times are in nanoseconds from the start of the trial. -/
inductive Task
  /-- It was not started yet. -/
  | fresh
  /-- It waits for a tick, or for word to stop. -/
  | idle (due : Nat)
  /-- It waits for a reply, and the next tick is known. -/
  | busy (due wake : Nat) (resume : World → Flow Empty Bool × World)
  | stopped
  | panicked

/-- A trial of the sweeper. -/
structure Sweeping where
  sweeper : Sweeper
  world : World
  time : Nat := 0
  task : Task := .fresh
  /-- Somebody is left who can tell the sweeper to stop. -/
  attended : Bool := true
  /-- The last word that was sent and not heard yet. -/
  word : Option Bool := none

namespace Sweeping

/-- Go on with a waking, until it waits or is over. -/
def proceed (t : Sweeping) (due : Nat) : Flow Empty Bool → World → Sweeping
  | .done true, w => { t with world := w, task := .idle due }
  | .done false, w => { t with world := (w.run Sweeper.stopped).2, task := .stopped }
  | .fail e, _ => e.elim
  | .crash _, w => { t with world := w, task := .panicked }
  | .ask q k, w =>
    let (f, w) := w.enter q
    let wait := (wait q f).nanos
    if wait = 0 then
      let (r, w) := w.leave f q
      t.proceed due (k r) w
    else
      { t with
        world := w
        task := .busy due (t.time + wait) fun w =>
          let (r, w) := w.leave f q
          (k r, w) }

/-- Start: there are no ticks without an interval. -/
def start (t : Sweeping) : Sweeping :=
  if t.sweeper.interval.nanos = 0 then { t with task := .panicked }
  else { t with world := (t.world.run t.sweeper.started).2, task := .idle t.time }

/-- Wake for word to stop, or for being alone. -/
def heed (t : Sweeping) (due : Nat) : Option Sweeping :=
  match t.word, t.attended with
  | some stop, _ =>
    some ({ t with word := none }.proceed due (t.sweeper.react (.told stop)) t.world)
  | none, false => some (t.proceed due (t.sweeper.react .forsaken) t.world)
  | none, true => none

/-- Wake for a tick. -/
def tick (t : Sweeping) (due : Nat) : Sweeping :=
  let next := nextTick t.sweeper.interval.nanos due t.time
  t.proceed next (t.sweeper.react .tick) t.world

/-- The next thing that happens before a time, if there is one. -/
def next? (t : Sweeping) (before : Nat) : Option Sweeping :=
  let on (time : Nat) (f : Sweeping → Sweeping) : Option Sweeping :=
    let time := max t.time time
    if time < before then some (f { t with time }) else none
  match t.task with
  | .fresh => on t.time start
  | .idle due => (t.heed due).or (on due (·.tick due))
  | .busy due wake resume =>
    on wake fun t =>
      let (flow, w) := resume t.world
      t.proceed due flow w
  | .stopped | .panicked => none

/-- Let happen what happens before a time, in at most `fuel` wakings. -/
def settle : Nat → Nat → Sweeping → Sweeping
  | 0, _, t => t
  | fuel + 1, before, t =>
    match t.next? before with
    | some t => settle fuel before t
    | none => t

/-- Let a stretch of time go by. -/
def pass (t : Sweeping) (stretch : Span) : Sweeping :=
  let before := t.time + stretch.nanos
  let fuel := 4 * (before / t.sweeper.interval.nanos + 4)
  { settle fuel before t with time := before }

/-- Send word to the sweeper. The result says whether anybody listened; it is nothing if
    nobody is left to send it. -/
def tell (t : Sweeping) (stop : Bool) : Option Bool × Sweeping :=
  if !t.attended then (none, t)
  else
    match t.task with
    | .stopped | .panicked => (some false, t)
    | _ => (some true, { t with word := some stop })

/-- Nobody is left who could tell the sweeper to stop. -/
def leaveAlone (t : Sweeping) : Sweeping := { t with attended := false }

end Sweeping

end Gatehouse.Trial
