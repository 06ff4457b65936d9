/-
  Gatehouse — the sweeper.

  A task in the background that removes expired tokens at every tick of a timer, until it
  is told to stop or nobody is left who could tell it. `Sweeper.react` is what it does on
  waking, and `Sweeper.run` is its life: a sweep that fails or takes too long is logged,
  and the next tick sweeps again.
-/
import Gatehouse.Service.Flow

namespace Gatehouse

/-- Why a sweep removed nothing. -/
inductive SweepError
  | timedOut (limit : Span)
  | store (error : StoreError)
deriving DecidableEq, Repr

def SweepError.message : SweepError → String
  | timedOut limit => "Sweep timed out after " ++ limit.text
  | store e => "Sweep failed: " ++ e.message

/-- The result of a sweep, from the reply of the store. -/
def swept (limit : Span) : Option (Except StoreError Nat) → Flow SweepError Nat
  | some (.ok n) => .done n
  | some (.error e) => .fail (.store e)
  | none => .fail (.timedOut limit)

/-- Remove the tokens that are expired now, and count them. -/
def sweepOnce (limit : Span) : Flow SweepError Nat :=
  .ask .now fun t => .ask (.tokens limit (.sweepExpired t)) (swept limit)

/-- The timer of a sweeper, and the time that a sweep may take. -/
structure Sweeper where
  interval : Span
  timeout : Span
deriving DecidableEq, Repr

namespace Sweeper

/-- What a sweeper wakes for. -/
inductive Wake
  /-- The timer. -/
  | tick
  /-- A word on whether to stop. -/
  | told (stop : Bool)
  /-- Nobody is left who could tell it to stop. -/
  | forsaken
deriving DecidableEq, Repr

/-- Write down what a sweep came to. -/
def report : Except SweepError Nat → Flow Empty Unit
  | .ok 0 => .done ()
  | .ok n => .log (.swept n)
  | .error e => .log (.sweepFailed e.message)

/-- One waking; the result says whether to go on. -/
def react (s : Sweeper) : Wake → Flow Empty Bool
  | .tick => do
    report (← (sweepOnce s.timeout).attempt)
    return true
  | .told stop => return !stop
  | .forsaken => return false

/-- The first and the last words of a sweeper. -/
def started (s : Sweeper) : Flow Empty Unit := .log (.sweeperStarted s.interval s.timeout)

def stopped : Flow Empty Unit := .log .sweeperStopped

/-- Wake again and again. The result is what is left of the occasions once it has stopped. -/
def loop (s : Sweeper) : List Wake → Flow Empty (Option (List Wake))
  | [] => return none
  | w :: ws => do
    if ← s.react w then s.loop ws
    else
      stopped
      return some ws

/-- The life of a sweeper, as far as the occasions go. -/
def run (s : Sweeper) (wakes : List Wake) : Flow Empty (Option (List Wake)) := do
  s.started
  s.loop wakes

end Sweeper

/-! ## Ticks -/

/-- Ticks that are late by no more than this are not made up for. -/
def lateness : Span := .ofMillis 5

/-- When the tick after the one that was due at `due` and came at `now` is due. Ticks that
    were missed are left out, and the rhythm is kept. -/
def nextTick (interval due now : Nat) : Nat :=
  if now ≤ due + lateness.nanos then due + interval
  else now + interval - (now - due) % interval

end Gatehouse
