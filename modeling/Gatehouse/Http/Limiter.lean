/-
  Gatehouse — the attempt budget.

  A limiter admits at most a number of attempts of one client within a sliding window.
  Only admitted attempts count. Attempts that lie a window or more back are forgotten,
  and so are clients without remembered attempts. A limit of zero admits everything and
  remembers nothing.
-/
import Gatehouse.Time.Span

namespace Gatehouse

/-- The admitted attempts of a client, oldest first: readings of a clock in nanoseconds. -/
structure Attempts where
  client : String
  times : List Int
deriving DecidableEq, Repr

/-- A limiter with what it remembers. -/
structure Limiter where
  /-- The most attempts within the window; zero is no limit. -/
  most : Nat
  window : Span
  clients : List Attempts := []
deriving DecidableEq, Repr

namespace Limiter

/-- The earliest reading that a clock can give; its seconds are 64-bit numbers. -/
def earliest : Int := -0x8000000000000000 * Span.nanosPerSecond

/-- The reading a window ago, unless no clock can give one that early. -/
def cutoff? (l : Limiter) (reading : Int) : Option Int :=
  let cutoff := reading - l.window.nanos
  if earliest ≤ cutoff then some cutoff else none

/-- An attempt still counts: it came after the reading a window ago, or there is none. -/
def isLive (l : Limiter) (reading time : Int) : Bool :=
  (l.cutoff? reading).all fun cutoff => cutoff < time

/-- Forget what does not count any more. -/
def prune (l : Limiter) (reading : Int) : List Attempts :=
  (l.clients.map fun a => { a with times := a.times.filter (l.isLive reading) }).filter
    fun a => !a.times.isEmpty

/-- The remembered attempts of a client. -/
def timesOf (client : String) (clients : List Attempts) : List Int :=
  ((clients.find? (·.client == client)).map (·.times)).getD []

/-- Remember an attempt. -/
def remember (client : String) (time : Int) : List Attempts → List Attempts
  | [] => [⟨client, [time]⟩]
  | a :: as =>
    if a.client = client then { a with times := a.times ++ [time] } :: as
    else a :: remember client time as

/-- Whether one more attempt of a client is admitted, and the limiter afterwards. -/
def check (l : Limiter) (client : String) (reading : Int) : Bool × Limiter :=
  if l.most = 0 then (true, l)
  else
    let live := l.prune reading
    if l.most ≤ (timesOf client live).length then (false, { l with clients := live })
    else (true, { l with clients := remember client reading live })

/-- How many clients are remembered. -/
def tracked (l : Limiter) : Nat := l.clients.length

end Limiter

end Gatehouse
