/-
  Gatehouse — runs that are worked out.

  A list of moves and a generator of secrets fix a run, in surroundings where the clock
  stands still, a digest is the marked password and every store call is answered. Each
  question of a call takes one turn.

  * `State.play_steps`: what is played is a number of steps.
-/
import Gatehouse.Proofs.Conduct

namespace Gatehouse

/-- A call arrives, or a call takes some turns. -/
inductive Move
  | call (c : Call)
  | turns (caller count : Nat)

/-- The digest of a password, readable. -/
def digestOf (password : String) : String := "#" ++ password

/-- What a question is answered at the `n`-th exchange, and what becomes of the stores. -/
def Stores.answer (draws : Nat → String) (n : Nat) (d : Stores) :
    (q : Ask) → q.Reply × Bool × Stores
  | .now => (⟨0, 0⟩, false, d)
  | .users _ c =>
    let (r, users) := d.users.perform c
    (some r, r.isOk, if r.isOk then { d with users := users } else d)
  | .tokens _ c =>
    let (r, tokens) := d.tokens.perform c
    (some r, r.isOk, if r.isOk then { d with tokens := tokens } else d)
  | .hash password => (.ok (digestOf password), false, d)
  | .verify password digest => (digest == digestOf password, false, d)
  | .verifyDecoy _ => (false, false, d)
  | .draw _ => (.ok (draws n), false, d)
  | .issue id _ _ t => (.ok (.ok ⟨"access for " ++ id.text, t⟩), false, d)
  | .parse _ _ => (.error .invalidSignature, false, d)
  | .send _ _ => (some (.ok ()), false, d)
  | .permit _ => (true, false, d)
  | .log _ => ((), false, d)

namespace State

/-- One turn of a call; a call that is over, or unknown, takes none. -/
def turn (draws : Nat → String) (i : Nat) (s : State) : State :=
  match s.tasks[i]? with
  | some ⟨c, .ask q k⟩ =>
    let (r, took, after) := s.toStores.answer draws s.log.length q
    { after with tasks := s.tasks.set i ⟨c, k r⟩, log := s.log ++ [⟨i, c, ⟨q, r⟩, took⟩] }
  | _ => s

/-- Some turns of a call. -/
def turns (draws : Nat → String) (i : Nat) : Nat → State → State
  | 0, s => s
  | n + 1, s => turns draws i n (s.turn draws i)

/-- Make the moves, one after the other. -/
def play (cfg : Settings) (draws : Nat → String) : List Move → State → State
  | [], s => s
  | .call c :: moves, s => play cfg draws moves { s with tasks := s.tasks ++ [⟨c, c.flow cfg⟩] }
  | .turns i n :: moves, s => play cfg draws moves (s.turns draws i n)

/-- The call of a task, and whether it has returned a value. -/
def outcome? (s : State) (i : Nat) : Option (Call × Bool) :=
  s.tasks[i]?.map fun
    | ⟨c, .done _⟩ => (c, true)
    | ⟨c, _⟩ => (c, false)

theorem returned_of_outcome {s : State} {i : Nat} {c : Call} (h : s.outcome? i = some (c, true)) :
    ∃ v, s.Returned i c v := by
  obtain ⟨⟨c', m⟩, hm, hc⟩ := Option.map_eq_some_iff.1 h
  split at hc
  · rename_i he
    cases he; cases hc
    exact ⟨_, hm⟩
  · cases hc

theorem outcome_of_returned {s : State} {i : Nat} {c : Call} {v : c.Value}
    (h : s.Returned i c v) : s.outcome? i = some (c, true) := by
  rw [outcome?, h]
  rfl

variable {cfg : Settings} {draws : Nat → String}

theorem replies_answer (d : Stores) (n : Nat) (q : Ask) :
    d.Replies q (d.answer draws n q).1 (d.answer draws n q).2.1 (d.answer draws n q).2.2 := by
  cases q with
  | users l c => exact ⟨.answered, rfl⟩
  | tokens l c => exact ⟨.answered, rfl⟩
  | _ => exact ⟨rfl, rfl⟩

theorem turn_steps (i : Nat) (s : State) : Steps cfg s (s.turn draws i) := by
  unfold turn
  split
  · rename_i hi
    exact .single (.turn hi (replies_answer _ _ _))
  · exact .refl

theorem turns_steps (i n : Nat) (s : State) : Steps cfg s (s.turns draws i n) := by
  induction n generalizing s with
  | zero => exact .refl
  | succ n ih => exact (turn_steps i s).trans (ih _)

/-- What is played is a number of steps. -/
theorem play_steps (moves : List Move) (s : State) : Steps cfg s (s.play cfg draws moves) := by
  induction moves generalizing s with
  | nil => exact .refl
  | cons move moves ih =>
    cases move with
    | call c => exact .head (.arrive c) (ih _)
    | turns i n => exact (turns_steps i n s).trans (ih _)

end State

/-! ## An account -/

/-- The record of an account that waits for its address to be confirmed. -/
def ada : User where
  id := ⟨"ada"⟩
  email := ⟨"ada@example.org", ⟨"ada@example.org", by decide +kernel⟩, by decide +kernel, rfl⟩
  name := ⟨"ada_l", by decide +kernel, by decide +kernel, by decide +kernel⟩
  passwordHash := digestOf "Old-pass-1"
  firstName := "Ada"
  lastName := "L"
  isActive := true
  emailVerified := false
  credentialVersion := 0
  createdAt := ⟨0, 0⟩
  updatedAt := ⟨0, 0⟩

/-- Stores with this account, and one token of each kind. -/
def adasStores : Stores where
  users := ⟨[ada]⟩
  tokens := ⟨[.mint ada .verification ⟨0, 0⟩ ⟨9, 0⟩ "1" "link",
    .mint ada .refresh ⟨0, 0⟩ ⟨9, 0⟩ "2" "session"]⟩

/-- The form that opens such an account. -/
def adasForm : Registration.Form where
  email := "Ada@Example.org"
  userName := "ada_l"
  password := "Old-pass-1"
  confirmation := "Old-pass-1"
  firstName := "Ada"
  lastName := "L"

/-- A generator that draws a longer text each time. -/
def unary (n : Nat) : String := String.ofList (List.replicate n 'x')

theorem unary_injective : Function.Injective unary := fun m n h => by
  simpa using congrArg List.length (String.ofList_injective h)

end Gatehouse
