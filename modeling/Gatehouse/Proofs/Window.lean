/-
  Gatehouse — the attempt budget as a sliding window.

  A limiter that is asked at readings which do not step back admits an attempt of a client just
  when fewer than its limit were admitted of that client less than a window before. Each attempt
  drops what is too old of every client. That loses nothing: what no longer counts does not count
  later on either.

  * `Limiter.isLive_iff`: an attempt counts that is less than a window old, also where the window
    reaches back further than any clock;
  * `Limiter.Bounded.after`: whatever the clock does, a client is remembered once, by at least one
    attempt and at most as many as the limit;
  * `Limiter.Recalls.after`: what is remembered are the admitted attempts, as far as they count;
  * `Limiter.slides`: what is admitted, and how many clients are remembered then.
-/
import Gatehouse.Http.Limiter
import Mathlib.Data.Finset.Card
import Mathlib.Data.List.Nodup

namespace Gatehouse

/-- A reading of a clock, in nanoseconds. -/
structure Reading where
  nanos : Int
  real : Limiter.earliest ≤ nanos
deriving DecidableEq, Repr

theorem Limiter.earliest_le (nanos : Nat) : Limiter.earliest ≤ nanos := by
  unfold Limiter.earliest Span.nanosPerSecond
  omega

/-- The reading some nanoseconds after the zero of the clock. -/
def Reading.ofNanos (nanos : Nat) : Reading := ⟨nanos, Limiter.earliest_le nanos⟩

/-- An attempt of a client, and when it is made. -/
structure Attempt where
  client : String
  reading : Reading
deriving DecidableEq, Repr

namespace Limiter

/-! ## Attempts in a row -/

/-- The attempt is admitted. -/
def admits (l : Limiter) (a : Attempt) : Bool := (l.check a.client a.reading.nanos).1

/-- The limiter after an attempt. -/
def next (l : Limiter) (a : Attempt) : Limiter := (l.check a.client a.reading.nanos).2

/-- The limiter after some attempts, in order. -/
def after (l : Limiter) (attempts : List Attempt) : Limiter := attempts.foldl next l

/-- The attempts that are admitted, of some that are made in order. -/
def admitted : Limiter → List Attempt → List Attempt
  | _, [] => []
  | l, a :: attempts =>
    if l.admits a then a :: admitted (l.next a) attempts else admitted (l.next a) attempts

/-- The attempts come in the order of their readings. -/
def Steady (attempts : List Attempt) : Prop :=
  attempts.Pairwise fun a b => a.reading.nanos ≤ b.reading.nanos

instance (attempts : List Attempt) : Decidable (Steady attempts) :=
  inferInstanceAs (Decidable (List.Pairwise _ _))

/-- The attempts that were made less than a window before the attempt `a`. -/
def recent (l : Limiter) (a : Attempt) (past : List Attempt) : List Attempt :=
  past.filter fun b => a.reading.nanos - b.reading.nanos < l.window.nanos

variable {l : Limiter} {a : Attempt} {attempts past : List Attempt} {now : Int}

theorem after_concat (l : Limiter) (attempts : List Attempt) (a : Attempt) :
    l.after (attempts ++ [a]) = (l.after attempts).next a := by
  simp [after]

theorem admitted_concat (l : Limiter) (attempts : List Attempt) (a : Attempt) :
    l.admitted (attempts ++ [a]) =
      l.admitted attempts ++ if (l.after attempts).admits a then [a] else [] := by
  induction attempts generalizing l with
  | nil => by_cases h : l.admits a <;> simp [admitted, after, h]
  | cons b attempts ih =>
    have hafter : l.after (b :: attempts) = (l.next b).after attempts := rfl
    rw [List.cons_append, admitted, admitted, ih, hafter]
    by_cases h : l.admits b
    · rw [if_pos h, if_pos h, List.cons_append]
    · rw [if_neg h, if_neg h]

/-! ## The window -/

/-- What counts at a reading has counted at every earlier one. -/
theorem isLive_of_le {r r' time : Int} (h : r ≤ r') (hlive : l.isLive r' time = true) :
    l.isLive r time = true := by
  unfold isLive cutoff? at hlive ⊢
  by_cases hr : earliest ≤ r - l.window.nanos
  · have hr' : earliest ≤ r' - l.window.nanos := by omega
    rw [if_pos hr'] at hlive
    rw [if_pos hr]
    simp only [Option.all_some, decide_eq_true_eq] at hlive ⊢
    omega
  · rw [if_neg hr]
    rfl

/-- No clock reads earlier than its earliest reading, so that a missing cutoff bars nothing that
    the window would bar. -/
theorem isLive_iff (l : Limiter) (r r' : Reading) :
    l.isLive r.nanos r'.nanos = true ↔ r.nanos - r'.nanos < l.window.nanos := by
  have := r'.real
  unfold isLive cutoff?
  by_cases hr : earliest ≤ r.nanos - l.window.nanos
  · rw [if_pos hr]
    simp only [Option.all_some, decide_eq_true_eq]
    omega
  · rw [if_neg hr]
    simp only [Option.all_none, true_iff]
    omega

/-- Dropping at one reading drops nothing that counts at a later one. -/
theorem filter_isLive {r r' : Int} (h : r ≤ r') (times : List Int) :
    (times.filter (l.isLive r)).filter (l.isLive r') = times.filter (l.isLive r') := by
  rw [List.filter_filter]
  refine List.filter_congr fun time _ => ?_
  cases hlive : l.isLive r' time with
  | false => rfl
  | true => simp [isLive_of_le h hlive]

/-! ## What is remembered -/

/-- The clients that are remembered. -/
def keys (clients : List Attempts) : List String := clients.map (·.client)

@[simp]
theorem keys_cons (c : Attempts) (clients : List Attempts) :
    keys (c :: clients) = c.client :: keys clients := rfl

section

variable {clients : List Attempts} {client other : String} {time : Int}

theorem timesOf_cons (c : Attempts) (clients : List Attempts) (client : String) :
    timesOf client (c :: clients) =
      if c.client = client then c.times else timesOf client clients := by
  unfold timesOf
  by_cases h : c.client = client
  · simp [h]
  · simp [h]

theorem timesOf_of_mem (h : (keys clients).Nodup) {c : Attempts} (hc : c ∈ clients) :
    timesOf c.client clients = c.times := by
  induction clients with
  | nil => cases hc
  | cons d clients ih =>
    obtain ⟨hd, hclients⟩ := List.nodup_cons.1 h
    rw [timesOf_cons]
    rcases List.mem_cons.1 hc with rfl | hc
    · rw [if_pos rfl]
    · rw [if_neg, ih hclients hc]
      intro heq
      exact hd (List.mem_map.2 ⟨c, hc, heq.symm⟩)

theorem timesOf_of_not_mem (h : client ∉ keys clients) : timesOf client clients = [] := by
  induction clients with
  | nil => rfl
  | cons d clients ih =>
    simp only [keys, List.map_cons, List.mem_cons, not_or] at h
    rw [timesOf_cons, if_neg (Ne.symm h.1), ih h.2]

/-! ### Dropping -/

theorem mem_prune {r : Int} {c : Attempts} :
    c ∈ l.prune r ↔
      ∃ d ∈ l.clients, c = { d with times := d.times.filter (l.isLive r) } ∧ c.times ≠ [] := by
  simp only [prune, List.mem_filter, List.mem_map, Bool.not_eq_true', List.isEmpty_eq_false_iff]
  constructor
  · rintro ⟨⟨d, hd, rfl⟩, hne⟩
    exact ⟨d, hd, rfl, hne⟩
  · rintro ⟨d, hd, rfl, hne⟩
    exact ⟨⟨d, hd, rfl⟩, hne⟩

theorem keyed_prune (h : (keys l.clients).Nodup) (r : Int) : (keys (l.prune r)).Nodup := by
  have hmap : keys (l.clients.map fun c => { c with times := c.times.filter (l.isLive r) }) =
      keys l.clients := by
    simp [keys, Function.comp_def]
  have hsub := (List.filter_sublist (p := fun c : Attempts => !c.times.isEmpty)
    (l := l.clients.map fun c => { c with times := c.times.filter (l.isLive r) })).map
    (fun c : Attempts => c.client)
  exact (hmap ▸ h : (keys _).Nodup).sublist hsub

theorem timesOf_prune (h : (keys l.clients).Nodup) (r : Int) (client : String) :
    timesOf client (l.prune r) = (timesOf client l.clients).filter (l.isLive r) := by
  by_cases hmem : client ∈ keys (l.prune r)
  · obtain ⟨c, hc, rfl⟩ := List.mem_map.1 hmem
    obtain ⟨d, hd, rfl, -⟩ := mem_prune.1 hc
    rw [timesOf_of_mem (keyed_prune h r) hc, timesOf_of_mem h hd]
  · rw [timesOf_of_not_mem hmem]
    by_cases hclient : client ∈ keys l.clients
    · obtain ⟨d, hd, rfl⟩ := List.mem_map.1 hclient
      rw [timesOf_of_mem h hd]
      by_contra hne
      exact hmem (List.mem_map.2 ⟨_, mem_prune.2 ⟨d, hd, rfl, Ne.symm hne⟩, rfl⟩)
    · rw [timesOf_of_not_mem hclient, List.filter_nil]

/-! ### Remembering -/

theorem keys_remember (client : String) (time : Int) (clients : List Attempts) :
    keys (remember client time clients) =
      if client ∈ keys clients then keys clients else keys clients ++ [client] := by
  induction clients with
  | nil => rfl
  | cons c clients ih =>
    unfold remember
    by_cases h : c.client = client
    · simp [keys, h]
    · rw [if_neg h, keys_cons, keys_cons, ih]
      by_cases hmem : client ∈ keys clients
      · rw [if_pos hmem, if_pos (List.mem_cons_of_mem _ hmem)]
      · have hcons : client ∉ c.client :: keys clients := by
          rw [List.mem_cons, not_or]
          exact ⟨Ne.symm h, hmem⟩
        rw [if_neg hmem, if_neg hcons, List.cons_append]

theorem keyed_remember (h : (keys clients).Nodup) (client : String) (time : Int) :
    (keys (remember client time clients)).Nodup := by
  rw [keys_remember]
  split_ifs with hmem
  · exact h
  · exact List.Nodup.append h (List.nodup_singleton _) (by simpa using hmem)

theorem timesOf_remember (client other : String) (time : Int) (clients : List Attempts) :
    timesOf other (remember client time clients) =
      timesOf other clients ++ if client = other then [time] else [] := by
  induction clients with
  | nil =>
    unfold remember
    rw [timesOf_cons]
    by_cases h : client = other <;> simp [h, timesOf]
  | cons c clients ih =>
    unfold remember
    by_cases hc : c.client = client
    · subst hc
      rw [if_pos rfl, timesOf_cons, timesOf_cons]
      by_cases h : c.client = other <;> simp [h]
    · rw [if_neg hc, timesOf_cons, timesOf_cons, ih]
      by_cases h : c.client = other
      · subst h
        simp [Ne.symm hc]
      · simp [h]

end

/-! ## One attempt -/

theorem admits_iff (h : (keys l.clients).Nodup) (hmost : 0 < l.most) :
    l.admits a = true ↔
      ((timesOf a.client l.clients).filter (l.isLive a.reading.nanos)).length < l.most := by
  unfold admits check
  rw [if_neg (Nat.ne_of_gt hmost), ← timesOf_prune h]
  dsimp only
  split_ifs with hfull
  · simp [hfull]
  · simpa using hfull

theorem next_eq (hmost : 0 < l.most) (a : Attempt) :
    l.next a = { l with
      clients := if l.admits a then
        remember a.client a.reading.nanos (l.prune a.reading.nanos)
      else l.prune a.reading.nanos } := by
  unfold next admits check
  rw [if_neg (Nat.ne_of_gt hmost)]
  dsimp only
  by_cases hfull : l.most ≤ (timesOf a.client (l.prune a.reading.nanos)).length
  · simp [hfull]
  · simp [hfull]

/-! ## Whatever the clock does -/

/-- A client is remembered once, by at least one attempt and at most as many as the limit. -/
structure Bounded (l : Limiter) : Prop where
  keyed : (keys l.clients).Nodup
  least : ∀ client ∈ keys l.clients, 0 < (timesOf client l.clients).length
  most : ∀ client, (timesOf client l.clients).length ≤ l.most

theorem Bounded.mem_keys_iff (h : l.Bounded) {client : String} :
    client ∈ keys l.clients ↔ timesOf client l.clients ≠ [] := by
  constructor
  · intro hclient
    exact List.length_pos_iff.1 (h.least client hclient)
  · intro htimes
    by_contra hclient
    exact htimes (timesOf_of_not_mem hclient)

theorem Bounded.prune (h : l.Bounded) (r : Int) : Bounded { l with clients := l.prune r } where
  keyed := keyed_prune h.keyed r
  least := by
    intro client hclient
    obtain ⟨c, hc, rfl⟩ := List.mem_map.1 hclient
    obtain ⟨_, _, -, hne⟩ := mem_prune.1 hc
    show 0 < (timesOf c.client (l.prune r)).length
    rw [timesOf_of_mem (keyed_prune h.keyed r) hc]
    exact List.length_pos_iff.2 hne
  most := by
    intro client
    show (timesOf client (l.prune r)).length ≤ l.most
    rw [timesOf_prune h.keyed]
    exact (List.length_filter_le _ _).trans (h.most client)

theorem Bounded.remember (h : l.Bounded) {client : String}
    (hroom : (timesOf client l.clients).length < l.most) (time : Int) :
    Bounded { l with clients := remember client time l.clients } where
  keyed := keyed_remember h.keyed client time
  least := by
    intro other hother
    show 0 < (timesOf other (Limiter.remember client time l.clients)).length
    rw [timesOf_remember, List.length_append]
    by_cases heq : client = other
    · rw [if_pos heq]
      simp
    · have hother : other ∈ keys (Limiter.remember client time l.clients) := hother
      have hold : other ∈ keys l.clients := by
        rw [keys_remember] at hother
        split_ifs at hother with hmem
        · exact hother
        · rw [List.mem_append, List.mem_singleton] at hother
          exact hother.resolve_right (Ne.symm heq)
      have := h.least other hold
      omega
  most := by
    intro other
    show (timesOf other (Limiter.remember client time l.clients)).length ≤ l.most
    rw [timesOf_remember, List.length_append]
    have := h.most other
    by_cases heq : client = other
    · subst heq
      rw [if_pos rfl, List.length_singleton]
      omega
    · rw [if_neg heq, List.length_nil]
      omega

theorem Bounded.next (h : l.Bounded) (hmost : 0 < l.most) (a : Attempt) : (l.next a).Bounded := by
  have hpruned := h.prune a.reading.nanos
  rw [next_eq hmost]
  by_cases hadmits : l.admits a
  · have hroom := (admits_iff h.keyed hmost).1 hadmits
    rw [← timesOf_prune h.keyed] at hroom
    rw [if_pos hadmits]
    exact hpruned.remember hroom _
  · rw [if_neg hadmits]
    exact hpruned

/-- After an attempt its client is remembered, and so are those of whom some attempt counts. -/
theorem Bounded.mem_keys_next (h : l.Bounded) (hmost : 0 < l.most) (client : String) :
    client ∈ keys (l.next a).clients ↔ client = a.client ∨
      (timesOf client l.clients).filter (l.isLive a.reading.nanos) ≠ [] := by
  have hpruned : client ∈ keys (l.prune a.reading.nanos) ↔
      (timesOf client l.clients).filter (l.isLive a.reading.nanos) ≠ [] := by
    rw [← timesOf_prune h.keyed]
    exact (h.prune a.reading.nanos).mem_keys_iff
  rw [next_eq hmost, ← hpruned]
  by_cases hadmits : l.admits a
  · dsimp only
    rw [if_pos hadmits, keys_remember]
    split_ifs with hmem
    · constructor
      · exact Or.inr
      · rintro (rfl | hclient)
        · exact hmem
        · exact hclient
    · rw [List.mem_append, List.mem_singleton, or_comm]
  · dsimp only
    rw [if_neg hadmits]
    constructor
    · exact Or.inr
    · rintro (rfl | hclient)
      · -- an attempt that is not admitted has others of its client before it
        have hfull := mt (admits_iff h.keyed hmost).2 hadmits
        rw [hpruned, ← List.length_pos_iff]
        omega
      · exact hclient

/-- **What the limiter remembers stays within its bounds, whatever the clock does.** -/
theorem Bounded.after (h : l.Bounded) (hmost : 0 < l.most) (attempts : List Attempt) :
    (l.after attempts).Bounded ∧ (l.after attempts).most = l.most ∧
      (l.after attempts).window = l.window := by
  induction attempts using List.reverseRecOn with
  | nil => exact ⟨h, rfl, rfl⟩
  | append_singleton attempts a ih =>
    obtain ⟨hbounded, hmost', hwindow⟩ := ih
    have hpos : 0 < (l.after attempts).most := hmost' ▸ hmost
    rw [after_concat]
    refine ⟨hbounded.next hpos a, ?_⟩
    rw [next_eq hpos]
    exact ⟨hmost', hwindow⟩

theorem bounded_new (most : Nat) (window : Span) : Bounded ⟨most, window, []⟩ where
  keyed := List.nodup_nil
  least := by
    intro client hclient
    cases hclient
  most := by
    intro client
    exact Nat.zero_le _

/-! ## On a clock that does not step back -/

/-- The readings of a client's attempts. -/
def timesIn (client : String) (attempts : List Attempt) : List Int :=
  (attempts.filter (·.client == client)).map (·.reading.nanos)

/-- What is remembered are the past admitted attempts, as far as they count from the reading `now`
    on. -/
def Recalls (l : Limiter) (past : List Attempt) (now : Int) : Prop :=
  ∀ r, now ≤ r → ∀ client,
    (timesOf client l.clients).filter (l.isLive r) = (timesIn client past).filter (l.isLive r)

theorem isLive_congr {l' : Limiter} (h : l'.window = l.window) : l'.isLive = l.isLive := by
  funext r time
  unfold isLive cutoff?
  rw [h]

theorem Recalls.next (h : l.Recalls past now) (hl : l.Bounded) (hmost : 0 < l.most)
    (hnow : now ≤ a.reading.nanos) :
    (l.next a).Recalls (past ++ if l.admits a then [a] else []) a.reading.nanos := by
  intro r hr client
  have hpruned : (timesOf client (l.prune a.reading.nanos)).filter (l.isLive r) =
      (timesIn client past).filter (l.isLive r) := by
    rw [timesOf_prune hl.keyed, filter_isLive hr]
    exact h r (hnow.trans hr) client
  have hlive : (l.next a).isLive = l.isLive := isLive_congr (by rw [next_eq hmost])
  rw [hlive, next_eq hmost]
  by_cases hadmits : l.admits a
  · dsimp only
    rw [if_pos hadmits, if_pos hadmits, timesOf_remember, List.filter_append, hpruned]
    unfold timesIn
    rw [List.filter_append, List.map_append, List.filter_append]
    by_cases heq : a.client = client
    · simp [heq]
    · simp [heq]
  · dsimp only
    rw [if_neg hadmits, if_neg hadmits, List.append_nil]
    exact hpruned

/-- **What is remembered are the admitted attempts, as far as they count.** -/
theorem Recalls.after {most : Nat} (hmost : 0 < most) (window : Span) (attempts : List Attempt)
    (hsteady : Steady attempts) (now : Int) (hnow : ∀ b ∈ attempts, b.reading.nanos ≤ now) :
    (Limiter.after ⟨most, window, []⟩ attempts).Recalls
      (Limiter.admitted ⟨most, window, []⟩ attempts) now := by
  induction attempts using List.reverseRecOn generalizing now with
  | nil =>
    intro r hr client
    rfl
  | append_singleton attempts a ih =>
    obtain ⟨hbefore, -, hlast⟩ := List.pairwise_append.1 hsteady
    obtain ⟨hbounded, hmost', -⟩ := (bounded_new most window).after hmost attempts
    have hrecalls := ih hbefore a.reading.nanos fun b hb => hlast b hb a (List.mem_singleton_self a)
    rw [after_concat, admitted_concat]
    intro r hr
    exact hrecalls.next hbounded (hmost' ▸ hmost) le_rfl r
      ((hnow a (by simp)).trans hr)

/-- The attempts of one client that count are the recent ones. -/
theorem filter_timesIn (l : Limiter) (a : Attempt) (client : String) (past : List Attempt) :
    (timesIn client past).filter (l.isLive a.reading.nanos) = timesIn client (l.recent a past) := by
  have hlive : ∀ b : Attempt, l.isLive a.reading.nanos b.reading.nanos =
      decide (a.reading.nanos - b.reading.nanos < l.window.nanos) := by
    intro b
    rw [Bool.eq_iff_iff, isLive_iff, decide_eq_true_iff]
  unfold timesIn recent
  rw [List.filter_map, List.filter_comm]
  refine congrArg (fun xs => (List.filter _ xs).map _) (List.filter_congr fun b _ => ?_)
  exact hlive b

section

variable {most : Nat} (window : Span)

/-- What is left of a client at the next attempt are its recent admitted attempts. -/
theorem timesOf_after (hmost : 0 < most) (hsteady : Steady (attempts ++ [a])) (client : String) :
    (timesOf client (Limiter.after ⟨most, window, []⟩ attempts).clients).filter
        ((Limiter.after ⟨most, window, []⟩ attempts).isLive a.reading.nanos) =
      timesIn client (Limiter.recent ⟨most, window, []⟩ a
        (Limiter.admitted ⟨most, window, []⟩ attempts)) := by
  obtain ⟨hbefore, -, hlast⟩ := List.pairwise_append.1 hsteady
  obtain ⟨-, -, hwindow⟩ := (bounded_new most window).after hmost attempts
  have hrecalls := Recalls.after hmost window attempts hbefore a.reading.nanos
    fun b hb => hlast b hb a (List.mem_singleton_self a)
  rw [hrecalls _ le_rfl client, isLive_congr hwindow, filter_timesIn]

/-- **An attempt is admitted when the recent admitted attempts of its client leave room for it.** -/
theorem admits_after_iff (hmost : 0 < most) (hsteady : Steady (attempts ++ [a])) :
    (Limiter.after ⟨most, window, []⟩ attempts).admits a = true ↔
      ((Limiter.recent ⟨most, window, []⟩ a (Limiter.admitted ⟨most, window, []⟩ attempts)).filter
        (·.client == a.client)).length < most := by
  obtain ⟨hbounded, hmost', -⟩ := (bounded_new most window).after hmost attempts
  have hpos : 0 < (Limiter.after ⟨most, window, []⟩ attempts).most := hmost' ▸ hmost
  rw [admits_iff hbounded.keyed hpos, timesOf_after window hmost hsteady, hmost', timesIn,
    List.length_map]

/-- The clients that are remembered after the next attempt. -/
theorem tracked_after (hmost : 0 < most) (hsteady : Steady (attempts ++ [a])) :
    (Limiter.after ⟨most, window, []⟩ (attempts ++ [a])).tracked =
      (insert a.client ((Limiter.recent ⟨most, window, []⟩ a
        (Limiter.admitted ⟨most, window, []⟩ attempts)).map (·.client)).toFinset).card := by
  obtain ⟨hbounded, hmost', -⟩ := (bounded_new most window).after hmost attempts
  have hpos : 0 < (Limiter.after ⟨most, window, []⟩ attempts).most := hmost' ▸ hmost
  have hkeyed := (hbounded.next hpos a).keyed
  have hkeys : ∀ client,
      client ∈ keys ((Limiter.after ⟨most, window, []⟩ attempts).next a).clients ↔
        client = a.client ∨ ∃ b ∈ Limiter.recent ⟨most, window, []⟩ a
          (Limiter.admitted ⟨most, window, []⟩ attempts), b.client = client := by
    intro client
    rw [hbounded.mem_keys_next hpos, timesOf_after window hmost hsteady]
    simp [timesIn]
  rw [after_concat, tracked, ← List.length_map (fun c : Attempts => c.client)]
  rw [keys] at hkeyed
  rw [← List.toFinset_card_of_nodup hkeyed]
  congr 1
  ext client
  rw [List.mem_toFinset, ← keys, hkeys]
  simp

end

/-- **The attempt budget is a sliding window.** Of attempts whose readings do not step back, the
    next one is admitted if and only if fewer than `most` of its client were admitted less than a
    window before it, and then those clients are remembered of whom some attempt was admitted less
    than a window before, and its own. Whatever the readings are, a client is remembered once, by at
    least one and at most `most` attempts. -/
theorem slides {most : Nat} (hmost : 0 < most) (window : Span) (attempts : List Attempt)
    (a : Attempt) :
    let l : Limiter := ⟨most, window, []⟩
    let recent := l.recent a (l.admitted attempts)
    (Steady (attempts ++ [a]) →
      ((l.after attempts).admits a = true ↔
          (recent.filter (·.client == a.client)).length < most) ∧
        (l.after (attempts ++ [a])).tracked =
          (insert a.client (recent.map (·.client)).toFinset).card) ∧
      (keys (l.after (attempts ++ [a])).clients).Nodup ∧
      ∀ c ∈ (l.after (attempts ++ [a])).clients, 1 ≤ c.times.length ∧ c.times.length ≤ most := by
  obtain ⟨hbounded, hmost', -⟩ := (bounded_new most window).after hmost (attempts ++ [a])
  refine ⟨?_, hbounded.keyed, ?_⟩
  · intro hsteady
    exact ⟨admits_after_iff window hmost hsteady, tracked_after window hmost hsteady⟩
  · intro c hc
    rw [← timesOf_of_mem hbounded.keyed hc]
    constructor
    · exact hbounded.least c.client (List.mem_map_of_mem hc)
    · exact (hbounded.most c.client).trans hmost'.le

/-- Four attempts within a minute, the last of them one too many for its client. -/
def rush : List Attempt :=
  [⟨"ada", .ofNanos 0⟩, ⟨"ada", .ofNanos 30000000000⟩, ⟨"bob", .ofNanos 30000000000⟩,
    ⟨"ada", .ofNanos 59999999999⟩]

/-- A minute after the first attempt the client of it has room for one more, unless the window is
    the longest there is. -/
theorem slides_minute :
    let late : Attempt := ⟨"ada", .ofNanos 60000000000⟩
    Steady (rush ++ [late]) ∧
      (Limiter.after ⟨2, .ofSeconds 60, []⟩ rush).admits late = true ∧
      (Limiter.after ⟨2, .ofSeconds 60, []⟩ (rush ++ [late])).tracked = 2 ∧
      (Limiter.after ⟨2, .longest, []⟩ rush).admits late = false := by
  intro late
  have hsteady : Steady (rush ++ [late]) := by decide
  have hmost : 0 < 2 := by decide
  obtain ⟨hadmits, htracked⟩ := (slides hmost (.ofSeconds 60) rush late).1 hsteady
  obtain ⟨hadmits', -⟩ := (slides hmost .longest rush late).1 hsteady
  refine ⟨hsteady, hadmits.2 (by decide), htracked.trans (by decide), ?_⟩
  rw [Bool.eq_false_iff]
  exact fun h => absurd (hadmits'.1 h) (by decide)

end Limiter

end Gatehouse
