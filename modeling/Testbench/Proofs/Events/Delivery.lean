import Testbench.Board

/-!
# Events are delivered exactly once

Posting, the moment at which a wait is decided, and resetting are each one act under a lock. So what
several parties do to the events is a row of acts, in the order in which they get the lock. A
statement about every such row holds for every interleaving of any number of parties.

* `Act`, `Events.act`, `Events.removed` : an act, what it leaves, and what it takes away.
* `Events.play`, `Events.removals`, `Events.posted` : the same for a row of acts.
* `Events.Settled`, `Events.settled_play` : the signal is raised just when something is pending.
* `Events.pending_append_posted` : no event is lost, doubled or overtaken.
* `Events.delivered_once` : both, for all rows of acts on fresh events, with what a wait can answer.
* `Board.events_pass`, `Board.events_wait` : what happens to the events of a board is such a row.
-/

set_option autoImplicit false

namespace Testbench

/-- What a party does while it has the lock. -/
inductive Act where
  | post (name : String)
  /-- A wait is decided. -/
  | wait (mode : WaitMode)
  | reset
  deriving DecidableEq, Repr

/-- The events that the act adds. -/
def Act.posted : Act → List String
  | post name => [name]
  | wait _ => []
  | reset => []

/-- The names that a wait is answered with. -/
def Outcome.names : Outcome → List String
  | events names => names
  | timeout => []

namespace Events

/-! ## One act -/

def act (e : Events) : Act → Events
  | .post name => e.post name
  | .wait mode => (e.poll mode).2
  | .reset => e.reset

/-- The list that the act takes away: what a wait is answered that takes it, or what a reset
drops. -/
def removed (e : Events) : Act → List String
  | .post _ => []
  | .wait .take => (e.poll .take).1.names
  | .wait .peek => []
  | .reset => e.pending

/-- The signal is raised just when something is pending. -/
def Settled (e : Events) : Prop := e.signaled = true ↔ e.pending ≠ []

theorem settled_fresh : Settled {} := by simp [Settled]

theorem settled_reset (e : Events) : e.reset.Settled := by simp [Settled, reset]

theorem Settled.act {e : Events} (h : e.Settled) (a : Act) : (e.act a).Settled := by
  cases a with
  | post name => simp [Settled, Events.act, post]
  | reset => exact e.settled_reset
  | wait mode =>
    cases mode with
    | peek =>
      show (e.poll .peek).2.Settled
      rw [poll_peek_snd]
      exact h
    | take =>
      show (e.poll .take).2.Settled
      unfold poll
      split
      · exact e.settled_reset
      · exact h

/-- What was pending and what comes is what goes and what stays pending, in the same order. -/
theorem pending_append_act (e : Events) (a : Act) :
    e.pending ++ a.posted = e.removed a ++ (e.act a).pending := by
  cases a with
  | post name => rfl
  | reset => rfl
  | wait mode =>
    cases mode with
    | peek => simp [Act.posted, removed, act]
    | take =>
      simp only [Act.posted, removed, act, poll]
      split
      · rfl
      · simp [Outcome.names]

/-- A wait is answered with all that is pending, and with a timeout if nothing is. -/
theorem Settled.poll_eq {e : Events} (h : e.Settled) (mode : WaitMode) :
    (e.poll mode).1 = if e.pending = [] then .timeout else .events e.pending := by
  rw [poll_fst_eq]
  unfold poll
  by_cases hs : e.signaled = true
  · rw [if_pos hs, if_neg (h.mp hs)]
  · rw [if_neg hs, if_pos (Classical.not_not.mp fun hp => hs (h.mpr hp))]

/-! ## The acts of several parties -/

variable {ι : Type}

/-- The events after the acts of parties, in the order in which these got the lock. -/
def play (e : Events) (schedule : List (ι × Act)) : Events :=
  schedule.foldl (fun e turn => e.act turn.2) e

/-- All that is taken away, in the order in which that happens. -/
def removals (e : Events) : List (ι × Act) → List String
  | [] => []
  | turn :: rest => e.removed turn.2 ++ (e.act turn.2).removals rest

/-- The names of all events that are posted, in the order in which that happens. -/
def posted (schedule : List (ι × Act)) : List String := schedule.flatMap fun turn => turn.2.posted

theorem settled_play {e : Events} (h : e.Settled) (schedule : List (ι × Act)) :
    (e.play schedule).Settled := by
  induction schedule generalizing e with
  | nil => exact h
  | cons turn rest ih => exact ih (h.act turn.2)

theorem pending_append_posted (e : Events) (schedule : List (ι × Act)) :
    e.pending ++ posted schedule = e.removals schedule ++ (e.play schedule).pending := by
  induction schedule generalizing e with
  | nil => simp [posted, removals, play]
  | cons turn rest ih =>
    calc e.pending ++ posted (turn :: rest)
        = e.pending ++ turn.2.posted ++ posted rest := by simp [posted]
      _ = e.removed turn.2 ++ ((e.act turn.2).pending ++ posted rest) := by
          rw [pending_append_act, List.append_assoc]
      _ = e.removed turn.2 ++ ((e.act turn.2).removals rest ++
            ((e.act turn.2).play rest).pending) := by rw [ih]
      _ = e.removals (turn :: rest) ++ (e.play (turn :: rest)).pending :=
          (List.append_assoc ..).symm

/-- **Events are delivered exactly once and in order.** Whatever parties post, wait for and reset,
and in whatever order: the signal is raised just when something is pending; what was posted is what
the waits that take were answered and the resets dropped, and then what is still pending; a wait
that only looks is answered like one that takes, and changes nothing; a wait is never answered with
an empty list, and with a timeout only when nothing is pending. -/
theorem delivered_once (schedule : List (ι × Act)) :
    let e : Events := play {} schedule
    (e.signaled = true ↔ e.pending ≠ []) ∧
    posted schedule = removals {} schedule ++ e.pending ∧
    e.poll .peek = ((e.poll .take).1, e) ∧
    (∀ mode names, (e.poll mode).1 = .events names → names = e.pending ∧ names ≠ []) ∧
    ∀ mode, (e.poll mode).1 = .timeout → e.pending = [] := by
  intro e
  have hsettled : e.Settled := settled_play settled_fresh schedule
  refine ⟨hsettled, ?_, ?_, ?_, ?_⟩
  · have h := pending_append_posted {} schedule
    rw [List.nil_append] at h
    exact h
  · exact Prod.ext (e.poll_fst_eq .take).symm e.poll_peek_snd
  · intro mode names h
    rw [hsettled.poll_eq] at h
    split at h
    · cases h
    · rename_i hp
      cases h
      exact ⟨rfl, hp⟩
  · intro mode h
    rw [hsettled.poll_eq] at h
    split at h
    · rename_i hp
      exact hp
    · cases h

end Events

/-! ## The events of a board -/

namespace Board

/-- The acts of a background that posts events. -/
def posts (names : List String) : List (Unit × Act) := names.map fun name => ((), .post name)

theorem play_posts (names : List String) (e : Events) :
    e.play (posts names) = names.foldl Events.post e := by
  induction names generalizing e with
  | nil => rfl
  | cons name names ih => exact ih (e.post name)

/-- When time passes, events come that were to come. -/
theorem events_passTo (b : Board) (now : Nat) :
    ∃ names, (b.passTo now).events = b.events.play (posts names) := by
  refine ⟨(b.scheduled.takeWhile fun e => e.1 ≤ max b.now now).map Prod.snd, ?_⟩
  rw [play_posts, List.foldl_map]
  rfl

theorem events_pass (b : Board) (ms : Nat) :
    ∃ names, (b.pass ms).events = b.events.play (posts names) :=
  b.events_passTo _

/-- A wait lets events come, and then it is decided in one act. -/
theorem events_wait (b : Board) (limit : Nat) (mode : WaitMode) :
    ∃ names, (b.wait limit mode).1 = ((b.events.play (posts names)).poll mode).1 ∧
      (b.wait limit mode).2.events = b.events.play (posts names ++ [((), .wait mode)]) := by
  have hdecide : ∀ (b' : Board) (names : List String),
      b'.events = b.events.play (posts names) →
      (b'.events.poll mode).1 = ((b.events.play (posts names)).poll mode).1 ∧
        (b'.events.poll mode).2 = b.events.play (posts names ++ [((), .wait mode)]) := by
    intro b' names h
    rw [h, Events.play, Events.play, List.foldl_append]
    exact ⟨rfl, rfl⟩
  unfold wait
  split
  · exact ⟨[], hdecide b [] rfl⟩
  · split
    · obtain ⟨names, h⟩ := b.events_passTo _
      exact ⟨names, hdecide _ names h⟩
    · obtain ⟨names, h⟩ := b.events_pass limit
      exact ⟨names, hdecide _ names h⟩

end Board

end Testbench
