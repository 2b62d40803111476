import Testbench.Events
import Testbench.Variables

/-!
# What a script and the background share

Both sides see one set of global variables and one list of pending events. Time is counted in
milliseconds from the start of the program; events that are to be posted later are kept with the
time at which they come, and they come while somebody lets time pass.

* `Board.schedule` : an event is to come later.
* `Board.pass` : time passes; `Board.wait` : it passes until an event is there, or a limit.
-/

namespace Testbench

/-- The global variables, the events, the time, and the events that are to come with their times,
the earliest first. -/
structure Board where
  globals : Variables := {}
  events : Events := {}
  now : Nat := 0
  scheduled : List (Nat × String) := []
  deriving DecidableEq, Repr

namespace Board

def post (b : Board) (name : String) : Board := { b with events := b.events.post name }

def reset (b : Board) : Board := { b with events := b.events.reset }

/-- An entry after those that come no later. -/
def insertDue (due : Nat) (name : String) : List (Nat × String) → List (Nat × String)
  | [] => [(due, name)]
  | e :: rest => if e.1 ≤ due then e :: insertDue due name rest else (due, name) :: e :: rest

/-- The event is to come when `delay` more milliseconds have passed. -/
def schedule (b : Board) (delay : Nat) (name : String) : Board :=
  { b with scheduled := insertDue (b.now + delay) name b.scheduled }

/-- The events up to the present, of those that are to come, do come. -/
def deliver (b : Board) : Board :=
  let due := b.scheduled.takeWhile fun e => e.1 ≤ b.now
  { b with
    events := due.foldl (fun events e => events.post e.2) b.events
    scheduled := b.scheduled.drop due.length }

/-- The time is `now`, or later if it already was. -/
def passTo (b : Board) (now : Nat) : Board := { b with now := max b.now now }.deliver

/-- So many milliseconds pass. -/
def pass (b : Board) (ms : Nat) : Board := b.passTo (b.now + ms)

/-- Waits until the signal is raised, at most so many milliseconds, and answers what is there then.
A limit of zero only looks. -/
def wait (b : Board) (limit : Nat) (mode : WaitMode) : Outcome × Board :=
  let b :=
    if b.events.signaled || limit == 0 then b
    else match b.scheduled with
      | (due, _) :: _ => b.passTo (min due (b.now + limit))
      | [] => b.pass limit
  let (outcome, events) := b.events.poll mode
  (outcome, { b with events := events })

end Board

end Testbench
