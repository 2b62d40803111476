/-!
# Events

Events are posted by name and wait in a list until a script takes them. A signal tells whether
there is anything to take.

* `Events.post`, `Events.reset` : an event comes, all events are dropped.
* `Events.poll` : what a script gets that asks for events now, leaving them in place or not.
* `Outcome.text` : what the script sees.
-/

namespace Testbench

/-- The events that wait, oldest first, and the signal. -/
structure Events where
  pending : List String := []
  signaled : Bool := false
  deriving DecidableEq, Repr

/-- Whether events that a script was shown stay. -/
inductive WaitMode where
  | take
  | peek
  deriving DecidableEq, Repr

/-- What waiting for events came to. -/
inductive Outcome where
  | events (names : List String)
  | timeout
  deriving DecidableEq, Repr

/-- The names with commas between them, or `timeout`. -/
def Outcome.text : Outcome → String
  | events names => ",".intercalate names
  | timeout => "timeout"

namespace Events

/-- One event more, and the signal is raised. -/
def post (e : Events) (name : String) : Events := ⟨e.pending ++ [name], true⟩

/-- No event, and the signal is lowered. -/
def reset (_ : Events) : Events := ⟨[], false⟩

/-- What is there now; taking it lowers the signal. -/
def poll (mode : WaitMode) (e : Events) : Outcome × Events :=
  if e.signaled then
    match mode with
    | .take => (.events e.pending, e.reset)
    | .peek => (.events e.pending, e)
  else (.timeout, e)

@[simp] theorem poll_peek_snd (e : Events) : (e.poll .peek).2 = e := by
  unfold poll
  split <;> rfl

theorem poll_fst_eq (mode : WaitMode) (e : Events) : (e.poll mode).1 = (e.poll .peek).1 := by
  unfold poll
  cases mode <;> split <;> rfl

end Events

end Testbench
