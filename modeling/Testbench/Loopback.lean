import Testbench.Interpreter

/-!
# The loopback driver

The loopback driver stands in for the driver of a device: it raises the events that scripts ask it
to raise, at once or later.

* `Loopback.notify`, `Loopback.post` : its verbs.
* `Loopback.state` : what its source of that name tells.
* `Loopback.install` : an interpreter with the driver.
-/

namespace Testbench.Loopback

/-- The version of the program. -/
def version : String := "0.1.0"

/-- Raises an event, after so many milliseconds if a delay is given. -/
def notify : Handler := fun tokens t =>
  match tokens with
  | _ :: event :: delay =>
    match delay with
    | [] => { t with machine := schedule t.machine 0 event, status := 0 }
    | text :: _ =>
      match Integer.readSize? text with
      | some ms => { t with machine := schedule t.machine ms event, status := 0 }
      | none => t.fail (.badDelay text)
  | _ => t.fail (.usage "notify NAME [delay_ms]")
where
  schedule (m : Machine) (ms : Nat) (event : String) : Machine :=
    { m with board := m.board.schedule ms event }

/-- Raises events at once. -/
def post : Handler := fun tokens t =>
  { t with machine :=
    { t.machine with board := (tokens.drop 1).foldl Board.post t.machine.board } }

/-- `idle`, or the number of events that wait. -/
def state (b : Board) : String :=
  if b.events.pending.isEmpty then "idle" else toString b.events.pending.length

/-- An interpreter with the driver, which goes by a name. -/
def install (name : String) (i : Interpreter) : Interpreter :=
  let i := (i.register ["notify"] notify).register ["post"] post
  let m := ((i.machine.addSource "version" fun _ _ => some version).addSource "driver"
    fun _ _ => some name).addSource "state" fun b _ => some (state b)
  { i with machine := m }

end Testbench.Loopback
