import Testbench.Board
import Testbench.Calendar
import Testbench.Stack

/-!
# The state of a program

* `World` : what the program is told from outside and cannot change.
* `Machine` : stack, board, log, tally and settings.
* `Machine.setVariable`, `lookup?`, `unsetVariable?`, `setSize?` : variables, the top frame first.
* `Machine.print`, `Machine.report` : the two kinds of lines in the log.
-/

namespace Testbench

/-- What the program is told from outside: environment variables, the text of the file that names
the host, the number of the process, and the time at which the program started, in nanoseconds
since the start of 1970. -/
structure World where
  environment : String → Option String := fun _ => none
  hostFile : Option String := none
  processId : Nat := 1
  startedAt : Nat := 0

/-- Whether there can be an environment variable of this name. -/
def World.isVariableName (name : String) : Bool :=
  !name.isEmpty && name.toList.all fun c => c != '=' && c != '\u0000'

/-- The value of an environment variable. -/
def World.valueOf? (w : World) (name : String) : Option String :=
  if isVariableName name then w.environment name else none

/-- Gives values to the arguments of placeholders, in view of the board. -/
abbrev Source := Board → String → Option String

/-- A line of the log. -/
inductive LogLine where
  | printed (text : String)
  | diagnostic (text : String)
  deriving DecidableEq, Repr

/-- How many expectations held and how many did not. -/
structure Tally where
  passed : Nat := 0
  failed : Nat := 0
  deriving DecidableEq, Repr

namespace Tally

def record (t : Tally) (held : Bool) : Tally :=
  if held then { t with passed := t.passed + 1 } else { t with failed := t.failed + 1 }

def total (t : Tally) : Nat := t.passed + t.failed

theorem total_record (t : Tally) (held : Bool) : (t.record held).total = t.total + 1 := by
  cases held <;> simp [record, total] <;> omega

end Tally

/-- Where a variable is put or was found. -/
inductive Scope where
  /-- The top frame. -/
  | locals
  | globals
  /-- Where the variable is already, or else the top frame. -/
  | auto
  deriving DecidableEq, Repr

/-- The state of a program. `verbNames` lists the verbs as they were registered. -/
structure Machine where
  stack : Stack
  board : Board := {}
  sources : List (String × Source) := []
  loader : Option Loader := none
  world : World := {}
  log : Array LogLine := #[]
  tally : Tally := {}
  exitCode : Option Int := none
  echo : Bool := false
  verbNames : List String := []

namespace Machine

/-- Before the first command of a program with these arguments. -/
def ofArgs (args : List String) : Machine := { stack := .ofArgs args }

def top (m : Machine) : Frame := m.stack.top

def modifyTop (g : Frame → Frame) (m : Machine) : Machine := { m with stack := m.stack.modifyTop g }

def print (m : Machine) (text : String) : Machine := { m with log := m.log.push (.printed text) }

def report (m : Machine) (text : String) : Machine :=
  { m with log := m.log.push (.diagnostic text) }

/-! ## Variables -/

def setLocal (m : Machine) (name value : String) : Machine :=
  m.modifyTop fun f => { f with locals := f.locals.set name value }

def setGlobal (m : Machine) (name value : String) : Machine :=
  { m with board := { m.board with globals := m.board.globals.set name value } }

def setVariable (m : Machine) (scope : Scope) (name value : String) : Machine :=
  match scope with
  | .locals => m.setLocal name value
  | .globals => m.setGlobal name value
  | .auto =>
    if m.top.locals.contains name then m.setLocal name value
    else if m.board.globals.contains name then m.setGlobal name value
    else m.setLocal name value

/-- A variable and where it was found, in the top frame or else among the globals. -/
def lookup? (m : Machine) (name : String) : Option (Scope × Variable) :=
  match m.top.locals.find? name with
  | some v => some (.locals, v)
  | none => (m.board.globals.find? name).map (Scope.globals, ·)

def value? (m : Machine) (name : String) : Option String :=
  (m.lookup? name).map fun found => found.2.value

/-- Without the variable that `lookup?` finds, if it finds one. -/
def unsetVariable? (m : Machine) (name : String) : Option Machine :=
  if m.top.locals.contains name then
    some (m.modifyTop fun f => { f with locals := f.locals.unset name })
  else if m.board.globals.contains name then
    some { m with board := { m.board with globals := m.board.globals.unset name } }
  else none

/-- With a size for the variable that `lookup?` finds, if it finds one. -/
def setSize? (m : Machine) (name : String) (size : Nat) : Option Machine :=
  match m.top.locals.setSize? name size with
  | some locals => some (m.modifyTop fun f => { f with locals := locals })
  | none =>
    (m.board.globals.setSize? name size).map fun globals =>
      { m with board := { m.board with globals := globals } }

end Machine

end Testbench
