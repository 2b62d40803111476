import Testbench.Line.Token
import Testbench.Source
import Testbench.Verb.Core

/-!
# The interpreter

A command line is cut into tokens, its placeholders are replaced, and its verb is carried out; then
execution goes on as the verb said: in the same frame, in a new one, or in the caller.

* `Machine.command` : one line up to and including its verb.
* `Machine.follow` : what the flow of a command does to the stack.
* `Around.step` : both together; `Around.runTo` : steps until the stack is back at a depth. They run
  in any monad; `Machine.step` and `Machine.runTo` are the ones with nothing around the commands.
* `Interpreter.executeLine`, `runScript`, `runSource`, `runNamed` : what a host asks for.
-/

namespace Testbench

/-- What can go wrong around a command. -/
inductive RunError where
  | unknownVerb (verb : String)
  | notInScript (jump label : String)
  | noSuchLabel (script : String) (line : Nat) (label : String)
  | noScript (name : String) (error : ScriptError)
  | returnAtBase
  deriving DecidableEq, Repr

def RunError.message : RunError → String
  | unknownVerb verb => s!"unrecognized command '{verb}'"
  | notInScript jump label => s!"{jump} {label}: not inside a script"
  | noSuchLabel script line label => s!"{script}:{line}: label '{label}' not found"
  | noScript name error => s!"run {name}: {error.message}"
  | returnAtBase => "return outside of a call"

namespace Machine

def complain (m : Machine) (e : RunError) : Machine := m.report e.message

/-- The top frame at its next line; the base frame has none. -/
def advance (m : Machine) : Machine :=
  m.modifyTop fun f => if f.script.isSome then { f with line := f.line + 1 } else f

/-! ## One command -/

/-- The turn in which the top frame carries out a command. -/
def turn (m : Machine) : Turn :=
  let f := m.top
  { machine := m, status := f.status, ret := f.ret,
    place := f.script.map fun s => (s.name, f.line + 1) }

/-- Carries out the verb of a command. -/
def dispatch (verbs : VerbTable) (tokens : List String) (t : Turn) : Turn :=
  let verb := tokens.headD ""
  match verbs.find? verb with
  | some handler => handler tokens t
  | none =>
    { t with machine := t.machine.report (t.located (RunError.unknownVerb verb).message) }

/-- The machine at the end of a turn: the top frame has the status and the return value. -/
def settle (t : Turn) : Machine :=
  t.machine.modifyTop fun f => { f with status := t.status, ret := t.ret }

/-- The command as it is shown before it is carried out, if that is wanted. -/
def trace (m : Machine) (tokens : List String) : Machine :=
  if m.echo then m.print ("+ " ++ " ".intercalate tokens) else m

/-- One line, up to and including its verb: where execution goes on, and whether the program is to
end. A line whose first token is empty as it stands does nothing. -/
def command (verbs : VerbTable) (line : String) (m : Machine) : Machine × Flow × Bool :=
  let tokens := Line.tokenize line
  if (tokens.headD "").isEmpty then (m, .next, false)
  else
    let (tokens, m) := Placeholder.expandAll host tokens m
    let m := m.trace tokens
    let t := dispatch verbs tokens m.turn
    (settle t, t.flow, t.halted)

/-! ## Where execution goes on -/

/-- The script of the top frame and the line after a label in it, or a complaint. -/
def target (m : Machine) (jump label : String) : Except RunError (Script × Nat) :=
  match m.top.script with
  | none => .error (.notInScript jump label)
  | some script =>
    match script.findLabel? label with
    | some index => .ok (script, index + 1)
    | none => .error (.noSuchLabel script.name (m.top.line + 1) label)

/-- A script by its name. -/
def load (m : Machine) (name : String) : Except ScriptError Script :=
  match m.loader with
  | some loader => loader name
  | none => .error .noLoader

/-- A new frame on top, or a complaint and on to the next line. -/
def enter (m : Machine) (name : String) (args : List String)
    (place : Except RunError (Script × Nat)) : Machine :=
  match place with
  | .ok (script, line) =>
    { m with stack := m.stack.push (.ofScript script line (name :: args)) }
  | .error e => (m.complain e).advance

/-- The top frame goes on at a place, or there is a complaint and it goes on at its next line. -/
def jump (m : Machine) (place : Except RunError (Script × Nat)) : Machine :=
  match place with
  | .ok (_, line) => m.modifyTop fun f => { f with line := line }
  | .error e => (m.complain e).advance

/-- Back in the caller, which gets the value and the status of the frame that ends and goes on at
its next line. The base frame has no caller. -/
def leave (m : Machine) (value : String) : Machine :=
  match m.stack.pop? with
  | none => m.complain .returnAtBase
  | some (callee, stack) =>
    let m := { m with stack := stack }
    (m.modifyTop fun f => { f with ret := value, status := callee.status }).advance

/-- What the flow of a command does to the stack. -/
def follow (m : Machine) (flow : Flow) : Machine :=
  match flow with
  | .next => m.advance
  | .goto label => m.jump (m.target "goto" label)
  | .call label args => m.enter label args (m.target "call" label)
  | .run name args =>
    m.enter name args (((m.load name).map (·, 0)).mapError (.noScript name))
  | .ret value => m.leave value

/-! ## Running -/

/-- Without the frames above a depth. -/
def truncate (m : Machine) (depth : Nat) : Machine :=
  { m with stack := m.stack.truncate depth }

/-- The line that the top frame is at: `none` where no script runs, and `some none` at the end. -/
def currentLine? (m : Machine) : Option (Option String) :=
  m.top.script.map fun script => script.lines[m.top.line]?

/-- A new frame on top, at the first line of a script. -/
def launch (m : Machine) (script : Script) (args : List String) : Machine :=
  { m with stack := m.stack.push (.ofScript script 0 (script.name :: args)) }

end Machine

/-- What happens around commands, in a monad. A program writes, waits and reads scripts there. -/
structure Around (μ : Type → Type) where
  /-- After a command, and after execution went on. -/
  after : Machine → μ Machine
  /-- Before execution goes on as a flow says. -/
  before : Flow → Machine → μ Machine

namespace Around

variable {μ : Type → Type} [Monad μ] (a : Around μ)

/-- One line and where it leads, and whether the program is to end. -/
@[specialize] def step (verbs : VerbTable) (line : String) (m : Machine) : μ (Bool × Machine) := do
  let (m, flow, halted) := m.command verbs line
  let m ← a.after m
  if halted then return (true, m)
  let m ← a.before flow m
  return (false, ← a.after (m.follow flow))

/-- Runs until no frame above `depth` is left, at most `fuel` steps. A frame at the end of its
script returns. Answers whether the program is to end, or `none` if the fuel gave out. -/
@[specialize] def runTo (verbs : VerbTable) (depth : Nat) :
    (fuel : Nat) → Machine → μ (Option (Bool × Machine))
  | 0, _ => return none
  | fuel + 1, m =>
    if m.stack.isWithin depth then return some (false, m)
    else match m.currentLine? with
      | none => return some (false, m)
      | some none => runTo verbs depth fuel (m.follow (.ret ""))
      | some (some line) => do
        match ← a.step verbs line m with
        | (true, m) => return some (true, m.truncate depth)
        | (false, m) => runTo verbs depth fuel m

/-- Nothing happens around commands. -/
def nothing : Around Id where
  after m := m
  before _ m := m

end Around

namespace Machine

variable {verbs : VerbTable}

/-- One line and where it leads, and whether the program is to end. -/
def step (verbs : VerbTable) (line : String) (m : Machine) : Bool × Machine :=
  (Around.nothing.step verbs line m).run

theorem step_eq (line : String) (m : Machine) :
    m.step verbs line =
      if (m.command verbs line).2.2 then (true, (m.command verbs line).1)
      else (false, (m.command verbs line).1.follow (m.command verbs line).2.1) := by
  simp only [step, Around.step, Around.nothing, bind, pure, Id.run]

/-- Runs until no frame above `depth` is left, at most `fuel` steps. -/
def runTo (verbs : VerbTable) (depth fuel : Nat) (m : Machine) : Option (Bool × Machine) :=
  (Around.nothing.runTo verbs depth fuel m).run

theorem runTo_succ (depth fuel : Nat) (m : Machine) :
    m.runTo verbs depth (fuel + 1) =
      if m.stack.isWithin depth then some (false, m)
      else match m.currentLine? with
        | none => some (false, m)
        | some none => (m.follow (.ret "")).runTo verbs depth fuel
        | some (some line) =>
          match m.step verbs line with
          | (true, m) => some (true, m.truncate depth)
          | (false, m) => m.runTo verbs depth fuel := by
  simp only [runTo, Around.runTo, step, bind, pure, Id.run]
  rfl

end Machine

/-- A machine and the verbs it knows. -/
structure Interpreter where
  machine : Machine
  verbs : VerbTable

namespace Interpreter

/-- Adds a verb behind the others. -/
def register (i : Interpreter) (names : List String) (handler : Handler) : Interpreter :=
  { verbs := i.verbs.register names handler
    machine := { i.machine with
      verbNames := i.machine.verbNames ++ names.map Text.asciiLower } }

/-- A name at the end of a list, unless it is in it. -/
def addName (names : List String) (name : String) : List String :=
  if names.contains name then names else names ++ [name]

/-- Adds a verb in front of the others. -/
def registerFront (i : Interpreter) (names : List String) (handler : Handler) : Interpreter :=
  { verbs := i.verbs.registerFront names handler
    machine := { i.machine with
      verbNames := (names.map Text.asciiLower).foldl addName i.machine.verbNames } }

/-- An interpreter with the core verbs on a machine. -/
def ofMachine (m : Machine) : Interpreter :=
  Verb.core.foldl (fun i verb => i.register verb.1 verb.2) { machine := m, verbs := {} }

/-- An interpreter with the core verbs, for a program with these arguments. -/
def ofArgs (args : List String) : Interpreter := ofMachine (.ofArgs args)

/-- The interpreter with the machine that a run left. -/
def after (i : Interpreter) (run : Option (Bool × Machine)) : Option (Bool × Interpreter) :=
  run.map fun (halted, m) => (halted, { i with machine := m })

end Interpreter

namespace Around

variable {μ : Type → Type} [Monad μ] (a : Around μ)

/-- Carries out a line in the top frame and then the frames that it pushed. -/
@[specialize] def executeLine (i : Interpreter) (fuel : Nat) (line : String) :
    μ (Option (Bool × Interpreter)) := do
  let depth := i.machine.stack.depth
  match ← a.step i.verbs line i.machine with
  | (true, m) => return i.after (some (true, m.truncate depth))
  | (false, m) => return i.after (← a.runTo i.verbs depth fuel m)

/-- Runs a script in a frame of its own. -/
@[specialize] def runScript (i : Interpreter) (fuel : Nat) (script : Script) (args : List String) :
    μ (Option (Bool × Interpreter)) := do
  let run ← a.runTo i.verbs i.machine.stack.depth fuel (i.machine.launch script args)
  return i.after run

/-- Runs the script of a name, if it can be had. -/
@[specialize] def runNamed (i : Interpreter) (fuel : Nat) (name : String) (args : List String) :
    μ (Except ScriptError (Option (Bool × Interpreter))) := do
  let m ← a.before (.run name args) i.machine
  match m.load name with
  | .error e => return .error e
  | .ok script => return .ok (← a.runScript { i with machine := m } fuel script args)

end Around

namespace Interpreter

/-- Carries out a line in the top frame and then the frames that it pushed. -/
def executeLine (i : Interpreter) (fuel : Nat) (line : String) : Option (Bool × Interpreter) :=
  (Around.nothing.executeLine i fuel line).run

theorem executeLine_eq (i : Interpreter) (fuel : Nat) (line : String) :
    i.executeLine fuel line =
      match i.machine.step i.verbs line with
      | (true, m) => i.after (some (true, m.truncate i.machine.stack.depth))
      | (false, m) => i.after (m.runTo i.verbs i.machine.stack.depth fuel) := by
  simp only [executeLine, Around.executeLine, Machine.step, Machine.runTo, bind, pure, Id.run]
  rfl

/-- Runs a script in a frame of its own. -/
def runScript (i : Interpreter) (fuel : Nat) (script : Script) (args : List String) :
    Option (Bool × Interpreter) :=
  (Around.nothing.runScript i fuel script args).run

theorem runScript_eq (i : Interpreter) (fuel : Nat) (script : Script) (args : List String) :
    i.runScript fuel script args =
      i.after ((i.machine.launch script args).runTo i.verbs i.machine.stack.depth fuel) := rfl

/-- Runs a script that is given as text. -/
def runSource (i : Interpreter) (fuel : Nat) (name source : String) (args : List String) :
    Option (Bool × Interpreter) :=
  i.runScript fuel (.ofSource name source) args

/-- Runs the script of a name, if it can be had. -/
def runNamed (i : Interpreter) (fuel : Nat) (name : String) (args : List String) :
    Except ScriptError (Option (Bool × Interpreter)) :=
  (Around.nothing.runNamed i fuel name args).run

theorem runNamed_eq (i : Interpreter) (fuel : Nat) (name : String) (args : List String) :
    i.runNamed fuel name args =
      (i.machine.load name).map fun script => i.runScript fuel script args := by
  show (match i.machine.load name with
    | .error e => Except.error e
    | .ok script => Except.ok (i.runScript fuel script args)) = _
  cases i.machine.load name <;> rfl

end Interpreter

end Testbench
