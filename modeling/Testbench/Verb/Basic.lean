import Testbench.Condition
import Testbench.Json.Reader
import Testbench.Machine

/-!
# Verbs

The first token of a command names the verb that carries it out. A verb works on a `Turn`: the
machine together with the status and return value of the top frame, and where execution goes on.

* `Flow` : where execution goes on after a command.
* `VerbError`, `Turn.fail` : what a verb can complain of, and how it does.
* `VerbTable.register`, `registerFront`, `find?` : which verb a name stands for.
-/

namespace Testbench

/-- Where execution goes on after a command. -/
inductive Flow where
  /-- At the next line. -/
  | next
  /-- After a label of the same script. -/
  | goto (label : String)
  /-- After a label of the same script, in a new frame. -/
  | call (label : String) (args : List String)
  /-- At the first line of another script, in a new frame. -/
  | run (script : String) (args : List String)
  /-- In the caller, which gets a value. -/
  | ret (value : String)
  deriving DecidableEq, Repr

/-- What a verb can complain of. -/
inductive VerbError where
  | usage (form : String)
  | negativeSize (size : Int)
  | sizeOfNothing (name : String)
  | noJump
  | noLabel (jump : String)
  | condition (verb : String) (error : ConditionError)
  | badExitCode (text : String)
  | badOverride (text : String)
  | noVariable (name : String)
  | badJson (verb name : String) (error : Json.Error)
  | badDelay (text : String)
  /-- A complaint of the host's own verbs. -/
  | other (text : String)
  deriving DecidableEq, Repr

def VerbError.message : VerbError → String
  | usage form => s!"usage: {form}"
  | negativeSize size => s!"setsize: negative size {size}"
  | sizeOfNothing name => s!"setsize: no variable '{name}'"
  | noJump => "if: expected 'goto' or 'call'"
  | noLabel jump => s!"if: missing label after '{jump}'"
  | condition verb error => s!"{verb}: {error.message}"
  | badExitCode text => s!"exit: bad code '{text}'"
  | badOverride text => s!"jsondump: bad override '{text}'"
  | noVariable name => s!"no variable '{name}'"
  | badJson verb name error => s!"{verb}: {name}: {error.message}"
  | badDelay text => s!"notify: bad delay '{text}'"
  | other text => text

/-- A machine while it carries out a command. `place` is the name of the running script and the
number of the line, from 1; `halted` tells that the program is to end. -/
structure Turn where
  machine : Machine
  status : Int := 0
  ret : String := ""
  flow : Flow := .next
  place : Option (String × Nat) := none
  halted : Bool := false

namespace Turn

/-- A message with the place in front, if a script is running. -/
def located (t : Turn) (message : String) : String :=
  match t.place with
  | some (script, line) => s!"{script}:{line}: {message}"
  | none => message

/-- A complaint: a diagnostic, and status 1. -/
def fail (t : Turn) (e : VerbError) : Turn :=
  { t with machine := t.machine.report (t.located e.message), status := 1 }

def print (t : Turn) (text : String) : Turn := { t with machine := t.machine.print text }

end Turn

/-- Carries out a command, given all its tokens. -/
abbrev Handler := List String → Turn → Turn

/-- A handler and the names it goes by, which are in lower case. -/
structure Verb where
  names : List String
  handler : Handler

/-- Verbs in the order in which they are tried. -/
structure VerbTable where
  verbs : List Verb := []

namespace VerbTable

/-- Adds a verb behind the others. -/
def register (t : VerbTable) (names : List String) (handler : Handler) : VerbTable :=
  ⟨t.verbs ++ [⟨names.map Text.asciiLower, handler⟩]⟩

/-- Adds a verb in front of the others. -/
def registerFront (t : VerbTable) (names : List String) (handler : Handler) : VerbTable :=
  ⟨⟨names.map Text.asciiLower, handler⟩ :: t.verbs⟩

/-- The handler of the first verb with this name, in any case. -/
def find? (t : VerbTable) (name : String) : Option Handler :=
  (t.verbs.find? fun v => v.names.contains (Text.asciiLower name)).map Verb.handler

end VerbTable

end Testbench
