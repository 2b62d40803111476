import Testbench.Integer
import Testbench.Json.Document
import Testbench.Line.Token
import Testbench.Machine
import Testbench.Placeholder
import Testbench.Text.Case

/-!
# Where placeholders get their values

The host's own sources come first; the others are the frames, the variables, the clock and the
environment, texts, JSON documents and the tally. A source that does not know its argument gives
nothing.

* `Machine.builtin?` : the sources that every machine has.
* `Machine.resolve?` : the value of a source, whatever the case of its name.
* `Machine.host` : a machine as the host of placeholder expansion.
-/

namespace Testbench

namespace Machine

open Text

/-- The frame with the number that a text denotes, or else the top frame. -/
def frameOf (m : Machine) (number : String) : Frame :=
  match Integer.read? number with
  | some index => m.stack.frameAt index
  | none => m.top

/-- An argument of a frame by its number, or their number for `#`. -/
def argument? (f : Frame) (which : String) : Option String :=
  if trimmed which == "#" then some (toString f.argumentCount)
  else (Integer.readSize? which).bind fun n => f.args[n]?

/-- An argument of the top frame, or of the frame whose number stands before a colon. -/
def frameArgument? (m : Machine) (argument : String) : Option String :=
  match cutString? ':' argument with
  | some (number, which) => argument? (m.frameOf number) which
  | none => argument? m.top argument

/-- A token of the value of a variable; the number of the token stands after the last colon. -/
def tokenOf? (m : Machine) (argument : String) : Option String := do
  let (name, index) ← cutLastString? ':' argument
  let index ← Integer.readSize? index
  (Line.tokenize (← m.value? name))[index]?

/-- The size of a variable: the one it was given, or the number of bytes of its value. -/
def sizeOf? (m : Machine) (name : String) : Option String :=
  (m.lookup? name).map fun (_, v) => toString (v.byteLength.getD v.value.utf8ByteSize)

/-- The date and time now. -/
def calendar (m : Machine) : Calendar :=
  .ofNanos (m.world.startedAt + m.board.now * 1000000)

/-- The name of the host, from the environment or else from the file that holds it. -/
def hostName? (w : World) : Option String :=
  match w.valueOf? "HOSTNAME" with
  | some name => some name
  | none => (w.hostFile.map trimmed).filter fun name => !name.isEmpty

/-- The name of the user. -/
def userName? (w : World) : Option String := w.valueOf? "USER" <|> w.valueOf? "USERNAME"

/-- The document that the value of a variable is. -/
def document? (m : Machine) (name : String) : Option Json.Document :=
  (m.value? name).bind fun text => (Json.Document.parse .relaxed text).toOption

/-- The text at a path in a document. -/
def jsonText? (m : Machine) (argument : String) : Option String :=
  let (name, path) := (cutString? ':' argument).getD (argument, "")
  (m.document? name).bind fun d => d.get? path

/-- A count that may be left out, the rest of a text being its spelling. -/
def sizeOr? (default : Nat) (spelling : List String) : Option Nat :=
  match spelling with
  | [] => some default
  | words => Integer.readSize? (":".intercalate words)

/-- The index of the first element of an array with a member, from a start on and among so many; -1
if there is none. -/
def jsonKey? (m : Machine) (argument : String) : Option String :=
  match (fields ':' argument.toList).map String.ofList with
  | name :: spec :: window => do
    let start ← sizeOr? 0 (window.take 1)
    let count ← sizeOr? Json.maxIndex (window.drop 1)
    let d ← m.document? name
    match d.findKey? spec start count with
    | some index => some (toString index)
    | none => some "-1"
  | _ => none

/-- One of the counts of the tally. -/
def tallyCount? (t : Tally) (which : String) : Option Nat :=
  match which with
  | "passed" => some t.passed
  | "failed" => some t.failed
  | "total" => some t.total
  | "" => some t.total
  | _ => none

/-- The value that a source of the machine itself has for an argument. -/
def builtin? (m : Machine) (source argument : String) : Option String :=
  match source with
  | "arg" => m.frameArgument? argument
  | "args" => some (" ".intercalate ((m.frameOf argument).args.drop 1))
  | "ret" => some (m.frameOf argument).ret
  | "status" => some (toString (m.frameOf argument).status)
  | "depth" => some (toString m.stack.depth)
  | "line" => some (if m.top.script.isSome then toString (m.top.line + 1) else "0")
  | "script" => some (m.top.scriptName?.getD "")
  | "get" => m.value? argument
  | "geti" => m.tokenOf? argument
  | "size" => m.sizeOf? argument
  | "defined" => some (if (m.lookup? argument).isSome then "1" else "0")
  | "time" => m.calendar.format? (if argument.isEmpty then "%H:%M:%S" else argument)
  | "date" => m.calendar.format? "%Y-%m-%d"
  | "ticks" => some (toString m.board.now)
  | "env" => m.world.valueOf? argument
  | "user" => userName? m.world
  | "host" => hostName? m.world
  | "pid" => some (toString m.world.processId)
  | "len" => some (toString argument.length)
  | "upper" => some (String.ofList (upper argument.toList))
  | "lower" => some (String.ofList (lower argument.toList))
  | "json" => m.jsonText? argument
  | "jsonkey" => m.jsonKey? argument
  | "tally" => (tallyCount? m.tally argument).map toString
  | _ => none

/-- The value of a source. A source of the host always has one, empty if need be. -/
def resolve? (m : Machine) (source argument : String) : Option String :=
  let source := Text.asciiLower source
  match m.sources.lookup source with
  | some value => some ((value m.board argument).getD "")
  | none => m.builtin? source argument

/-- Adds a source of the host, or puts it in place of the one with its name. -/
def addSource (m : Machine) (name : String) (source : Source) : Machine :=
  let name := Text.asciiLower name
  { m with sources := (name, source) :: m.sources.filter fun s => s.1 != name }

/-- Whether the host has a source of this name. -/
def hasSource (m : Machine) (name : String) : Bool :=
  (m.sources.lookup (Text.asciiLower name)).isSome

/-- A machine as the host of placeholder expansion. -/
def host : Placeholder.Host Machine where
  resolve source argument m := (m.resolve? source argument, m)
  report limit m := m.report limit.message

end Machine

end Testbench
