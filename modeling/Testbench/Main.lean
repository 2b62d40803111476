import Std.Time.DateTime.Timestamp
import Testbench.Session
import Testbench.Text.Cut

/-!
# The program

The session of `Testbench.Session` with the files, the clock and the streams of the system. A
machine says what it wants to write, how late it is by its own clock, and which script comes next;
here that is written, waited for and read.

* `filesAt`, `currentWorld` : what is read before and between commands.
* `systemTerminal` : where a session writes, waits and asks for lines.
* `main` : the program.
-/

namespace Testbench

/-! ## Files -/

/-- What is found at a path now. A file that can be read counts as a regular one. -/
def stateOf (path : String) : IO FileState := do
  try
    return .file { content := ← IO.FS.readBinFile path }
  catch e =>
    match e with
    | .inappropriateType _ code _ => return if code == 21 then .directory else .belowFile
    | .invalidArgument .. => return .nameTooLong
    | .permissionDenied .. => return .locked
    | _ => return .missing

/-- What is found at some paths now. -/
def filesAt (paths : List String) : IO Files := do
  let states ← paths.mapM fun path => return (path, ← stateOf path)
  return fun path => (states.lookup path).getD .missing

/-- The text of a file, if it has one. -/
def textAt? (path : String) : IO (Option String) := return (← stateOf path).text.toOption

/-! ## The world -/

/-- The pieces between NULs. -/
def splitAtNul : List UInt8 → List (List UInt8)
  | [] => [[]]
  | b :: rest =>
    match b == 0, splitAtNul rest with
    | true, pieces => [] :: pieces
    | false, piece :: pieces => (b :: piece) :: pieces
    | false, [] => [[b]]

/-- A name and its value. -/
def readBinding? (bytes : List UInt8) : Option (String × String) := do
  let text ← String.fromUTF8? ⟨bytes.toArray⟩
  Text.cutString? '=' text

/-- The environment variables and their values. -/
def bindings : IO (List (String × String)) := do
  match ← stateOf "/proc/self/environ" with
  | .file f => return (splitAtNul f.content.toList).filterMap readBinding?
  | _ => return []

/-- The number of this process. -/
def processNumber : IO Nat := do
  let text := (← textAt? "/proc/self/stat").getD ""
  return (String.ofList (text.toList.takeWhile Char.isDigit)).toNat?.getD 0

/-- What the program is told from outside. -/
def currentWorld : IO World := do
  let known ← bindings
  let start ← Std.Time.Timestamp.now
  return {
    environment := fun name => known.lookup name
    hostFile := ← textAt? "/etc/hostname"
    processId := ← processNumber
    startedAt := start.toNanosecondsSinceUnixEpoch.val.toNat }

/-! ## The terminal -/

/-- Writes a piece of text. -/
def Written.put : Written → IO Unit
  | output text => do
    let out ← IO.getStdout
    out.putStr text
    out.flush
  | problem text => IO.eprint text

/-- Waits until the time is what the machine takes it to be, or tells the machine that it is later.
The clock of the machine starts at `startedAt`, by the clock that only goes forward. -/
partial def keepTime (startedAt : Nat) (m : Machine) : IO Machine := do
  let elapsed := (← IO.monoMsNow) - startedAt
  if elapsed < m.board.now then
    IO.sleep (min (m.board.now - elapsed) 1000000).toUInt32
    keepTime startedAt m
  else
    return { m with board := m.board.passTo elapsed }

/-- Waits, and then writes what was logged. -/
def settleUp (startedAt : Nat) (m : Machine) : IO Machine := do
  let m ← keepTime startedAt m
  m.log.forM fun line => (Written.ofLog line).put
  return { m with log := #[] }

/-- The machine with the scripts at hand that a flow may ask for. -/
def fetch (scriptDir : Option String) (flow : Flow) (m : Machine) : IO Machine := do
  match flow with
  | .run name _ =>
    let files ← filesAt (Files.scriptPaths scriptDir name)
    return { m with loader := some (files.loader scriptDir) }
  | _ => return m

/-- Writes all that is to be written, and waits for the machine. -/
def flush (startedAt : Nat) (s : Session) : IO Session := do
  s.written.forM Written.put
  let m ← settleUp startedAt s.interpreter.machine
  return { s with interpreter := { s.interpreter with machine := m }, written := #[] }

/-- The first line of a stream. What cannot be read is no line. -/
def nextLine (input : IO.FS.Stream) : IO (Option (String × IO.FS.Stream)) := do
  let text ← try input.getLine catch _ => pure ""
  return (Text.stringLines text).head?.map (·, input)

/-- The terminal of a program that was started at a time and has its scripts in a directory. -/
def systemTerminal (startedAt : Nat) (scriptDir : Option String) : Terminal IO IO.FS.Stream where
  after := settleUp startedAt
  before := fetch scriptDir
  rest := flush startedAt
  ask := nextLine

/-- More steps than any run takes. -/
def unlimited : Nat := 1000000000000000000

end Testbench

/-- The program. -/
def main (arguments : List String) : IO UInt32 := do
  let terminal := Testbench.systemTerminal (← IO.monoMsNow)
  let some verdict ← Testbench.Terminal.run Testbench.filesAt terminal Testbench.unlimited
    Testbench.unlimited (← Testbench.currentWorld) arguments (← IO.getStdin) | return 1
  verdict.written.forM Testbench.Written.put
  return verdict.status.toUInt32
