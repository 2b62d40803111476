import Testbench.Config
import Testbench.Files.Basic
import Testbench.Loopback
import Testbench.Options

/-!
# Sessions

A session is one call of the program: it reads its arguments and settings, carries out a command or
a script or else the lines it is given, and ends with an exit status.

* `Session.start` : the session before its first command, for arguments that can be read.
* `Session.finish` : the tally and the exit status.
* `Terminal.execute`, `interact`, `runScript`, `run` : one line, lines until one ends the program, a
  script, and a whole session, in any monad.
* `Session.execute`, `interact`, `runScript`, `run` : the same for a session that nothing outside
  takes part in.
-/

namespace Testbench

/-- A piece of text that was written, and whether it tells of a problem. -/
inductive Written where
  | output (text : String)
  | problem (text : String)
  deriving DecidableEq, Repr

namespace Written

/-- A line about a problem, under the name of the program. -/
def notice (text : String) : Written := .problem s!"certsh: {text}\n"

/-- A line of the log. -/
def ofLog : LogLine → Written
  | .printed text => .output s!"{text}\n"
  | .diagnostic text => notice text

/-- The part of it that is output. -/
def outputText : Written → String
  | output text => text
  | problem _ => ""

/-- The part of it that tells of problems. -/
def problemText : Written → String
  | output _ => ""
  | problem text => text

end Written

/-- What a session wrote, and its exit status. -/
structure Verdict where
  written : List Written
  status : Nat
  deriving DecidableEq, Repr

/-- The exit status of a code: only its last eight bits are kept. -/
def exitStatus (code : Int) : Nat := (code % 256).toNat

/-- An interpreter, and what was written so far. -/
structure Session where
  interpreter : Interpreter
  quiet : Bool := false
  written : Array Written := #[]

namespace Session

/-! ## Settings -/

/-- The file with the settings. -/
def configName : String := "certsh.conf"

/-- The directory of the user's own settings: the one that the environment names for settings, if
it does so from the root, or else one in the home directory. -/
def settingsDir? (w : World) : Option String :=
  match (w.valueOf? "XDG_CONFIG_HOME").filter isAbsolute, w.valueOf? "HOME" with
  | some dir, _ => some dir
  | none, some home => if home.isEmpty then none else some (joinPath home ".config")
  | none, none => none

/-- The file with the user's own settings. -/
def userConfig? (w : World) : Option String :=
  (settingsDir? w).map fun dir => joinPath (joinPath dir "certsh") configName

/-- The usual places for settings. -/
def usualConfigs (w : World) : List String := configName :: (userConfig? w).toList

/-- The places where settings may be. -/
def configPlaces (w : World) : ConfigChoice → List String
  | .skip => []
  | .file path => [path]
  | .search => usualConfigs w

/-- Where settings are read from. A file that was asked for is read even if it is not there. -/
def config? (w : World) (files : Files) : ConfigChoice → Option String
  | .skip => none
  | .file path => some path
  | .search => (usualConfigs w).find? fun path => (files path).isFound

/-- The settings of a file, and what is to be said about them. -/
def readConfig (files : Files) (path : String) : Config × List Written :=
  match (files path).text with
  | .error e => ({}, [.notice s!"warning: {path}: {e.message}"])
  | .ok text =>
    let (config, errors) := Config.read text
    (config, errors.map fun e => .notice s!"config {e.message}")

/-- The settings, and what is to be said about them. -/
def loadConfig (w : World) (files : Files) (choice : ConfigChoice) : Config × List Written :=
  match config? w files choice with
  | some path => readConfig files path
  | none => ({}, [])

/-! ## Before the first command -/

/-- The global variables that settings give. -/
def presetGlobals (c : Config) : Variables :=
  c.globals.entries.foldl (fun t e => t.set e.1 e.2.value) {}

/-- The machine of a program with these arguments and settings. -/
def machine (w : World) (files : Files) (o : Options) (c : Config) : Machine :=
  { Machine.ofArgs (o.script.getD "certsh" :: o.scriptArgs) with
    board := { globals := presetGlobals c }
    loader := some (files.loader c.scriptDir)
    world := w
    echo := c.echo }

/-- The session before its first command. -/
def start (w : World) (files : Files) (o : Options) : Session :=
  let (c, written) := loadConfig w files o.config
  { interpreter := Loopback.install c.driver (.ofMachine (machine w files o c))
    quiet := o.quiet
    written := written.toArray }

/-! ## Lines -/

def write (s : Session) (w : Written) : Session := { s with written := s.written.push w }

/-- What the interpreter logged has been written. -/
def absorb (s : Session) (i : Interpreter) : Session :=
  { s with
    interpreter := { i with machine := { i.machine with log := #[] } }
    written := s.written ++ i.machine.log.map .ofLog }

/-- What greets the user. -/
def banner : String :=
  s!"certsh {Loopback.version} - type 'help' for verbs, 'exit' to quit\n"

/-- What asks for a line. -/
def prompt : String := "certsh> "

/-- Writes something for the user, who may want quiet. -/
def address (s : Session) (text : String) : Session :=
  if s.quiet then s else s.write (.output text)

/-! ## The end -/

/-- The exit code: the one that a command gave, or else whether all expectations held. -/
def exitCode (m : Machine) : Int := m.exitCode.getD (if m.tally.failed > 0 then 1 else 0)

/-- How the expectations came out, if there were any. -/
def summary (s : Session) : List Written :=
  let t := s.interpreter.machine.tally
  if t.total > 0 && !s.quiet then [.notice s!"{t.passed} passed, {t.failed} failed"] else []

/-- The end after the last command. -/
def finish (s : Session) : Verdict :=
  ⟨s.written.toList ++ s.summary, exitStatus (exitCode s.interpreter.machine)⟩

/-- The end for want of the script. -/
def abandon (s : Session) (e : ScriptError) : Verdict := ⟨s.written.toList ++ [.notice e.message], 1⟩

/-- The end for arguments that cannot be read. -/
def refuse (e : UsageError) : Verdict :=
  ⟨[.notice e.message, .problem s!"{Options.usage}\n"], 2⟩

end Session

/-! ## The whole -/

/-- How a session meets the outside, in a monad: what happens around its commands, where it shows
what it wrote, and where its lines come from. -/
structure Terminal (μ : Type → Type) (ι : Type) extends Around μ where
  /-- Between lines. -/
  rest : Session → μ Session
  /-- The next line of the input, and what is left of it. -/
  ask : ι → μ (Option (String × ι))

namespace Terminal

variable {μ : Type → Type} {ι : Type} [Monad μ] (t : Terminal μ ι)

/-- Carries out one line. Answers whether the program is to end. -/
@[specialize] def execute (s : Session) (fuel : Nat) (line : String) :
    μ (Option (Bool × Session)) := do
  let run ← t.executeLine s.interpreter fuel line
  return run.map fun (halted, i) => (halted, s.absorb i)

/-- Asks for lines, at most `limit` times, and carries them out until there are no more or the
program is to end. -/
@[specialize] def interact (fuel : Nat) : (limit : Nat) → ι → Session → μ (Option Session)
  | 0, _, _ => return none
  | limit + 1, input, s => do
    let s ← t.rest (s.address Session.prompt)
    match ← t.ask input with
    | none => return some s
    | some (line, input) =>
      let s ← t.rest s
      match ← t.execute s fuel line with
      | none => return none
      | some (true, s) => return some s
      | some (false, s) => interact fuel limit input s

/-- Carries out the command among the options, if there is one. -/
@[specialize] def runCommand (s : Session) (fuel : Nat) (command : Option String) :
    μ (Option (Bool × Session)) :=
  match command with
  | some line => t.execute s fuel line
  | none => return some (false, s)

/-- Carries out a script. -/
@[specialize] def runScript (s : Session) (fuel : Nat) (name : String) (args : List String) :
    μ (Option Verdict) := do
  match ← t.runNamed s.interpreter fuel name args with
  | .error e => return some (s.abandon e)
  | .ok run => return run.map fun (_, i) => (s.absorb i).finish

/-- Carries out the script among the options; without script and command, the lines. -/
@[specialize] def runRest (s : Session) (fuel limit : Nat) (o : Options) (input : ι) :
    μ (Option Verdict) := do
  match o.script with
  | some name => t.runScript s fuel name o.scriptArgs
  | none =>
    if o.command.isSome then return some s.finish
    let s ← t.interact fuel limit input (s.address Session.banner)
    return s.map Session.finish

/-- A session with these arguments, or `none` if the fuel or the limit gave out. The terminal is for
scripts from a directory. -/
@[specialize] def run (look : List String → μ Files) (terminal : Option String → Terminal μ ι)
    (fuel limit : Nat) (w : World) (arguments : List String) (input : ι) : μ (Option Verdict) := do
  match Options.read arguments with
  | .error e => return some (Session.refuse e)
  | .ok o =>
    let files ← look (Session.configPlaces w o.config)
    let t := terminal (Session.loadConfig w files o.config).1.scriptDir
    let s ← t.rest (Session.start w files o)
    match ← t.runCommand s fuel o.command with
    | none => return none
    | some (true, s) => return some s.finish
    | some (false, s) => t.runRest s fuel limit o input

/-- The terminal of a session whose lines are known before it starts. -/
def ofLines : Terminal Id (List String) where
  toAround := .nothing
  rest s := s
  ask
    | [] => none
    | line :: rest => some (line, rest)

end Terminal

namespace Session

/-- Carries out one line. Answers whether the program is to end. -/
def execute (s : Session) (fuel : Nat) (line : String) : Option (Bool × Session) :=
  (Terminal.ofLines.execute s fuel line).run

/-- Asks for lines and carries them out until there are no more or the program is to end. -/
def interact (fuel : Nat) (lines : List String) (s : Session) : Option Session :=
  (Terminal.ofLines.interact fuel (lines.length + 1) lines s).run

/-- Carries out the command among the options, if there is one. -/
def runCommand (s : Session) (fuel : Nat) (command : Option String) : Option (Bool × Session) :=
  (Terminal.ofLines.runCommand s fuel command).run

/-- Carries out a script. -/
def runScript (s : Session) (fuel : Nat) (name : String) (args : List String) : Option Verdict :=
  (Terminal.ofLines.runScript s fuel name args).run

theorem runScript_eq (s : Session) (fuel : Nat) (name : String) (args : List String) :
    s.runScript fuel name args =
      match s.interpreter.runNamed fuel name args with
      | .error e => some (s.abandon e)
      | .ok run => run.map fun (_, i) => (s.absorb i).finish := by
  simp only [runScript, Terminal.runScript, Interpreter.runNamed, bind, pure, Id.run]
  rfl

/-- Carries out the script among the options; without script and command, the lines. -/
def runRest (s : Session) (fuel : Nat) (o : Options) (lines : List String) : Option Verdict :=
  (Terminal.ofLines.runRest s fuel (lines.length + 1) o lines).run

/-- A session with these arguments and this input, or `none` if the fuel gave out. -/
def run (fuel : Nat) (w : World) (files : Files) (arguments : List String) (input : String) :
    Option Verdict :=
  let lines := Text.stringLines input
  (Terminal.run (fun _ => pure files) (fun _ => .ofLines) fuel (lines.length + 1) w arguments
    lines).run

theorem run_eq (fuel : Nat) (w : World) (files : Files) (arguments : List String)
    (input : String) :
    run fuel w files arguments input =
      match Options.read arguments with
      | .error e => some (refuse e)
      | .ok o =>
        match (start w files o).runCommand fuel o.command with
        | none => none
        | some (true, s) => some s.finish
        | some (false, s) => s.runRest fuel o (Text.stringLines input) := rfl

end Session

end Testbench
