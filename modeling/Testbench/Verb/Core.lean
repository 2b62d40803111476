import Testbench.Integer
import Testbench.Json.Document
import Testbench.Verb.Basic

/-!
# The verbs that every interpreter has

Wrong usage is never an error of the program: it is reported, the status becomes 1, and the script
goes on.

* `Verb.assign`, `unset`, `setSize`, `listVariables` : variables.
* `Verb.goto`, `call`, `run`, `ret`, `branch`, `exit`, `setStatus` : control.
* `Verb.expect` : expectations, which are counted.
* `Verb.wait`, `sleep`, `reset` : events and time.
* `Verb.jsonDump`, `jsonXml` : documents.
* `Verb.core` : all of them, in the order in which `help` lists them.
-/

namespace Testbench.Verb

open Text

/-- The tokens from number `n` on, with spaces between them. -/
def words (tokens : List String) (n : Nat) : String := " ".intercalate (tokens.drop n)

def echo : Handler := fun tokens t => t.print (words tokens 1)

/-! ## Variables -/

def assign (scope : Scope) : Handler := fun tokens t =>
  match tokens[1]? with
  | some name => { t with machine := t.machine.setVariable scope name (words tokens 2) }
  | none =>
    let verb := tokens.headD ""
    t.fail (.usage s!"{verb} name [value...]")

def unset : Handler := fun tokens t =>
  match tokens[1]? with
  | none => t.fail (.usage "unset name")
  | some name =>
    match t.machine.unsetVariable? name with
    | some machine => { t with machine := machine, status := 0 }
    | none => { t with status := 1 }

def setSize : Handler := fun tokens t =>
  match tokens[1]?, tokens[2]?.bind Integer.read? with
  | some name, some size =>
    if size < 0 then t.fail (.negativeSize size)
    else match t.machine.setSize? name size.toNat with
      | some machine => { t with machine := machine, status := 0 }
      | none => t.fail (.sizeOfNothing name)
  | _, _ => t.fail (.usage "setsize name bytes")

/-- A variable as it is listed. -/
def listing (scope : String) (entry : String × Variable) : String :=
  s!"{scope} {entry.1}={entry.2.value}"

def listVariables : Handler := fun _ t =>
  let m := t.machine
  let lines := m.top.locals.entries.map (listing "local") ++
    m.board.globals.entries.map (listing "global")
  { t with machine := lines.foldl Machine.print m }

/-! ## Control -/

def goto : Handler := fun tokens t =>
  match tokens[1]? with
  | some label => { t with flow := .goto label }
  | none => t.fail (.usage "goto label")

def call : Handler := fun tokens t =>
  match tokens[1]? with
  | some label => { t with flow := .call label (tokens.drop 2) }
  | none => t.fail (.usage "call label [args...]")

def run : Handler := fun tokens t =>
  match tokens[1]? with
  | some script => { t with flow := .run script (tokens.drop 2) }
  | none => t.fail (.usage "run script [args...]")

def ret : Handler := fun tokens t => { t with flow := .ret (words tokens 1) }

/-- The words that end the condition of a branch. -/
def isJump (token : String) : Bool := sameAscii token "goto" || sameAscii token "call"

/-- A jump if the operands before it hold. -/
def branch : Handler := fun tokens t =>
  let operands := (tokens.drop 1).takeWhile fun token => !isJump token
  match (tokens.drop 1).dropWhile fun token => !isJump token with
  | [] => t.fail .noJump
  | [jump] => t.fail (.noLabel jump)
  | jump :: label :: args =>
    match Condition.eval operands with
    | .error e => t.fail (.condition "if" e)
    | .ok false => t
    | .ok true =>
      { t with flow := if sameAscii jump "goto" then .goto label else .call label args }

/-- Ends the program with a code. -/
def halt (code : Int) (t : Turn) : Turn :=
  { t with machine := { t.machine with exitCode := some code }, halted := true }

def exit : Handler := fun tokens t =>
  match tokens[1]? with
  | none => halt 0 t
  | some text =>
    match (Integer.read? text).filter Integer.isExitCode with
    | some code => halt code t
    | none => t.fail (.badExitCode text)

def setStatus : Handler := fun tokens t =>
  match tokens[1]?.bind Integer.read? with
  | some status => { t with status := status }
  | none => t.fail (.usage "status code")

/-! ## Expectations -/

/-- The line that tells how an expectation came out. -/
def verdict (held : Bool) (message got : String) : String :=
  if held then s!"PASS: {message}" else s!"FAIL: {message} (got '{got}')"

def expect : Handler := fun tokens t =>
  match tokens with
  | _ :: lhs :: op :: rhs :: message =>
    match Condition.eval [lhs, op, rhs] with
    | .error e => t.fail (.condition "expect" e)
    | .ok held =>
      let text := " ".intercalate (if message.isEmpty then [lhs, op, rhs] else message)
      let m := { t.machine with tally := t.machine.tally.record held }
      { t with machine := m.print (verdict held text lhs), status := if held then 0 else 1 }
  | _ => t.fail (.usage "expect lhs op rhs [message...]")

/-! ## Events and time -/

/-- Whether events stay, as the third token of a wait has it. -/
def waitMode (word : Option String) : WaitMode :=
  if word.any (sameAscii "peek") then .peek else .take

def wait : Handler := fun tokens t =>
  match tokens[1]?.bind Integer.readSize? with
  | none => t.fail (.usage "wait timeout_ms [peek]")
  | some limit =>
    let (outcome, board) := t.machine.board.wait limit (waitMode tokens[2]?)
    { t with
      machine := { t.machine with board := board }
      ret := outcome.text
      status := match outcome with
        | .events _ => 0
        | .timeout => 1 }

def sleep : Handler := fun tokens t =>
  match tokens[1]?.bind Integer.readSize? with
  | none => t.fail (.usage "sleep ms")
  | some ms => { t with machine := { t.machine with board := t.machine.board.pass ms } }

def reset : Handler := fun _ t =>
  { t with machine := { t.machine with board := t.machine.board.reset } }

/-! ## Documents -/

/-- The overrides that the tokens `path=literal` give, or the first token that gives none. -/
def readOverrides (o : Json.Overrides) : List String → Except VerbError Json.Overrides
  | [] => .ok o
  | text :: rest =>
    match cut? '=' text.toList with
    | some (path, literal) => readOverrides (o.set path literal) rest
    | none => .error (.badOverride text)

/-- The document that the value of a variable is. -/
def document (verb : String) (m : Machine) (name : String) : Except VerbError Json.Document :=
  match m.value? name with
  | none => .error (.noVariable name)
  | some text => (Json.Document.parse .relaxed text).mapError (.badJson verb name)

/-- Puts a text into a variable, with status 0, or complains. -/
def store (out : String) (text : Except VerbError String) (t : Turn) : Turn :=
  match text with
  | .ok text => { t with machine := t.machine.setVariable .auto out text, status := 0 }
  | .error e => t.fail e

def jsonDump : Handler := fun tokens t =>
  match tokens with
  | _ :: out :: name :: overrides =>
    store out (do
      let o ← readOverrides {} overrides
      let d ← document "jsondump" t.machine name
      return d.dump o) t
  | _ => t.fail (.usage "jsondump out src [path=literal...]")

def jsonXml : Handler := fun tokens t =>
  match tokens with
  | _ :: out :: name :: tag =>
    store out (do
      let d ← document "jsonxml" t.machine name
      return d.toXml tag.head?) t
  | _ => t.fail (.usage "jsonxml out src [roottag]")

/-! ## The table -/

def help : Handler := fun _ t => t.print (" ".intercalate t.machine.verbNames)

/-- The verbs that every interpreter has. -/
def core : List (List String × Handler) :=
  [(["echo"], echo),
   (["set"], assign .auto),
   (["setlocal"], assign .locals),
   (["setglobal"], assign .globals),
   (["unset"], unset),
   (["setsize"], setSize),
   (["vars"], listVariables),
   (["goto"], goto),
   (["call"], call),
   (["run"], run),
   (["return"], ret),
   (["if"], branch),
   (["exit", "quit"], exit),
   (["status"], setStatus),
   (["expect"], expect),
   (["wait"], wait),
   (["sleep"], sleep),
   (["reset"], reset),
   (["jsondump"], jsonDump),
   (["jsonxml"], jsonXml),
   (["help"], help)]

end Testbench.Verb
