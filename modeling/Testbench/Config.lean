import Testbench.Line.Token
import Testbench.Text.Blank
import Testbench.Text.Case
import Testbench.Text.Cut
import Testbench.Text.Lines
import Testbench.Variables

/-!
# Settings

Settings are read from a text with one setting a line: `key = value`, or `set` and a global
variable. Blank lines and lines that start with a semicolon say nothing. A line that is no setting
is reported and changes nothing.

* `Config.readLine` : the settings after a line, or what is wrong with it.
* `Config.readLines`, `Config.read` : the settings of a text, and what is wrong with which line.
-/

namespace Testbench

/-- Settings. -/
structure Config where
  logLevel : Option String := none
  scriptDir : Option String := none
  driver : String := "loopback"
  echo : Bool := false
  globals : Variables := {}
  deriving DecidableEq, Repr

/-- What can be wrong with a line. -/
inductive SettingError where
  | noEquals (line : String)
  | unknownSetting (key : String)
  | emptyDriver
  | notBoolean (value : String)
  | noArgument
  | noValue (name : String)
  | emptyName
  deriving DecidableEq, Repr

def SettingError.message : SettingError → String
  | noEquals line => s!"expected 'key = value', got '{line}'"
  | unknownSetting key => s!"unknown setting '{key}'"
  | emptyDriver => "driver: name cannot be empty"
  | notBoolean value => s!"echo: not a boolean: '{value}'"
  | noArgument => "set: requires an argument"
  | noValue name => s!"set: missing value for '{name}'"
  | emptyName => "set: variable name cannot be empty"

/-- A line, counted from 1, and what is wrong with it. -/
structure ConfigError where
  line : Nat
  cause : SettingError
  deriving DecidableEq, Repr

def ConfigError.message (e : ConfigError) : String := s!"line {e.line}: {e.cause.message}"

namespace Config

open Text

/-! ## Values -/

/-- A text without the quote `q` at both ends, if it has it at both. -/
def stripped? (q : Char) (s : List Char) : Option (List Char) :=
  match s with
  | c :: rest => if c = q ∧ rest.getLast? = some q then some rest.dropLast else none
  | [] => none

/-- A value without the quotes around it. -/
def unquoted (s : List Char) : List Char :=
  (stripped? '\"' s <|> stripped? '\'' s).getD s

/-- What a word for on or off says. -/
def readSwitch? (word : String) : Option Bool :=
  match asciiLower word with
  | "1" => some true
  | "on" => some true
  | "yes" => some true
  | "true" => some true
  | "0" => some false
  | "off" => some false
  | "no" => some false
  | "false" => some false
  | _ => none

/-! ## Lines -/

/-- The settings with a value for a key. -/
def apply (c : Config) (key value : String) : Except SettingError Config :=
  match key with
  | "log_level" => .ok { c with logLevel := some value }
  | "script_dir" => .ok { c with scriptDir := some value }
  | "driver" => if value.isEmpty then .error .emptyDriver else .ok { c with driver := value }
  | "echo" =>
    match readSwitch? value with
    | some echo => .ok { c with echo := echo }
    | none => .error (.notBoolean value)
  | _ => .error (.unknownSetting key)

/-- The settings after the line `key = value`. -/
def readSetting (c : Config) (line : List Char) : Except SettingError Config :=
  match cut? '=' line with
  | none => .error (.noEquals (String.ofList line))
  | some (key, value) =>
    c.apply (String.ofList (trim key)) (String.ofList (unquoted (trim value)))

/-- The name and value that the tokens `name=value`, or `name` and a value, give. -/
def readVariable (tokens : List String) : Except SettingError (String × String) :=
  match tokens with
  | [] => .error .noArgument
  | first :: rest =>
    if first.isEmpty then .error .noArgument
    else match cutString? '=' first, rest with
      | some (name, value), _ => if name.isEmpty then .error .emptyName else .ok (name, value)
      | none, [] => .error (.noValue first)
      | none, rest => .ok (first, " ".intercalate rest)

/-- The white space that sets off the word `set`. -/
def isSeparator (c : Char) : Bool :=
  c == ' ' || c == '\t' || c == '\n' || c == '\x0C' || c == '\r'

/-- What follows the word `set` in a line that starts with it. -/
def afterSet? (line : List Char) : Option (List Char) :=
  match line with
  | 's' :: 'e' :: 't' :: c :: rest => if isSeparator c then some (c :: rest) else none
  | _ => none

/-- Whether a line says nothing. -/
def isRemark (line : List Char) : Bool := line.isEmpty || line.head? == some ';'

/-- The settings after a line, which has no white space around it. -/
def readLine (c : Config) (line : List Char) : Except SettingError Config :=
  if isRemark line then .ok c
  else match afterSet? line with
    | some rest =>
      (readVariable (Line.tokenize (String.ofList rest))).map fun (name, value) =>
        { c with globals := c.globals.set name value }
    | none => c.readSetting line

/-- The settings after lines of which `number` is the number of the first, and the errors. -/
def readLines (c : Config) (number : Nat) : List (List Char) → Config × List ConfigError
  | [] => (c, [])
  | line :: rest =>
    match c.readLine (trim line) with
    | .ok c => c.readLines (number + 1) rest
    | .error cause =>
      let (c, errors) := c.readLines (number + 1) rest
      (c, ⟨number, cause⟩ :: errors)

/-- The settings of a text, and what is wrong with which line of it. -/
def read (text : String) : Config × List ConfigError := readLines {} 1 (lines text.toList)

end Config

end Testbench
