/-!
# The arguments of the program

Flags come first, one or several letters after a hyphen. The first argument that is no flag, or
the first one after `--`, is the script; all after it are the arguments of the script.

* `Options.readLetters` : the letters of one argument; a flag may take what follows it.
* `Options.readFrom`, `Options.read` : all arguments.
-/

namespace Testbench

/-- Which settings are read. -/
inductive ConfigChoice where
  /-- Those in the first of the usual places that has some. -/
  | search
  | skip
  | file (path : String)
  deriving DecidableEq, Repr

/-- What the arguments of the program say. -/
structure Options where
  config : ConfigChoice := .search
  command : Option String := none
  debug : Bool := false
  quiet : Bool := false
  script : Option String := none
  scriptArgs : List String := []
  deriving DecidableEq, Repr

/-- What can be wrong with the arguments of the program. -/
inductive UsageError where
  | noCommand
  | unknownFlag (letter : Char)
  deriving DecidableEq, Repr

def UsageError.message : UsageError → String
  | noCommand => "-c requires a command argument"
  | unknownFlag letter => s!"unknown option: -{letter}"

namespace Options

/-- How the program is called. -/
def usage : String := "Usage: certsh [-f[<file>]] [-c<cmd>] [-dq] [--] [<script> [<arg>...]]"

/-- With a script and its arguments. -/
def withScript (o : Options) (words : List String) : Options :=
  { o with script := words.head?, scriptArgs := words.tail }

/-- What the letters of an argument say, and those of the arguments after it that are left. -/
def readLetters (o : Options) (rest : List String) :
    List Char → Except UsageError (Options × List String)
  | [] => .ok (o, rest)
  | 'd' :: letters => readLetters { o with debug := true } rest letters
  | 'q' :: letters => readLetters { o with quiet := true } rest letters
  | ['f'] => .ok ({ o with config := .skip }, rest)
  | 'f' :: path => .ok ({ o with config := .file (String.ofList path) }, rest)
  | ['c'] =>
    match rest with
    | [] => .error .noCommand
    | command :: rest => .ok ({ o with command := some command }, rest)
  | 'c' :: command => .ok ({ o with command := some (String.ofList command) }, rest)
  | letter :: _ => .error (.unknownFlag letter)

theorem length_le_of_readLetters {o o' : Options} {rest rest' : List String}
    {letters : List Char} (h : readLetters o rest letters = .ok (o', rest')) :
    rest'.length ≤ rest.length := by
  fun_induction readLetters o rest letters <;> grind

/-- What arguments say, on top of what is known. -/
def readFrom (o : Options) (arguments : List String) : Except UsageError Options :=
  match arguments with
  | [] => .ok o
  | argument :: rest =>
    match argument.toList with
    | ['-', '-'] => .ok (o.withScript rest)
    | '-' :: letter :: letters =>
      match h : o.readLetters rest (letter :: letters) with
      | .ok (o, rest') =>
        have := length_le_of_readLetters h
        readFrom o rest'
      | .error e => .error e
    | _ => .ok (o.withScript arguments)
termination_by arguments.length

/-- What the arguments of the program say. -/
def read (arguments : List String) : Except UsageError Options := readFrom {} arguments

end Options

end Testbench
