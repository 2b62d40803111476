import Testbench.Script

/-!
# Files

* `FileState` : what is found at a path; `Files` : what is found at every path.
* `FileState.text` : the text of a file, or why it cannot be had.
* `joinPath` : a path below a directory.
* `Files.loader` : finds scripts by their paths, or in a directory of scripts.
-/

namespace Testbench

/-- A file. Devices and the like are files that are not regular. -/
structure File where
  content : ByteArray
  regular : Bool := true

/-- What is found at a path. -/
inductive FileState where
  | missing
  /-- The path goes on after the name of a file. -/
  | belowFile
  /-- The path, or a name in it, is longer than they can be. -/
  | nameTooLong
  | directory
  | file (f : File)
  /-- A file that may not be read. -/
  | locked

/-- Why the text of a file cannot be had. -/
inductive ReadError where
  | missing
  | belowFile
  | nameTooLong
  | directory
  | forbidden
  | notText
  deriving DecidableEq, Repr

def ReadError.message : ReadError → String
  | missing => "No such file or directory (os error 2)"
  | belowFile => "Not a directory (os error 20)"
  | nameTooLong => "File name too long (os error 36)"
  | directory => "Is a directory (os error 21)"
  | forbidden => "Permission denied (os error 13)"
  | notText => "stream did not contain valid UTF-8"

namespace FileState

/-- Whether there is anything. -/
def isFound : FileState → Bool
  | directory => true
  | file _ => true
  | locked => true
  | _ => false

def isRegular : FileState → Bool
  | file f => f.regular
  | locked => true
  | _ => false

/-- The text of a file, which is kept in UTF-8. -/
def text : FileState → Except ReadError String
  | missing => .error .missing
  | belowFile => .error .belowFile
  | nameTooLong => .error .nameTooLong
  | directory => .error .directory
  | locked => .error .forbidden
  | file f =>
    match String.fromUTF8? f.content with
    | some text => .ok text
    | none => .error .notText

end FileState

/-- Whether a path starts at the root. -/
def isAbsolute (path : String) : Bool := path.toList.head? == some '/'

/-- A path below a directory. A path from the root stays as it is. -/
def joinPath (dir path : String) : String :=
  if isAbsolute path || dir.isEmpty then path
  else if dir.toList.getLast? == some '/' then dir ++ path
  else dir ++ "/" ++ path

/-- What is found at every path. -/
abbrev Files := String → FileState

namespace Files

/-- Where a script of this name may be, the first place first. -/
def scriptPaths (scriptDir : Option String) (name : String) : List String :=
  name :: (scriptDir.map (joinPath · name)).toList

/-- Loads the script that is in the first place that has a regular file. -/
def loader (files : Files) (scriptDir : Option String) : Loader := fun name =>
  match (scriptPaths scriptDir name).find? fun path => (files path).isRegular with
  | none => .error (.notFound name)
  | some path =>
    match (files path).text with
    | .ok source => .ok (.ofSource name source)
    | .error e => .error (.unreadable path e.message)

end Files

end Testbench
