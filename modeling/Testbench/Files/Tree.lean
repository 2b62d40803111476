import Testbench.Files.Basic
import Testbench.Text.Cut

/-!
# Files in a tree of directories

* `FileTree` : files by their places, and the directory that is worked in.
* `FileTree.walk` : follows the names of a path one by one.
* `FileTree.files` : what is found at every path.
-/

namespace Testbench

/-- A place: the names of the directories from the root on, and the name in the last of them. -/
abbrev Place := List String

/-- Files by their places, and the directory where paths start that do not start at the root. A
directory exists if it is worked in or has something in it. -/
structure FileTree where
  entries : List (Place × File)
  workingDirectory : Place

namespace FileTree

/-- The largest number of bytes in a name. -/
def maxNameLength : Nat := 255

/-- The largest number of bytes in a path. -/
def maxPathLength : Nat := 4095

/-- The names in a path. Nothing is between two slashes in a row, or after a slash at the end. -/
def names (path : String) : List String := (Text.fields '/' path.toList).map String.ofList

/-- The working directory and the files with their names under it. -/
def ofList (workingDirectory : Place) (files : List (String × ByteArray)) : FileTree where
  entries := files.map fun f => (workingDirectory ++ names f.1, { content := f.2 })
  workingDirectory := workingDirectory

/-- The directories that hold an entry, or are worked in. -/
def isDirectory (t : FileTree) (place : Place) : Bool :=
  place.isPrefixOf t.workingDirectory ||
    t.entries.any fun e => place.isPrefixOf e.1 && place.length < e.1.length

/-- What is found at a place. -/
def stateAt (t : FileTree) (place : Place) : FileState :=
  match t.entries.lookup place with
  | some f => .file f
  | none => if t.isDirectory place then .directory else .missing

/-- What is found on the way that names lead from a place. -/
def walk (t : FileTree) (place : Place) : List String → FileState
  | [] => t.stateAt place
  | name :: rest =>
    match t.stateAt place with
    | .directory =>
      if name == "" || name == "." then t.walk place rest
      else if name == ".." then t.walk place.dropLast rest
      else if name.utf8ByteSize > maxNameLength then .nameTooLong
      else t.walk (place ++ [name]) rest
    | .file _ => .belowFile
    | other => other

/-- What is found at every path. The empty path leads nowhere, and a path that is too long is not
followed at all. -/
def files (t : FileTree) : Files := fun path =>
  if path.isEmpty then .missing
  else if path.utf8ByteSize > maxPathLength then .nameTooLong
  else t.walk (if isAbsolute path then [] else t.workingDirectory) (names path)

end FileTree

end Testbench
