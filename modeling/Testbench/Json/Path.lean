import Testbench.Json.Node
import Testbench.Json.Escape
import Testbench.Text.Blank
import Testbench.Text.Cut
import Testbench.Text.Digits

/-!
# Paths into a JSON tree

A path is a text such as `a.b[2].c`: members separated by points, and subscripts in brackets
after a member or, at the root of an array, alone. The empty path is the root.

* `Json.Step` : one step down a tree; `Json.readPath?` : the steps that a path denotes.
* `Json.Node.at?` : the node at the end of a list of steps.
* `Json.Node.get?` : the text at a path: unescaped for strings, as written for all else.
* `Json.Node.findKey?` : the first element of an array, within a window, with a given member.
-/

namespace Testbench.Json

open Text

/-- One step down a tree. -/
inductive Step where
  | member (name : List Char)
  | element (index : Nat)
  deriving DecidableEq, Repr

/-- The largest count or index, `2 ^ 64 - 1`. -/
def maxIndex : Nat := 18446744073709551615

/-- An index between brackets: decimal digits, with white space and a plus sign in front of them
if need be. -/
def readIndex? (s : List Char) : Option Nat :=
  let digits := match trim s with
    | '+' :: digits => digits
    | digits => digits
  readNatUpTo? 10 maxIndex digits

/-- A subscript without its closing bracket. -/
def readSubscript? (s : List Char) : Option Step :=
  match s with
  | '[' :: index => (readIndex? index).map Step.element
  | _ => none

/-- Subscripts, one right after the other. -/
def readSubscripts? (s : List Char) : Option (List Step) :=
  if s.isEmpty then some []
  else
    let pieces := fields ']' s
    if pieces.getLast? = some [] then pieces.dropLast.mapM readSubscript? else none

/-- The steps of one segment of a path: a member, subscripts, or a member and subscripts. -/
def readSegment? (s : List Char) : Option (List Step) :=
  let name := s.takeWhile (· != '[')
  let subscripts := s.dropWhile (· != '[')
  if name.isEmpty then
    if subscripts.isEmpty then none else readSubscripts? subscripts
  else (readSubscripts? subscripts).map (Step.member name :: ·)

/-- The steps that a path denotes, if it is well formed. -/
def readPath? (path : List Char) : Option (List Step) :=
  if path.isEmpty then some []
  else ((fields '.' path).mapM readSegment?).map List.flatten

/-- The unescaped name of a member. -/
def Name.text (name : Name) : List Char := unescape name.slice.text

namespace Node

/-- The text of a node: unescaped for strings, as written for all else. -/
def text : Node → List Char
  | scalar .string _ slice => unescape slice.text
  | n => n.slice.text

/-- The first member of an object with this name. -/
def member? (name : List Char) : Node → Option Node
  | object _ members => (members.find? fun m => m.1.text == name).map Prod.snd
  | _ => none

/-- An element of an array. -/
def element? (index : Nat) : Node → Option Node
  | array _ elements => elements[index]?
  | _ => none

/-- The node one step down. -/
def step? (n : Node) : Step → Option Node
  | .member name => n.member? name
  | .element index => n.element? index

/-- The node at the end of a list of steps. -/
def at? (n : Node) : List Step → Option Node
  | [] => some n
  | s :: steps => (n.step? s).bind fun below => below.at? steps

/-- The node at a path. -/
def lookup? (n : Node) (path : List Char) : Option Node := (readPath? path).bind n.at?

/-- The text at a path. -/
def get? (n : Node) (path : List Char) : Option (List Char) := (n.lookup? path).map text

/-- The index of the first element, from `start` on and among `count`, that has the member. -/
def findMember? (name : List Char) (start count : Nat) (elements : List Node) : Option Nat :=
  (((elements.drop start).take count).findIdx? fun n => (n.member? name).isSome).map (start + ·)

/-- The same for the array named by `spec`, which is a path, `[].` and the name of a member. -/
def findKey? (n : Node) (spec : List Char) (start count : Nat) : Option Nat := do
  let (path, name) ← cutLastWord? ['[', ']', '.'] spec
  match ← n.lookup? path with
  | array _ elements => findMember? name start count elements
  | _ => none

@[simp] theorem at?_nil (n : Node) : n.at? [] = some n := rfl

theorem at?_append (n : Node) (p q : List Step) : n.at? (p ++ q) = (n.at? p).bind (·.at? q) := by
  induction p generalizing n with
  | nil => rfl
  | cons s p ih =>
    cases h : n.step? s with
    | none => simp [at?, h]
    | some below => simp [at?, h, ih]

end Node

end Testbench.Json
