import Testbench.Json.Arena
import Testbench.Json.Path
import Testbench.Json.Printer
import Testbench.Json.Xml

/-!
# Asking an arena

What scripts ask of a document is answered from its arena and its source. An answer is `none` if on
the way to it there is a number that no node has or a span that is no piece of the source, or if the
nodes go down deeper than there are nodes; what is not found is an answer.

* `Json.Arena.raw?`, `Json.Arena.text?`, `Json.Arena.name?` : of one node.
* `Json.Arena.get?` : the text at a path.
* `Json.Arena.dump?`, `Json.Arena.toXml?` : all nodes as compact JSON and as XML.
-/

namespace Testbench.Json.Arena

open Text

variable (source : List Char) (arena : Arena)

/-! ## One node -/

/-- The piece of the source that a node is. -/
def raw? (id : Nat) : Option (List Char) := do
  let e ← arena[id]?
  (e.span.slice? source).map Slice.text

/-- The text of a node: unescaped for strings, as written for all else. -/
def text? (id : Nat) : Option (List Char) := do
  let e ← arena[id]?
  let raw ← raw? source arena id
  some (if e.kind = .scalar .string then unescape raw else raw)

/-- The unescaped name of a node, if it has one. -/
def name? (id : Nat) : Option (Option (List Char)) := do
  let e ← arena[id]?
  match e.name with
  | some (span, _) => (span.slice? source).map fun slice => some (unescape slice.text)
  | none => some none

/-! ## Paths -/

/-- The first of some nodes that has a name. -/
def firstNamed? (name : List Char) : List Nat → Option (Option Nat)
  | [] => some none
  | c :: cs => do
    let n ← name? source arena c
    if n = some name then some (some c) else firstNamed? name cs

/-- The node one step down. -/
def step? (id : Nat) : Step → Option (Option Nat)
  | .member name => do
    let e ← arena[id]?
    if e.kind = .object then firstNamed? source arena name e.children else some none
  | .element index => do
    let e ← arena[id]?
    some (if e.kind = .array then e.children[index]? else none)

/-- The node at the end of a list of steps. -/
def at? : (id : Nat) → List Step → Option (Option Nat)
  | id, [] => some (some id)
  | id, s :: steps => do
    match ← step? source arena id s with
    | some below => at? below steps
    | none => some none

/-- The text at a path. -/
def get? (path : List Char) : Option (Option (List Char)) :=
  match readPath? path with
  | some steps => do
    match ← at? source arena 0 steps with
    | some id => (text? source arena id).map some
    | none => some none
  | none => some none

/-! ## All nodes -/

/-- A member of the object at a path as compact JSON, by what writes its value. -/
def dumpMember? (value : List Char → Nat → Option (List Char)) (path : List Char) (id : Nat) :
    Option (List Char) := do
  let name := (← name? source arena id).getD []
  (value (memberPath path name) id).map fun literal => spell name ++ ':' :: literal

/-- A node at a path as compact JSON. It and what is below it go down at most `fuel` levels. -/
def dumpFrom? (o : Overrides) : (fuel : Nat) → (path : List Char) → (id : Nat) → Option (List Char)
  | 0, _, _ => none
  | fuel + 1, path, id => do
    let e ← arena[id]?
    match e.kind with
    | .object =>
      let members ← e.children.mapM (dumpMember? source arena (dumpFrom? o fuel) path)
      some ('\x7b' :: ([','].intercalate members ++ ['\x7d']))
    | .array =>
      let elements ← e.children.zipIdx.mapM fun (c, index) =>
        dumpFrom? o fuel (elementPath path index) c
      some ('[' :: ([','].intercalate elements ++ [']']))
    | .scalar kind =>
      match o.find? path with
      | some literal => some literal
      | none =>
        if kind = .string then (text? source arena id).map spell else raw? source arena id

/-- An arena as compact JSON, with `o` in place of the scalars that it names. -/
def dump? (o : Overrides) : Option (List Char) := dumpFrom? source arena o arena.length [] 0

/-- A node as an element with the tag of a child, by what writes elements. -/
def childElement? (element : List Char → Nat → Option (List Char)) (id : Nat) :
    Option (List Char) := do
  let e ← arena[id]?
  let name ← name? source arena id
  element (e.kind.letter :: tagOf (name.getD [])) id

/-- A node as the element with a tag. It and what is below it go down at most `fuel` levels. -/
def elementFrom? : (fuel : Nat) → (tag : List Char) → (id : Nat) → Option (List Char)
  | 0, _, _ => none
  | fuel + 1, tag, id => do
    let e ← arena[id]?
    let content ←
      match e.kind with
      | .scalar _ => (text? source arena id).map escapeXml
      | _ => do
        let below ← e.children.mapM (childElement? source arena (elementFrom? fuel))
        some below.flatten
    some (startTag tag ++ (content ++ endTag tag))

/-- An arena as XML. -/
def toXml? (tag : Option (List Char)) : Option (List Char) := do
  let e ← arena[0]?
  let tag :=
    match tag with
    | some tag => tagOf tag
    | none => [e.kind.letter, 'r', 'o', 'o', 't']
  elementFrom? source arena arena.length tag 0

end Testbench.Json.Arena
