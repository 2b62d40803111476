import Testbench.Json.Reader

/-!
# Documents as arenas

A document may also be kept as a list of entries that refer to each other by number and to the
source by place. A container is entered before what stands in it: it gets its number first, its
children one by one as they are read, and its end last.

* `Json.Span` : two places; `Json.Span.slice?` : the piece of the source between them.
* `Json.Entry`, `Json.Arena` : nodes by number.
* `Json.Arena.read` : the arena of a whole text.
* `Json.Arena.walk` : the numbers of a node and all nodes below it, parents first.
-/

namespace Testbench.Json

/-! ## Places in the source -/

/-- What is left of a text after its first `n` bytes, if a character ends there. -/
def dropBytes? : (n : Nat) → List Char → Option (List Char)
  | 0, s => some s
  | _ + 1, [] => none
  | n + 1, c :: s => if c.utf8Size ≤ n + 1 then dropBytes? (n + 1 - c.utf8Size) s else none

/-- The numbers of bytes up to the start and up to the end of a piece of the source. -/
structure Span where
  offset : Nat
  stop : Nat
  deriving DecidableEq, Repr

def Slice.span (s : Slice) : Span := ⟨s.offset, s.stop⟩

/-- The piece of the source, if both ends lie in it, in order and between characters. -/
def Span.slice? (source : List Char) (s : Span) : Option Slice :=
  if s.offset ≤ s.stop then do
    let rest ← dropBytes? s.offset source
    let _ ← dropBytes? (s.stop - s.offset) rest
    some ⟨s.offset, s.stop, rest⟩
  else none

/-! ## Arenas -/

/-- What a node is. -/
inductive Kind where
  | object
  | array
  | scalar (kind : ScalarKind)
  deriving DecidableEq, Repr

namespace Kind

/-- The letter that stands for a kind. -/
def letter : Kind → Char
  | object => 'o'
  | array => 'a'
  | scalar .string => 's'
  | scalar .number => 'n'
  | scalar .boolean => 'b'
  | scalar .null => 'z'

/-- The brackets of a container. -/
def brackets? : Kind → Option (Char × Char)
  | object => some ('\x7b', '\x7d')
  | array => some ('[', ']')
  | scalar _ => none

end Kind

/-- A node of an arena, with the name it has in its object and the numbers of its children. The
span of a string or a name is what stands between its delimiters. -/
structure Entry where
  kind : Kind
  span : Span
  quote : Quote
  name : Option (Span × Quote)
  children : List Nat := []
  deriving DecidableEq, Repr

/-- The spans of an entry, as they stand in the source. -/
def Entry.spans (e : Entry) : List Span := (e.name.map Prod.fst).toList ++ [e.span]

/-- Nodes by number. The root has number 0. -/
abbrev Arena := List Entry

namespace Arena

/-- Enters a node; its number is the length of the arena before. -/
def alloc (arena : Arena) (e : Entry) : Nat × Arena := (arena.length, arena ++ [e])

/-- Puts a child behind the other ones of a node. -/
def addChild (arena : Arena) (id child : Nat) : Arena :=
  arena.modify id fun e => { e with children := e.children ++ [child] }

/-- Sets the end of a node. -/
def setStop (arena : Arena) (id stop : Nat) : Arena :=
  arena.modify id fun e => { e with span := ⟨e.span.offset, stop⟩ }

end Arena

/-! ## Reading -/

def Name.label (name : Name) : Span × Quote := (name.slice.span, name.quote)

def Node.kind : Node → Kind
  | scalar kind _ _ => .scalar kind
  | object .. => .object
  | array .. => .array

def Node.quote : Node → Quote
  | scalar _ quote _ => quote
  | _ => .none

/-- What enters the node that starts at a place, with a name, and tells its number. -/
abbrev Builder := Option Name → Arena → Cursor → Except Error ((Nat × Arena) × Cursor)

namespace Arena

/-- The name of a member, up to its value. -/
def readLabel (mode : Mode) (cur : Cursor) : Except Error (Name × Cursor) := do
  let (name, cur) ← readName mode cur.skipSpace
  let cur := cur.skipSpace
  if cur.rest.head? = some ':' then
    .ok (name, Cursor.skipSpace ⟨cur.offset + 1, cur.rest.tail⟩)
  else .error (cur.fail .unexpectedChar)

/-- A child of a container: a member if names are wanted, otherwise an element. -/
def readChild (mode : Mode) (named : Bool) (value : Builder) (arena : Arena) (cur : Cursor) :
    Except Error ((Nat × Arena) × Cursor) :=
  if named then do
    let (name, cur) ← readLabel mode cur
    value (some name) arena cur
  else value none arena cur.skipSpace

/-- The children of node `id`, up to the bracket `close`. There are fewer than `fuel`. -/
def readChildren (mode : Mode) (named : Bool) (close : Char) (value : Builder) (id : Nat) :
    (fuel : Nat) → Arena → Cursor → Except Error (Arena × Cursor)
  | 0, _, cur => .error (cur.fail .unexpectedChar)
  | fuel + 1, arena, cur => do
    let ((child, arena), cur) ← readChild mode named value arena cur
    let arena := arena.addChild id child
    let cur := cur.skipSpace
    match cur.rest with
    | c :: rest =>
      if c = ',' then readChildren mode named close value id fuel arena ⟨cur.offset + 1, rest⟩
      else if c = close then .ok (arena, ⟨cur.offset + 1, rest⟩)
      else .error (cur.fail .unexpectedChar)
    | [] => .error (cur.fail .unexpectedChar)

/-- The container that opens at `cur`. It is entered as an empty piece of the source, and has fewer
than `limit` children. -/
def readContainer (mode : Mode) (limit : Nat) (kind : Kind) (close : Char) (value : Builder) :
    Builder := fun name arena cur => do
  let (id, arena) := arena.alloc ⟨kind, ⟨cur.offset, cur.offset⟩, .none, name.map Name.label, []⟩
  let inside := Cursor.skipSpace ⟨cur.offset + 1, cur.rest.tail⟩
  let (arena, after) ←
    if inside.rest.head? = some close then
      .ok (arena, (⟨inside.offset + 1, inside.rest.tail⟩ : Cursor))
    else readChildren mode (kind == .object) close value id limit arena inside
  .ok ((id, arena.setStop id after.offset), after)

/-- A value that is no container. -/
def readLeaf (mode : Mode) : Builder := fun name arena cur =>
  (readScalar mode cur).map fun (node, after) =>
    (arena.alloc ⟨node.kind, node.slice.span, node.quote, name.map Name.label, []⟩, after)

/-- A value inside which containers nest at most `room` deep, itself included, and have fewer than
`limit` children. -/
def readValue (mode : Mode) (limit : Nat) : (room : Nat) → Builder
  | 0, name, arena, cur =>
    if cur.rest.head? = some '\x7b' ∨ cur.rest.head? = some '[' then .error ⟨.tooDeep, cur.offset⟩
    else readLeaf mode name arena cur
  | room + 1, name, arena, cur =>
    if cur.rest.head? = some '\x7b' then
      readContainer mode limit .object '\x7d' (readValue mode limit room) name arena cur
    else if cur.rest.head? = some '[' then
      readContainer mode limit .array ']' (readValue mode limit room) name arena cur
    else readLeaf mode name arena cur

/-- The arena of a whole text. -/
def read (mode : Mode) (source : List Char) : Except Error Arena := do
  let ((_, arena), cur) ←
    readValue mode (source.length + 1) maxNesting none [] (Cursor.skipSpace ⟨0, source⟩)
  let cur := cur.skipSpace
  if cur.rest.isEmpty then .ok arena else .error ⟨.trailingCharacters, cur.offset⟩

/-! ## Walking -/

/-- The numbers of a node and of all nodes at most `fuel` levels down, parents first. -/
def walk (arena : Arena) : (fuel id : Nat) → List Nat
  | 0, _ => []
  | fuel + 1, id =>
    match arena[id]? with
    | some e => id :: e.children.flatMap (arena.walk fuel)
    | none => []

end Arena

end Testbench.Json
