/-!
# JSON trees

A parsed document is a tree whose nodes keep the piece of source text they were read from. The
pieces share the source, so that nested ones take no room of their own.

* `Json.Slice` : a piece of the source; `Json.Slice.text` : its text.
* `Json.Node` : a scalar, an object or an array.
* `Json.Node.preorder` : a node and everything below it, parents first, as a list.
-/

namespace Testbench.Json

/-- The grammars. The relaxed one also has bare, single-quoted and backslash-quoted names,
single-quoted and backslash-quoted strings, and an escaped apostrophe. -/
inductive Mode where
  | strict
  | relaxed
  deriving DecidableEq, Repr

def Mode.isRelaxed : Mode → Bool
  | .strict => false
  | .relaxed => true

/-- How a name or a string was delimited. -/
inductive Quote where
  /-- Not at all: a bare name, a number or a literal. -/
  | none
  | double
  | single
  /-- By a backslash and a quote on either side. -/
  | backslash
  deriving DecidableEq, Repr

/-- What a scalar is. -/
inductive ScalarKind where
  | string
  | number
  | boolean
  | null
  deriving DecidableEq, Repr

/-- The number of bytes of a text in UTF-8. -/
def byteLength : List Char → Nat
  | [] => 0
  | c :: s => c.utf8Size + byteLength s

/-- The characters of a text that start within its first `n` bytes. -/
def takeBytes : (n : Nat) → List Char → List Char
  | _, [] => []
  | n, c :: s => if n = 0 then [] else c :: takeBytes (n - c.utf8Size) s

/-- A piece of the source: the numbers of bytes up to its start and up to its end, and the source
from its start on. -/
structure Slice where
  offset : Nat
  stop : Nat
  rest : List Char
  deriving DecidableEq, Repr

/-- The text of the piece. -/
def Slice.text (s : Slice) : List Char := takeBytes (s.stop - s.offset) s.rest

theorem takeBytes_byteLength_append (s t : List Char) : takeBytes (byteLength s) (s ++ t) = s := by
  induction s with
  | nil => cases t <;> simp [takeBytes, byteLength]
  | cons c s ih =>
    have h := Char.utf8Size_pos c
    simp only [byteLength, List.cons_append, takeBytes]
    rw [if_neg (by omega), Nat.add_sub_cancel_left, ih]

/-- A piece that reaches over a text at its start has that text. -/
theorem Slice.text_of_append (offset : Nat) (s t : List Char) :
    Slice.text ⟨offset, offset + byteLength s, s ++ t⟩ = s := by
  simp [Slice.text, takeBytes_byteLength_append]

/-- The name of a member: the text between its delimiters, still escaped. -/
structure Name where
  slice : Slice
  quote : Quote
  deriving DecidableEq, Repr

/-- A node of a document. The slice of a string is the text between its delimiters, still
escaped; the slice of any other node is all of its text. -/
inductive Node where
  | scalar (kind : ScalarKind) (quote : Quote) (slice : Slice)
  | object (slice : Slice) (members : List (Name × Node))
  | array (slice : Slice) (elements : List Node)
  deriving Repr

namespace Node

def slice : Node → Slice
  | scalar _ _ slice => slice
  | object slice _ => slice
  | array slice _ => slice

/-- The letter that stands for the kind of a node. -/
def letter : Node → Char
  | object .. => 'o'
  | array .. => 'a'
  | scalar .string .. => 's'
  | scalar .number .. => 'n'
  | scalar .boolean .. => 'b'
  | scalar .null .. => 'z'

mutual

/-- A node, with the name it has in its object, and all nodes below it, parents first. -/
def preorder (name : Option Name) : Node → List (Option Name × Node)
  | scalar kind quote slice => [(name, scalar kind quote slice)]
  | object slice members => (name, object slice members) :: membersPreorder members
  | array slice elements => (name, array slice elements) :: elementsPreorder elements

/-- `preorder` of every member. -/
def membersPreorder : List (Name × Node) → List (Option Name × Node)
  | [] => []
  | (name, value) :: rest => value.preorder (some name) ++ membersPreorder rest

/-- `preorder` of every element. -/
def elementsPreorder : List Node → List (Option Name × Node)
  | [] => []
  | value :: rest => value.preorder none ++ elementsPreorder rest

end

/-- The number of nodes of a tree. -/
def size (n : Node) : Nat := (n.preorder none).length

theorem preorder_ne_nil (name : Option Name) (n : Node) : n.preorder name ≠ [] := by
  cases n <;> simp [preorder]

end Node

end Testbench.Json
