import Testbench.Json.Path
import Testbench.Text.Letter

/-!
# JSON trees as XML

Each node becomes an element. The tag of a member is the letter of its kind and its name, that of
an array element is the letter alone, and that of the root is given from outside or is the letter
and `root`. The content of a scalar is its text.

* `Json.tagOf` : a text as a tag; what is neither alphanumeric nor `_`, `-` or `.` becomes `_`.
* `Json.escapeXml` : a text as content, the five reserved characters as entities.
* `Json.Node.toXml` : a tree as XML.
* `Json.Node.elementOnto_append` : what is written does not depend on what follows.
-/

namespace Testbench.Json

open Text

/-- The characters that stay in a tag. -/
def isTagChar (c : Char) : Bool := isAlphanumeric c || c == '_' || c == '-' || c == '.'

/-- A text as a tag. -/
def tagOf (s : List Char) : List Char := s.map fun c => if isTagChar c then c else '_'

/-- One character as content. -/
def escapeXmlChar (c : Char) : List Char :=
  if c = '&' then ['&', 'a', 'm', 'p', ';']
  else if c = '<' then ['&', 'l', 't', ';']
  else if c = '>' then ['&', 'g', 't', ';']
  else if c = '\"' then ['&', 'q', 'u', 'o', 't', ';']
  else if c = '\'' then ['&', 'a', 'p', 'o', 's', ';']
  else [c]

/-- A text as content. -/
def escapeXml (s : List Char) : List Char := s.flatMap escapeXmlChar

def startTag (tag : List Char) : List Char := '<' :: (tag ++ ['>'])

def endTag (tag : List Char) : List Char := '<' :: '/' :: (tag ++ ['>'])

namespace Node

mutual

/-- A node as the element with this tag, in front of `rest`. -/
def elementOnto (tag : List Char) : Node → (rest : List Char) → List Char
  | scalar kind quote slice, rest =>
    startTag tag ++ (escapeXml (scalar kind quote slice).text ++ (endTag tag ++ rest))
  | object _ members, rest => startTag tag ++ membersOnto members (endTag tag ++ rest)
  | array _ elements, rest => startTag tag ++ elementsOnto elements (endTag tag ++ rest)

/-- The elements for the members of an object. -/
def membersOnto : List (Name × Node) → (rest : List Char) → List Char
  | [], rest => rest
  | (name, value) :: more, rest =>
    value.elementOnto (value.letter :: tagOf name.text) (membersOnto more rest)

/-- The elements for the elements of an array. -/
def elementsOnto : List Node → (rest : List Char) → List Char
  | [], rest => rest
  | value :: more, rest => value.elementOnto [value.letter] (elementsOnto more rest)

end

mutual

theorem elementOnto_append (tag : List Char) (n : Node) (rest : List Char) :
    n.elementOnto tag rest = n.elementOnto tag [] ++ rest := by
  cases n with
  | scalar kind quote slice => simp [elementOnto]
  | object slice members =>
    simp only [elementOnto]
    rw [membersOnto_append members (endTag tag ++ rest), membersOnto_append members (endTag tag ++ [])]
    simp
  | array slice elements =>
    simp only [elementOnto]
    rw [elementsOnto_append elements (endTag tag ++ rest),
      elementsOnto_append elements (endTag tag ++ [])]
    simp

theorem membersOnto_append (members : List (Name × Node)) (rest : List Char) :
    membersOnto members rest = membersOnto members [] ++ rest := by
  match members with
  | [] => rfl
  | (name, value) :: more =>
    simp only [membersOnto]
    rw [elementOnto_append _ value (membersOnto more rest),
      elementOnto_append _ value (membersOnto more []), membersOnto_append more rest]
    simp

theorem elementsOnto_append (elements : List Node) (rest : List Char) :
    elementsOnto elements rest = elementsOnto elements [] ++ rest := by
  match elements with
  | [] => rfl
  | value :: more =>
    simp only [elementsOnto]
    rw [elementOnto_append _ value (elementsOnto more rest),
      elementOnto_append _ value (elementsOnto more []), elementsOnto_append more rest]
    simp

end

/-- The tag of the root. -/
def rootTag (n : Node) (tag : Option (List Char)) : List Char :=
  match tag with
  | some tag => tagOf tag
  | none => [n.letter, 'r', 'o', 'o', 't']

/-- A tree as XML. -/
def toXml (n : Node) (tag : Option (List Char)) : List Char := n.elementOnto (n.rootTag tag) []

end Node

end Testbench.Json
