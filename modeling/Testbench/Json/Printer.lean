import Testbench.Assoc
import Testbench.Json.Path

/-!
# Writing JSON

* `Json.Overrides` : literals to be written in place of scalars, by the path of the scalar.
* `Json.Node.dump` : a tree as compact JSON, every string in its shortest strict spelling.
* `Overrides.find?_set`, `find?_erase` : what a change does to every path.
* `Json.reverse_memberBack`, `reverse_elementBack` : the paths of what a tree consists of.
* `Json.Node.dumpOnto_append` : what is written does not depend on what follows.
-/

namespace Testbench.Json

open Text

/-- Literals by path. No path occurs twice. -/
structure Overrides where
  entries : List (List Char × List Char) := []
  deriving DecidableEq, Repr

namespace Overrides

def find? (o : Overrides) (path : List Char) : Option (List Char) := o.entries.lookup path

def erase (o : Overrides) (path : List Char) : Overrides :=
  ⟨o.entries.filter fun e => e.1 != path⟩

/-- Puts a literal at a path, in place of the one that was there. -/
def set (o : Overrides) (path literal : List Char) : Overrides :=
  ⟨(path, literal) :: (o.erase path).entries⟩

def size (o : Overrides) : Nat := o.entries.length

theorem find?_set (o : Overrides) (path literal q : List Char) :
    (o.set path literal).find? q = if q = path then some literal else o.find? q := by
  by_cases h : q = path
  · simp [set, find?, h]
  · simp [set, find?, erase, Assoc.lookup_cons_ite, h, Assoc.lookup_filter_ne]

theorem find?_erase (o : Overrides) (path q : List Char) :
    (o.erase path).find? q = if q = path then none else o.find? q := by
  by_cases h : q = path
  · simp [find?, erase, h, Assoc.lookup_filter_self]
  · simp [find?, erase, h, Assoc.lookup_filter_ne]

end Overrides

/-- The path of a member of the node at `path`. -/
def memberPath (path name : List Char) : List Char :=
  if path.isEmpty then name else path ++ '.' :: name

/-- The path of an element of the node at `path`. -/
def elementPath (path : List Char) (index : Nat) : List Char :=
  path ++ '[' :: (Nat.toDigits 10 index ++ [']'])

/-- The literal for a path that is given backwards. -/
def Overrides.findBack? (o : Overrides) (back : List Char) : Option (List Char) :=
  if o.entries.isEmpty then none else o.find? back.reverse

/-- `memberPath` of a path that is given backwards, backwards too. -/
def memberBack (back name : List Char) : List Char :=
  name.reverse ++ if back.isEmpty then [] else '.' :: back

/-- `elementPath` of a path that is given backwards, backwards too. -/
def elementBack (back : List Char) (index : Nat) : List Char :=
  ']' :: ((Nat.toDigits 10 index).reverse ++ '[' :: back)

theorem Overrides.findBack?_eq (o : Overrides) (back : List Char) :
    o.findBack? back = o.find? back.reverse := by
  unfold findBack? find?
  split
  · next h => simp [List.isEmpty_iff.mp h]
  · rfl

theorem reverse_memberBack (back name : List Char) :
    (memberBack back name).reverse = memberPath back.reverse name := by
  cases back <;> simp [memberBack, memberPath]

theorem reverse_elementBack (back : List Char) (index : Nat) :
    (elementBack back index).reverse = elementPath back.reverse index := by
  simp [elementBack, elementPath]

/-- A text between double quotes. -/
def spell (s : List Char) : List Char := '\"' :: (escape s ++ ['\"'])

namespace Node

mutual

/-- A node as compact JSON, in front of `rest`. Its path is given backwards. -/
def dumpOnto (o : Overrides) (back : List Char) : Node → (rest : List Char) → List Char
  | scalar kind _ slice, rest =>
    match o.findBack? back with
    | some literal => literal ++ rest
    | none => (if kind = .string then spell (unescape slice.text) else slice.text) ++ rest
  | object _ members, rest => '\x7b' :: dumpMembersOnto o back members ('\x7d' :: rest)
  | array _ elements, rest => '[' :: dumpElementsOnto o back 0 elements (']' :: rest)

/-- The members of an object. -/
def dumpMembersOnto (o : Overrides) (back : List Char) :
    List (Name × Node) → (rest : List Char) → List Char
  | [], rest => rest
  | (name, value) :: more, rest =>
    spell name.text ++ ':' :: value.dumpOnto o (memberBack back name.text)
      (if more.isEmpty then rest else ',' :: dumpMembersOnto o back more rest)

/-- The elements from number `index` on of an array. -/
def dumpElementsOnto (o : Overrides) (back : List Char) (index : Nat) :
    List Node → (rest : List Char) → List Char
  | [], rest => rest
  | value :: more, rest =>
    value.dumpOnto o (elementBack back index)
      (if more.isEmpty then rest else ',' :: dumpElementsOnto o back (index + 1) more rest)

end

/-- A tree as compact JSON, with `o` in place of the scalars that it names. -/
def dump (n : Node) (o : Overrides) : List Char := n.dumpOnto o [] []

mutual

theorem dumpOnto_append (o : Overrides) (back : List Char) (n : Node) (rest : List Char) :
    n.dumpOnto o back rest = n.dumpOnto o back [] ++ rest := by
  cases n with
  | scalar kind quote slice =>
    simp only [dumpOnto]
    split <;> simp
  | object slice members =>
    simp only [dumpOnto]
    rw [dumpMembersOnto_append o back members ('\x7d' :: rest),
      dumpMembersOnto_append o back members ['\x7d']]
    simp
  | array slice elements =>
    simp only [dumpOnto]
    rw [dumpElementsOnto_append o back 0 elements (']' :: rest),
      dumpElementsOnto_append o back 0 elements [']']]
    simp

theorem dumpMembersOnto_append (o : Overrides) (back : List Char) (members : List (Name × Node))
    (rest : List Char) :
    dumpMembersOnto o back members rest = dumpMembersOnto o back members [] ++ rest := by
  match members with
  | [] => rfl
  | (name, value) :: more =>
    simp only [dumpMembersOnto]
    rw [dumpOnto_append o _ value (if more.isEmpty then rest else _),
      dumpOnto_append o _ value (if more.isEmpty then [] else _)]
    split
    · simp
    · rw [dumpMembersOnto_append o back more rest]
      simp

theorem dumpElementsOnto_append (o : Overrides) (back : List Char) (index : Nat)
    (elements : List Node) (rest : List Char) :
    dumpElementsOnto o back index elements rest =
      dumpElementsOnto o back index elements [] ++ rest := by
  match elements with
  | [] => rfl
  | value :: more =>
    simp only [dumpElementsOnto]
    rw [dumpOnto_append o _ value (if more.isEmpty then rest else _),
      dumpOnto_append o _ value (if more.isEmpty then [] else _)]
    split
    · simp
    · rw [dumpElementsOnto_append o back (index + 1) more rest]
      simp

end

theorem dumpMembers_last (o : Overrides) (back : List Char) (name : Name) (value : Node) :
    dumpMembersOnto o back [(name, value)] [] =
      spell name.text ++ ([':'] ++ value.dumpOnto o (memberBack back name.text) []) := rfl

theorem dumpMembers_more (o : Overrides) (back : List Char) (name : Name) (value : Node)
    {members : List (Name × Node)} (h : members ≠ []) :
    dumpMembersOnto o back ((name, value) :: members) [] =
      (spell name.text ++ ([':'] ++ value.dumpOnto o (memberBack back name.text) [])) ++
        ([','] ++ dumpMembersOnto o back members []) := by
  have hne : members.isEmpty = false := List.isEmpty_eq_false_iff.mpr h
  rw [dumpMembersOnto, hne, dumpOnto_append]
  simp

theorem dumpElements_last (o : Overrides) (back : List Char) (index : Nat) (value : Node) :
    dumpElementsOnto o back index [value] [] =
      value.dumpOnto o (elementBack back index) [] := rfl

theorem dumpElements_more (o : Overrides) (back : List Char) (index : Nat) (value : Node)
    {elements : List Node} (h : elements ≠ []) :
    dumpElementsOnto o back index (value :: elements) [] =
      value.dumpOnto o (elementBack back index) [] ++
        ([','] ++ dumpElementsOnto o back (index + 1) elements []) := by
  have hne : elements.isEmpty = false := List.isEmpty_eq_false_iff.mpr h
  rw [dumpElementsOnto, hne, dumpOnto_append]
  simp

end Node

end Testbench.Json
