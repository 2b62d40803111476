import Testbench.Proofs.Json.Complete
import Testbench.Proofs.Json.Spelling

/-!
# Writing a tree and reading it again

* `Json.Shape` : what a tree says, whatever its spelling and its places in a source.
* `Json.Node.dumpOnto_eq_print` : what is written without overrides depends on the shape only.
* `Grammar.Value.normal` : what is written of a derived tree has a strict derivation, and the tree
  of that has the same shape.
* `Document.dump_faithful` : so a document that is written and read again says the same, and is
  written the same.
-/

set_option autoImplicit false

namespace Testbench.Json

open Text

/-! ## Shapes -/

/-- What a tree says: the kinds and texts of its scalars, unescaped for strings and as written for
all else, the unescaped names of members, and the order of all children. -/
inductive Shape where
  | scalar (kind : ScalarKind) (text : List Char)
  | object (members : List (List Char × Shape))
  | array (elements : List Shape)

mutual

def Node.shape : Node → Shape
  | .scalar kind quote slice => .scalar kind (Node.scalar kind quote slice).text
  | .object _ members => .object (Node.membersShape members)
  | .array _ elements => .array (Node.elementsShape elements)

def Node.membersShape : List (Name × Node) → List (List Char × Shape)
  | [] => []
  | (name, value) :: more => (name.text, value.shape) :: Node.membersShape more

def Node.elementsShape : List Node → List Shape
  | [] => []
  | value :: more => value.shape :: Node.elementsShape more

end

mutual

/-- A shape as compact JSON. -/
def Shape.print : Shape → List Char
  | .scalar kind text => if kind = .string then spell text else text
  | .object members => '\x7b' :: (Shape.printMembers members ++ ['\x7d'])
  | .array elements => '[' :: (Shape.printElements elements ++ [']'])

def Shape.printMembers : List (List Char × Shape) → List Char
  | [] => []
  | (name, value) :: more =>
    spell name ++ ':' :: (value.print ++ if more.isEmpty then [] else ',' :: Shape.printMembers more)

def Shape.printElements : List Shape → List Char
  | [] => []
  | value :: more =>
    value.print ++ if more.isEmpty then [] else ',' :: Shape.printElements more

end

namespace Node

theorem isEmpty_membersShape (members : List (Name × Node)) :
    (membersShape members).isEmpty = members.isEmpty := by
  cases members <;> rfl

theorem isEmpty_elementsShape (elements : List Node) :
    (elementsShape elements).isEmpty = elements.isEmpty := by
  cases elements <;> rfl

theorem findBack?_empty (back : List Char) : Overrides.findBack? {} back = none := rfl

theorem text_scalar (kind : ScalarKind) (quote : Quote) (slice : Slice) :
    (scalar kind quote slice).text =
      if kind = .string then unescape slice.text else slice.text := by
  cases kind <;> rfl

mutual

theorem dumpOnto_eq_print (back : List Char) :
    ∀ (n : Node) (rest : List Char), n.dumpOnto {} back rest = n.shape.print ++ rest
  | .scalar kind quote slice, rest => by
    simp only [dumpOnto, findBack?_empty, shape, Shape.print, text_scalar]
    split <;> rfl
  | .object _ members, rest => by
    rw [dumpOnto, dumpMembersOnto_eq_print back members, shape, Shape.print]
    simp
  | .array _ elements, rest => by
    rw [dumpOnto, dumpElementsOnto_eq_print back 0 elements, shape, Shape.print]
    simp

theorem dumpMembersOnto_eq_print (back : List Char) :
    ∀ (members : List (Name × Node)) (rest : List Char),
      dumpMembersOnto {} back members rest = Shape.printMembers (membersShape members) ++ rest
  | [], rest => rfl
  | (name, value) :: more, rest => by
    have hvalue := dumpOnto_eq_print (memberBack back name.text) value
    have hmore := dumpMembersOnto_eq_print back more rest
    rw [dumpMembersOnto, hvalue, hmore, membersShape, Shape.printMembers, isEmpty_membersShape]
    split <;> simp

theorem dumpElementsOnto_eq_print (back : List Char) (index : Nat) :
    ∀ (elements : List Node) (rest : List Char),
      dumpElementsOnto {} back index elements rest =
        Shape.printElements (elementsShape elements) ++ rest
  | [], rest => rfl
  | value :: more, rest => by
    have hvalue := dumpOnto_eq_print (elementBack back index) value
    have hmore := dumpElementsOnto_eq_print back (index + 1) more rest
    rw [dumpElementsOnto, hvalue, hmore, elementsShape, Shape.printElements, isEmpty_elementsShape]
    split <;> simp

end

theorem dump_eq_print (n : Node) : n.dump {} = n.shape.print := by
  rw [dump, dumpOnto_eq_print, List.append_nil]

end Node

namespace Grammar

open Cursor (Spans Avoids)

/-! ## Derivations of what is written -/

variable {mode : Mode}

theorem shape_sliceTo {kind : ScalarKind} (hkind : kind ≠ .string) {s : List Char} {a b : Cursor}
    (hs : Spans s a b) : (Node.scalar kind .none (a.sliceTo b)).shape = .scalar kind s := by
  rw [Node.shape, Node.text_scalar, if_neg hkind, hs.text_sliceTo]

theorem printMembers_last (member : Name × Node) :
    Shape.printMembers (Node.membersShape [member]) =
      spell member.1.text ++ ([':'] ++ member.2.shape.print) := by
  simp [Node.membersShape, Shape.printMembers]

theorem printMembers_more {members : List (Name × Node)} (h : members ≠ [])
    (member : Name × Node) :
    Shape.printMembers (Node.membersShape (member :: members)) =
      (spell member.1.text ++ ([':'] ++ member.2.shape.print)) ++
        ([','] ++ Shape.printMembers (Node.membersShape members)) := by
  simp [Node.membersShape, Shape.printMembers, Node.isEmpty_membersShape, h]

theorem printElements_last (element : Node) :
    Shape.printElements (Node.elementsShape [element]) = element.shape.print := by
  simp [Node.elementsShape, Shape.printElements]

theorem printElements_more {elements : List Node} (h : elements ≠ []) (element : Node) :
    Shape.printElements (Node.elementsShape (element :: elements)) =
      element.shape.print ++ ([','] ++ Shape.printElements (Node.elementsShape elements)) := by
  simp [Node.elementsShape, Shape.printElements, Node.isEmpty_elementsShape, h]

theorem Members.ne_nil {room : Nat} {a b : Cursor} {members : List (Name × Node)}
    (h : Members mode room a b members) : members ≠ [] := by
  cases h <;> simp

theorem Elements.ne_nil {room : Nat} {a b : Cursor} {elements : List Node}
    (h : Elements mode room a b elements) : elements ≠ [] := by
  cases h <;> simp

mutual

/-- **What is written of a value is a strict value of the same shape**, with no more nesting. -/
theorem Value.normal {room : Nat} {a b p q : Cursor} {node : Node} :
    Value mode room a b node → Spans node.shape.print p q →
    ∃ node', Value .strict room p q node' ∧ node'.shape = node.shape
  | .string hq, h => by
    obtain ⟨slice, hquoted, htext⟩ := quoted_spell h
    exact ⟨_, .string hquoted, congrArg (Shape.scalar .string) htext⟩
  | .number hn hs, h => by
    rw [shape_sliceTo (by decide) hs] at h ⊢
    exact ⟨_, .number hn h, shape_sliceTo (by decide) h⟩
  | .boolean hmem hs, h => by
    rw [shape_sliceTo (by decide) hs] at h ⊢
    exact ⟨_, .boolean hmem h, shape_sliceTo (by decide) h⟩
  | .null hs, h => by
    rw [shape_sliceTo (by decide) hs] at h ⊢
    exact ⟨_, .null h, shape_sliceTo (by decide) h⟩
  | .emptyObject _ _ _, h => by
    obtain ⟨c, hp, hq⟩ := Spans.split (s := ['\x7b']) h
    exact ⟨_, .emptyObject hp (.refl c) hq, rfl⟩
  | .object _ hms _, h => by
    obtain ⟨c, hp, h⟩ := Spans.split (s := ['\x7b']) h
    obtain ⟨e, h, hq⟩ := Spans.split h
    obtain ⟨members, hmembers, hshape⟩ := hms.normal h
    exact ⟨_, .object hp hmembers hq, congrArg Shape.object hshape⟩
  | .emptyArray _ _ _, h => by
    obtain ⟨c, hp, hq⟩ := Spans.split (s := ['[']) h
    exact ⟨_, .emptyArray hp (.refl c) hq, rfl⟩
  | .array _ hes _, h => by
    obtain ⟨c, hp, h⟩ := Spans.split (s := ['[']) h
    obtain ⟨e, h, hq⟩ := Spans.split h
    obtain ⟨elements, helements, hshape⟩ := hes.normal h
    exact ⟨_, .array hp helements hq, congrArg Shape.array hshape⟩

theorem Member.normal {room : Nat} {a b p q : Cursor} {member : Name × Node} :
    Member mode room a b member →
    Spans (spell member.1.text ++ ([':'] ++ member.2.shape.print)) p q →
    ∃ member', Member .strict room p q member' ∧ member'.1.text = member.1.text ∧
      member'.2.shape = member.2.shape
  | .mk _ _ _ _ _ hv _, h => by
    obtain ⟨c, hname, h⟩ := Spans.split h
    obtain ⟨e, hcolon, h⟩ := Spans.split h
    obtain ⟨slice, hquoted, htext⟩ := quoted_spell hname
    obtain ⟨node, hnode, hshape⟩ := hv.normal h
    refine ⟨(⟨slice, .double⟩, node), ?_, htext, hshape⟩
    exact .mk (.refl p) (.quoted hquoted) (.refl c) hcolon (.refl e) hnode (.refl q)

theorem Members.normal {room : Nat} {a b p q : Cursor} {members : List (Name × Node)} :
    Members mode room a b members → Spans (Shape.printMembers (Node.membersShape members)) p q →
    ∃ members', Members .strict room p q members' ∧
      Node.membersShape members' = Node.membersShape members
  | .last hm, h => by
    rw [printMembers_last] at h
    obtain ⟨member, hmember, hname, hshape⟩ := hm.normal h
    refine ⟨_, .last hmember, ?_⟩
    simp only [Node.membersShape, hname, hshape]
  | .more hm _ hms, h => by
    rw [printMembers_more hms.ne_nil] at h
    obtain ⟨c, hfirst, h⟩ := Spans.split h
    obtain ⟨e, hcomma, h⟩ := Spans.split h
    obtain ⟨member, hmember, hname, hshape⟩ := hm.normal hfirst
    obtain ⟨members, hmembers, hshapes⟩ := hms.normal h
    refine ⟨_, .more hmember hcomma hmembers, ?_⟩
    simp only [Node.membersShape, hname, hshape, hshapes]

theorem Element.normal {room : Nat} {a b p q : Cursor} {element : Node} :
    Element mode room a b element → Spans element.shape.print p q →
    ∃ element', Element .strict room p q element' ∧ element'.shape = element.shape
  | .mk _ hv _, h => by
    obtain ⟨node, hnode, hshape⟩ := hv.normal h
    exact ⟨node, .mk (.refl p) hnode (.refl q), hshape⟩

theorem Elements.normal {room : Nat} {a b p q : Cursor} {elements : List Node} :
    Elements mode room a b elements → Spans (Shape.printElements (Node.elementsShape elements)) p q →
    ∃ elements', Elements .strict room p q elements' ∧
      Node.elementsShape elements' = Node.elementsShape elements
  | .last he, h => by
    rw [printElements_last] at h
    obtain ⟨element, helement, hshape⟩ := he.normal h
    refine ⟨_, .last helement, ?_⟩
    simp only [Node.elementsShape, hshape]
  | .more he _ hes, h => by
    rw [printElements_more hes.ne_nil] at h
    obtain ⟨c, hfirst, h⟩ := Spans.split h
    obtain ⟨e, hcomma, h⟩ := Spans.split h
    obtain ⟨element, helement, hshape⟩ := he.normal hfirst
    obtain ⟨elements, helements, hshapes⟩ := hes.normal h
    refine ⟨_, .more helement hcomma helements, ?_⟩
    simp only [Node.elementsShape, hshape, hshapes]

end

/-- What is written of a derived tree is derived in the strict grammar, with the same shape. -/
theorem Document.normal {source : List Char} {root : Node} (h : Document mode source root) :
    ∃ root', Document .strict (root.dump {}) root' ∧ root'.shape = root.shape := by
  obtain ⟨a, b, e, -, hvalue, -, -⟩ := h
  rw [Node.dump_eq_print]
  have hspans : Spans root.shape.print ⟨0, root.shape.print⟩ ⟨byteLength root.shape.print, []⟩ :=
    ⟨(List.append_nil _).symm, (Nat.zero_add _).symm⟩
  obtain ⟨root', hroot, hshape⟩ := hvalue.normal hspans
  exact ⟨root', ⟨_, _, _, .refl _, hroot, .refl _, rfl⟩, hshape⟩

end Grammar

namespace Document

/-- **Writing is a faithful normalisation.** What is written of a document, in either mode, is a
strict text whose tree has the same shape, and which is written the same again. -/
theorem dump_faithful {mode : Mode} {source : String} {d : Document}
    (h : parse mode source = .ok d) :
    ∃ d', parse .strict (d.dump {}) = .ok d' ∧ d'.root.shape = d.root.shape ∧
      d'.dump {} = d.dump {} := by
  obtain ⟨root, hroot, rfl⟩ := Grammar.map_eq_ok_iff.mp h
  obtain ⟨root', hnormal, hshape⟩ := (Grammar.read_eq_ok_iff.mp hroot).normal
  have hsource : (String.ofList (root.dump {})).toList = root.dump {} := String.toList_ofList
  have hread : read .strict (String.ofList (root.dump {})).toList = .ok root' := by
    rw [hsource]
    exact Grammar.read_eq_ok_iff.mpr hnormal
  refine ⟨⟨.strict, _, root'⟩, Grammar.map_eq_ok_iff.mpr ⟨root', hread, rfl⟩, hshape, ?_⟩
  simp only [dump, Node.dump_eq_print, hshape]

/-- A bare name, a name that occurs twice, and a string whose delimiter it contains. -/
theorem dump_faithful_relaxed :
    ∃ d, parse .relaxed "\x7ba:'\"\\'', a:[1e3]\x7d" = .ok d ∧
      ∃ d', parse .strict (d.dump {}) = .ok d' ∧ d'.root.shape = d.root.shape ∧
        d'.dump {} = d.dump {} := by
  have hparse : (parse .relaxed "\x7ba:'\"\\'', a:[1e3]\x7d").toOption.isSome = true := by decide
  cases h : parse .relaxed "\x7ba:'\"\\'', a:[1e3]\x7d" with
  | error e =>
    rw [h] at hparse
    cases hparse
  | ok d => exact ⟨d, rfl, dump_faithful h⟩

end Document

end Testbench.Json
