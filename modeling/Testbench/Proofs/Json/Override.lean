import Testbench.Proofs.Json.Extent
import Testbench.Proofs.Json.Modes
import Testbench.Proofs.Json.Normal
import Testbench.Proofs.Json.Path

/-!
# Writing a tree with other scalars

* `Node.shapeUnder` : the shape of a tree in which some scalars are others, by their paths.
* `Shape.outline` : a shape without what its scalars say.
* `Grammar.Stands` : a text that is a scalar wherever it is read.
* `Grammar.Value.dumped` : what is written of a derived tree, with such texts in place of scalars,
  is derived again.
* `Document.override_found` : so a scalar is overridden at the path at which it is found.
-/

set_option autoImplicit false

namespace Testbench.Json

open Text

/-! ## Shapes in which scalars are others -/

/-- What some scalars are instead, by their paths: kinds and texts. -/
abbrev Scalars := List Char → Option (ScalarKind × List Char)

mutual

/-- The shape of a node at `path`, in which some scalars are others. -/
def Node.shapeUnder (scalars : Scalars) (path : List Char) : Node → Shape
  | .scalar kind quote slice =>
    match scalars path with
    | some (kind, text) => .scalar kind text
    | none => (Node.scalar kind quote slice).shape
  | .object _ members => .object (Node.membersUnder scalars path members)
  | .array _ elements => .array (Node.elementsUnder scalars path 0 elements)

def Node.membersUnder (scalars : Scalars) (path : List Char) :
    List (Name × Node) → List (List Char × Shape)
  | [] => []
  | (name, value) :: more =>
    (name.text, value.shapeUnder scalars (memberPath path name.text)) ::
      Node.membersUnder scalars path more

def Node.elementsUnder (scalars : Scalars) (path : List Char) (index : Nat) :
    List Node → List Shape
  | [] => []
  | value :: more =>
    value.shapeUnder scalars (elementPath path index) ::
      Node.elementsUnder scalars path (index + 1) more

end

namespace Shape

mutual

/-- A shape without what its scalars say. -/
def outline : Shape → Shape
  | scalar _ _ => scalar .null []
  | object members => object (membersOutline members)
  | array elements => array (elementsOutline elements)

def membersOutline : List (List Char × Shape) → List (List Char × Shape)
  | [] => []
  | (name, value) :: more => (name, value.outline) :: membersOutline more

def elementsOutline : List Shape → List Shape
  | [] => []
  | value :: more => value.outline :: elementsOutline more

end

/-- The shape one step down. -/
def step? (s : Shape) : Step → Option Shape
  | .member name =>
    match s with
    | object members => (members.find? fun m => m.1 == name).map Prod.snd
    | _ => none
  | .element index =>
    match s with
    | array elements => elements[index]?
    | _ => none

/-- The shape at the end of a list of steps. -/
def at? (s : Shape) : List Step → Option Shape
  | [] => some s
  | step :: steps => (s.step? step).bind fun below => below.at? steps

end Shape

namespace Node

mutual

/-- Other scalars leave the outline as it is. -/
theorem outline_shapeUnder (scalars : Scalars) (path : List Char) :
    ∀ n : Node, (n.shapeUnder scalars path).outline = n.shape.outline
  | .scalar kind quote slice => by
    rw [shapeUnder]
    split <;> rfl
  | .object _ members => by
    rw [shapeUnder, shape, Shape.outline, Shape.outline, outline_membersUnder scalars path members]
  | .array _ elements => by
    rw [shapeUnder, shape, Shape.outline, Shape.outline,
      outline_elementsUnder scalars path 0 elements]

theorem outline_membersUnder (scalars : Scalars) (path : List Char) :
    ∀ members : List (Name × Node),
      Shape.membersOutline (membersUnder scalars path members) =
        Shape.membersOutline (membersShape members)
  | [] => rfl
  | (name, value) :: more => by
    rw [membersUnder, membersShape, Shape.membersOutline, Shape.membersOutline,
      outline_shapeUnder scalars _ value, outline_membersUnder scalars path more]

theorem outline_elementsUnder (scalars : Scalars) (path : List Char) (index : Nat) :
    ∀ elements : List Node,
      Shape.elementsOutline (elementsUnder scalars path index elements) =
        Shape.elementsOutline (elementsShape elements)
  | [] => rfl
  | value :: more => by
    rw [elementsUnder, elementsShape, Shape.elementsOutline, Shape.elementsOutline,
      outline_shapeUnder scalars _ value, outline_elementsUnder scalars path (index + 1) more]

end

/-! ## Looking up in shapes -/

theorem membersShape_eq_map (members : List (Name × Node)) :
    membersShape members = members.map fun m => (m.1.text, m.2.shape) := by
  induction members with
  | nil => rfl
  | cons m members ih => rw [membersShape, ih, List.map_cons]

theorem elementsShape_eq_map (elements : List Node) : elementsShape elements = elements.map shape := by
  induction elements with
  | nil => rfl
  | cons value elements ih => rw [elementsShape, ih, List.map_cons]

theorem membersUnder_eq_map (scalars : Scalars) (path : List Char) (members : List (Name × Node)) :
    membersUnder scalars path members =
      members.map fun m => (m.1.text, m.2.shapeUnder scalars (memberPath path m.1.text)) := by
  induction members with
  | nil => rfl
  | cons m members ih => rw [membersUnder, ih, List.map_cons]

theorem getElem?_elementsUnder (scalars : Scalars) (path : List Char) (first : Nat)
    (elements : List Node) (index : Nat) :
    (elementsUnder scalars path first elements)[index]? =
      elements[index]?.map (·.shapeUnder scalars (elementPath path (first + index))) := by
  induction elements generalizing first index with
  | nil => rfl
  | cons value elements ih =>
    cases index with
    | zero => rfl
    | succ index =>
      rw [elementsUnder, List.getElem?_cons_succ, List.getElem?_cons_succ, ih, Nat.add_right_comm,
        Nat.add_assoc]

theorem step?_shape (n : Node) (s : Step) : n.shape.step? s = (n.step? s).map shape := by
  cases n with
  | scalar => cases s <;> rfl
  | object slice members =>
    cases s with
    | element => rfl
    | member name =>
      simp only [shape, Shape.step?, step?, member?, membersShape_eq_map, List.find?_map,
        Option.map_map]
      rfl
  | array slice elements =>
    cases s with
    | member => rfl
    | element index =>
      simp only [shape, Shape.step?, step?, element?, elementsShape_eq_map, List.getElem?_map]

theorem step?_shapeUnder (scalars : Scalars) (path : List Char) (n : Node) (s : Step) :
    (n.shapeUnder scalars path).step? s =
      (n.step? s).map (·.shapeUnder scalars (s.onto path)) := by
  cases n with
  | scalar kind quote slice =>
    rw [shapeUnder]
    split <;> cases s <;> rfl
  | object slice members =>
    cases s with
    | element => rfl
    | member name =>
      have hfind : (membersUnder scalars path members).find? (fun m => m.1 == name) =
          (members.find? fun m => m.1.text == name).map fun m =>
            (m.1.text, m.2.shapeUnder scalars (memberPath path m.1.text)) := by
        rw [membersUnder_eq_map, List.find?_map]
        rfl
      simp only [shapeUnder, Shape.step?, hfind, step?, member?]
      cases hm : members.find? fun m => m.1.text == name with
      | none => rfl
      | some m =>
        have hname := List.find?_some hm
        rw [beq_iff_eq] at hname
        rw [← hname]
        rfl
  | array slice elements =>
    cases s with
    | member => rfl
    | element index =>
      simp only [shapeUnder, Shape.step?, step?, element?, getElem?_elementsUnder, Nat.zero_add]
      rfl

theorem at?_shape (n : Node) (steps : List Step) :
    n.shape.at? steps = (n.at? steps).map shape := by
  induction steps generalizing n with
  | nil => rfl
  | cons s steps ih =>
    rw [Shape.at?, at?, step?_shape]
    cases n.step? s with
    | none => rfl
    | some below => exact ih below

theorem at?_shapeUnder (scalars : Scalars) (path : List Char) (n : Node) (steps : List Step) :
    (n.shapeUnder scalars path).at? steps =
      (n.at? steps).map (·.shapeUnder scalars (steps.foldl Step.onto path)) := by
  induction steps generalizing n path with
  | nil => rfl
  | cons s steps ih =>
    rw [Shape.at?, at?, step?_shapeUnder]
    cases n.step? s with
    | none => rfl
    | some below => exact ih (s.onto path) below

/-- A node whose shape is that of a scalar has its text. -/
theorem text_of_shape {n : Node} {kind : ScalarKind} {text : List Char}
    (h : n.shape = .scalar kind text) : n.text = text := by
  cases n with
  | scalar => exact (Shape.scalar.inj h).2
  | object => cases h
  | array => cases h

end Node

namespace Grammar

open Cursor (Spans)

/-! ## Scalars at other places -/

/-- A strict scalar is one at every other place too. -/
theorem Value.moved {room : Nat} {a b : Cursor} {kind : ScalarKind} {quote : Quote} {slice : Slice}
    (h : Value .strict room a b (.scalar kind quote slice)) :
    ∃ s, Spans s a b ∧ ∀ (mode : Mode) (room : Nat) (p q : Cursor), Spans s p q →
      ∃ node, Value mode room p q node ∧
        node.shape = (Node.scalar kind quote slice).shape := by
  cases h with
  | string hq =>
    obtain ⟨hd, hopen, hc, hs, hclose⟩ := hq
    cases hd with
    | double =>
      refine ⟨_, hopen.trans (hs.trans hclose), fun mode room p q hpq => ?_⟩
      obtain ⟨c, hp, hpq⟩ := Spans.split hpq
      obtain ⟨e, htext, hq⟩ := Spans.split hpq
      refine ⟨_, .string (.mk .double hp hc.of_strict htext hq), ?_⟩
      rw [Node.shape, Node.shape, Node.text_scalar, Node.text_scalar, htext.text_sliceTo,
        hs.text_sliceTo]
  | number hn hs =>
    refine ⟨_, hs, fun mode room p q hpq => ⟨_, .number hn hpq, ?_⟩⟩
    rw [shape_sliceTo (by decide) hpq, shape_sliceTo (by decide) hs]
  | boolean hm hs =>
    refine ⟨_, hs, fun mode room p q hpq => ⟨_, .boolean hm hpq, ?_⟩⟩
    rw [shape_sliceTo (by decide) hpq, shape_sliceTo (by decide) hs]
  | null hs =>
    refine ⟨_, hs, fun mode room p q hpq => ⟨_, .null hpq, ?_⟩⟩
    rw [shape_sliceTo (by decide) hpq, shape_sliceTo (by decide) hs]

/-- The text is a scalar with this kind and text, in either mode, wherever it stands and however
little room there is. -/
def Stands (literal : List Char) (kind : ScalarKind) (text : List Char) : Prop :=
  ∀ (mode : Mode) (room : Nat) (p q : Cursor), Spans literal p q →
    ∃ node, Element mode room p q node ∧ node.shape = .scalar kind text

/-- A strict document that is a scalar may stand in place of a scalar. -/
theorem Document.stands {literal : List Char} {kind : ScalarKind} {quote : Quote} {slice : Slice}
    (h : Document .strict literal (.scalar kind quote slice)) :
    Stands literal kind (Node.scalar kind quote slice).text := by
  obtain ⟨a, b, e, ⟨before, hbefore, ha⟩, hv, ⟨after, hafter, hb⟩, hend⟩ := h
  obtain ⟨s, hs, hmoved⟩ := hv.moved
  have hliteral : literal = before ++ (s ++ after) := by
    have hall := (ha.trans (hs.trans hb)).1
    rw [hend, List.append_nil] at hall
    exact hall
  intro mode room p q hpq
  rw [hliteral] at hpq
  obtain ⟨p', hp, hpq⟩ := Spans.split hpq
  obtain ⟨q', hs', hq⟩ := Spans.split hpq
  obtain ⟨node, hnode, hshape⟩ := hmoved mode room p' q' hs'
  exact ⟨node, .mk ⟨before, hbefore, hp⟩ hnode ⟨after, hafter, hq⟩, hshape⟩

/-! ## Derivations of what is written -/

/-- Every literal stands for what `scalars` tells at its path. -/
structure Tells (o : Overrides) (scalars : Scalars) : Prop where
  absent : ∀ path, o.find? path = none → scalars path = none
  present : ∀ path literal, o.find? path = some literal →
    ∃ kind text, scalars path = some (kind, text) ∧ Stands literal kind text

section Dumped

variable {mode mode' : Mode} {o : Overrides} {scalars : Scalars}

/-- A scalar is written as it is itself or as the literal in its place. -/
theorem dumped_scalar (mode : Mode) (ho : Tells o scalars) {room : Nat} {a b p q : Cursor}
    {back : List Char} {kind : ScalarKind} {quote : Quote} {slice : Slice}
    (hv : Value mode room a b (.scalar kind quote slice))
    (h : Spans ((Node.scalar kind quote slice).dumpOnto o back []) p q) :
    ∃ node', Element mode' room p q node' ∧
      node'.shape = (Node.scalar kind quote slice).shapeUnder scalars back.reverse := by
  rw [Node.dumpOnto, Overrides.findBack?_eq] at h
  rw [Node.shapeUnder]
  cases hfind : o.find? back.reverse with
  | some literal =>
    obtain ⟨kind', text, htells, hstands⟩ := ho.present _ _ hfind
    simp only [hfind, List.append_nil] at h
    rw [htells]
    exact hstands mode' room p q h
  | none =>
    have hprint : Spans (Node.scalar kind quote slice).shape.print p q := by
      simp only [hfind, List.append_nil] at h
      rw [Node.shape, Shape.print, Node.text_scalar]
      split at h
      · rename_i hkind
        rwa [if_pos hkind, if_pos hkind]
      · rename_i hkind
        rwa [if_neg hkind, if_neg hkind]
    rw [ho.absent _ hfind]
    obtain ⟨strict, hstrict, hshape⟩ := hv.normal hprint
    cases strict with
    | scalar kind' quote' slice' =>
      obtain ⟨s, hs, hmoved⟩ := hstrict.moved
      obtain ⟨node, hnode, hsame⟩ := hmoved mode' room p q hs
      exact ⟨node, .mk (.refl p) hnode (.refl q), hsame.trans hshape⟩
    | object => cases hshape
    | array => cases hshape

mutual

/-- **What is written of a value, with literals in place of scalars, is a value of that shape.** -/
theorem Value.dumped (ho : Tells o scalars) {room : Nat} {a b p q : Cursor} {back : List Char}
    {node : Node} :
    Value mode room a b node → Spans (node.dumpOnto o back []) p q →
    ∃ node', Element mode' room p q node' ∧ node'.shape = node.shapeUnder scalars back.reverse
  | .string hq, h => dumped_scalar mode ho (.string hq) h
  | .number hn hs, h => dumped_scalar mode ho (.number hn hs) h
  | .boolean hm hs, h => dumped_scalar mode ho (.boolean hm hs) h
  | .null hs, h => dumped_scalar mode ho (.null hs) h
  | .emptyObject _ _ _, h => by
    obtain ⟨c, hp, hq⟩ := Spans.split (s := ['\x7b']) h
    exact ⟨_, .mk (.refl p) (.emptyObject hp (.refl c) hq) (.refl q), rfl⟩
  | .object _ hms _, h => by
    rw [Node.dumpOnto, Node.dumpMembersOnto_append] at h
    obtain ⟨c, hp, h⟩ := Spans.split (s := ['\x7b']) h
    obtain ⟨e, h, hq⟩ := Spans.split h
    obtain ⟨members, hmembers, hshape⟩ := hms.dumped ho h
    exact ⟨_, .mk (.refl p) (.object hp hmembers hq) (.refl q), congrArg Shape.object hshape⟩
  | .emptyArray _ _ _, h => by
    obtain ⟨c, hp, hq⟩ := Spans.split (s := ['[']) h
    exact ⟨_, .mk (.refl p) (.emptyArray hp (.refl c) hq) (.refl q), rfl⟩
  | .array _ hes _, h => by
    rw [Node.dumpOnto, Node.dumpElementsOnto_append] at h
    obtain ⟨c, hp, h⟩ := Spans.split (s := ['[']) h
    obtain ⟨e, h, hq⟩ := Spans.split h
    obtain ⟨elements, helements, hshape⟩ := hes.dumped ho h
    exact ⟨_, .mk (.refl p) (.array hp helements hq) (.refl q), congrArg Shape.array hshape⟩

theorem Member.dumped (ho : Tells o scalars) {room : Nat} {a b p q : Cursor} {back : List Char}
    {member : Name × Node} :
    Member mode room a b member →
    Spans (spell member.1.text ++
      ([':'] ++ member.2.dumpOnto o (memberBack back member.1.text) [])) p q →
    ∃ member', Member mode' room p q member' ∧ member'.1.text = member.1.text ∧
      member'.2.shape = member.2.shapeUnder scalars (memberPath back.reverse member.1.text)
  | .mk _ _ _ _ _ hv _, h => by
    obtain ⟨c, hname, h⟩ := Spans.split h
    obtain ⟨e, hcolon, h⟩ := Spans.split h
    obtain ⟨slice, hquoted, htext⟩ := quoted_spell hname
    obtain ⟨node, ⟨hbefore, hnode, hafter⟩, hshape⟩ := hv.dumped ho h
    rw [reverse_memberBack] at hshape
    refine ⟨(⟨slice, .double⟩, node), ?_, htext, hshape⟩
    exact .mk (.refl p) (.quoted hquoted) (.refl c) hcolon hbefore hnode hafter

theorem Members.dumped (ho : Tells o scalars) {room : Nat} {a b p q : Cursor} {back : List Char}
    {members : List (Name × Node)} :
    Members mode room a b members → Spans (Node.dumpMembersOnto o back members []) p q →
    ∃ members', Members mode' room p q members' ∧
      Node.membersShape members' = Node.membersUnder scalars back.reverse members
  | .last hm, h => by
    rw [Node.dumpMembers_last] at h
    obtain ⟨member, hmember, hname, hshape⟩ := hm.dumped ho h
    refine ⟨_, .last hmember, ?_⟩
    simp only [Node.membersShape, Node.membersUnder, hname, hshape]
  | .more hm _ hms, h => by
    rw [Node.dumpMembers_more o back _ _ hms.ne_nil] at h
    obtain ⟨c, hfirst, h⟩ := Spans.split h
    obtain ⟨e, hcomma, h⟩ := Spans.split h
    obtain ⟨member, hmember, hname, hshape⟩ := hm.dumped ho hfirst
    obtain ⟨members, hmembers, hshapes⟩ := hms.dumped ho h
    refine ⟨_, .more hmember hcomma hmembers, ?_⟩
    simp only [Node.membersShape, Node.membersUnder, hname, hshape, hshapes]

theorem Element.dumped (ho : Tells o scalars) {room : Nat} {a b p q : Cursor} {back : List Char}
    {element : Node} :
    Element mode room a b element → Spans (element.dumpOnto o back []) p q →
    ∃ element', Element mode' room p q element' ∧
      element'.shape = element.shapeUnder scalars back.reverse
  | .mk _ hv _, h => hv.dumped ho h

theorem Elements.dumped (ho : Tells o scalars) {room : Nat} {a b p q : Cursor} {back : List Char}
    {index : Nat} {elements : List Node} :
    Elements mode room a b elements → Spans (Node.dumpElementsOnto o back index elements []) p q →
    ∃ elements', Elements mode' room p q elements' ∧
      Node.elementsShape elements' = Node.elementsUnder scalars back.reverse index elements
  | .last he, h => by
    rw [Node.dumpElements_last] at h
    obtain ⟨element, helement, hshape⟩ := he.dumped ho h
    rw [reverse_elementBack] at hshape
    refine ⟨_, .last helement, ?_⟩
    simp only [Node.elementsShape, Node.elementsUnder, hshape]
  | .more he _ hes, h => by
    rw [Node.dumpElements_more o back index _ hes.ne_nil] at h
    obtain ⟨c, hfirst, h⟩ := Spans.split h
    obtain ⟨e, hcomma, h⟩ := Spans.split h
    obtain ⟨element, helement, hshape⟩ := he.dumped ho hfirst
    obtain ⟨elements, helements, hshapes⟩ := hes.dumped ho h
    rw [reverse_elementBack] at hshape
    refine ⟨_, .more helement hcomma helements, ?_⟩
    simp only [Node.elementsShape, Node.elementsUnder, hshape, hshapes]

end

end Dumped

/-- What is written of a derived tree is derived in every mode. -/
theorem Document.dumped {mode : Mode} {source : List Char} {root : Node}
    (h : Document mode source root) {o : Overrides} {scalars : Scalars} (ho : Tells o scalars)
    (mode' : Mode) :
    ∃ root', Document mode' (root.dump o) root' ∧ root'.shape = root.shapeUnder scalars [] := by
  obtain ⟨a, b, e, -, hvalue, -, -⟩ := h
  have hspans : Spans (root.dumpOnto o [] []) ⟨0, root.dump o⟩ ⟨byteLength (root.dump o), []⟩ :=
    ⟨(List.append_nil _).symm, (Nat.zero_add _).symm⟩
  obtain ⟨root', ⟨hbefore, hroot, hafter⟩, hshape⟩ := hvalue.dumped ho hspans
  exact ⟨root', ⟨_, _, _, hbefore, hroot, hafter, rfl⟩, hshape⟩

/-! ## Indices that can be read -/

variable {mode : Mode}

theorem Elements.count_le {room : Nat} {a b : Cursor} {elements : List Node}
    (h : Elements mode room a b elements) :
    elements.length + b.rest.length ≤ a.rest.length + 1 := by
  induction elements generalizing a with
  | nil => cases h
  | cons n elements ih =>
    cases h with
    | last he =>
      have he := he.length_le
      rw [List.length_singleton]
      omega
    | more he hc hes =>
      have he := he.length_le
      have hc := hc.length_eq
      have hes := ih hes
      rw [List.length_singleton] at hc
      rw [List.length_cons]
      omega

/-- An array has fewer elements than there are characters from its bracket on. -/
theorem Value.length_of_leads {n : Node} {steps : List Step} {slice : Slice}
    {elements : List Node} (hl : n.Leads steps (.array slice elements)) {room : Nat}
    {a b : Cursor} (h : Value mode room a b n) : elements.length ≤ a.rest.length := by
  generalize hbelow : Node.array slice elements = below at hl
  induction hl generalizing room a b with
  | here =>
    subst hbelow
    cases h with
    | emptyArray => exact Nat.zero_le _
    | array ha hes =>
      have ha := ha.length_eq
      have hes := hes.count_le
      rw [List.length_singleton] at ha
      omega
  | member hm _ ih =>
    cases h with
    | emptyObject => cases hm
    | object ha hms =>
      have ha := ha.length_eq
      obtain ⟨-, c, e, hce, hv⟩ := hms.exists_value hm
      have hle := hce.length_le
      have hlength := ih hv hbelow
      omega
  | element he _ ih =>
    cases h with
    | emptyArray => cases he
    | array ha hes =>
      have ha := ha.length_eq
      obtain ⟨c, e, hce, hv⟩ := hes.exists_value (List.mem_of_getElem? he)
      have hle := hce.length_le
      have hlength := ih hv hbelow
      omega

theorem Document.indexable {source : List Char} {root : Node} (h : Document mode source root)
    (hs : source.length ≤ maxIndex) : root.Indexable := by
  obtain ⟨a, b, e, ha, hvalue, -, -⟩ := h
  intro steps slice elements hl
  have hlength := hvalue.length_of_leads hl
  have ha : a.rest.length ≤ source.length := ha.length_le
  omega

end Grammar

namespace Document

/-- The one scalar at a path is another. -/
def scalarAt (path : List Char) (kind : ScalarKind) (text : List Char) : Scalars :=
  fun q => if q = path then some (kind, text) else none

theorem tells_scalarAt {path literal : List Char} {kind : ScalarKind} {text : List Char}
    (h : Grammar.Stands literal kind text) :
    Grammar.Tells (({} : Overrides).set path literal) (scalarAt path kind text) := by
  have hfind : ∀ q, (({} : Overrides).set path literal).find? q =
      if q = path then some literal else none := by
    intro q
    rw [Overrides.find?_set]
    rfl
  refine ⟨fun q hq => ?_, fun q literal' hq => ?_⟩
  · rw [hfind] at hq
    split at hq
    · cases hq
    · rename_i hne
      exact if_neg hne
  · rw [hfind] at hq
    split at hq
    · rename_i he
      cases hq
      exact ⟨kind, text, if_pos he, h⟩
    · cases hq

/-- The text at the path of a scalar can be read off the shape. -/
theorem get?_of_shape {d : Document} {steps : List Step} (hp : ∀ s ∈ steps, s.Plain)
    {kind : ScalarKind} {text : List Char}
    (h : d.root.shape.at? steps = some (.scalar kind text)) :
    d.get? (String.ofList (pathOf steps)) = some (String.ofList text) := by
  rw [Node.at?_shape] at h
  obtain ⟨n, hn, hshape⟩ := Option.map_eq_some_iff.mp h
  rw [get?, String.toList_ofList, Node.get?, Node.lookup?, readPath?_pathOf hp]
  simp only [Option.bind_some, hn, Option.map_some, Node.text_of_shape hshape]

/-- What is written with one override can be read again, and has the shape with that scalar. -/
theorem parse_dump_set {mode : Mode} {source literal : String} {d e : Document}
    (h : parse mode source = .ok d) (he : parse .strict literal = .ok e) {kind : ScalarKind}
    {quote : Quote} {slice : Slice} (hscalar : e.root = .scalar kind quote slice)
    (path : List Char) (mode' : Mode) :
    ∃ d', parse mode' (d.dump (({} : Overrides).set path literal.toList)) = .ok d' ∧
      d'.root.shape = d.root.shapeUnder (scalarAt path kind e.root.text) [] := by
  obtain ⟨root, hroot, rfl⟩ := Grammar.map_eq_ok_iff.mp h
  obtain ⟨scalar, hliteral, rfl⟩ := Grammar.map_eq_ok_iff.mp he
  simp only at hscalar
  subst hscalar
  have htells : Grammar.Tells (({} : Overrides).set path literal.toList)
      (scalarAt path kind (Node.scalar kind quote slice).text) :=
    tells_scalarAt (Grammar.read_eq_ok_iff.mp hliteral).stands
  obtain ⟨root', hroot', hshape⟩ := (Grammar.read_eq_ok_iff.mp hroot).dumped htells mode'
  refine ⟨⟨mode', _, root'⟩, Grammar.map_eq_ok_iff.mpr ⟨root', ?_, rfl⟩, hshape⟩
  rw [dump, String.toList_ofList]
  exact Grammar.read_eq_ok_iff.mpr hroot'

/-- **Overrides and queries mean the same scalar by a path.** In a document whose objects have
different names, which can stand in a path, and whose source is no longer than the largest index
(as every text is that a machine can hold), every node is found at its path; and with another
scalar as the only override, at the path of a scalar, the document that is written and read again
has the shape of the old one with that scalar in its place and all others as they were. So it has
the same outline, that scalar at that path, and what it had at the path of every other one. -/
theorem override_found {mode : Mode} {source : String} {d : Document}
    (h : parse mode source = .ok d) (ha : d.root.Addressable) (hs : source.length ≤ maxIndex) :
    (∀ steps n, d.root.Leads steps n → d.root.lookup? (pathOf steps) = some n) ∧
    ∀ steps kind quote slice, d.root.Leads steps (.scalar kind quote slice) →
      ∀ literal e kind' quote' slice', parse .strict literal = .ok e →
        e.root = .scalar kind' quote' slice' →
        ∀ mode', ∃ d',
          parse mode' (d.dump (({} : Overrides).set (pathOf steps) literal.toList)) = .ok d' ∧
          d'.root.shape =
            d.root.shapeUnder (scalarAt (pathOf steps) kind' e.root.text) [] ∧
          d'.root.shape.outline = d.root.shape.outline ∧
          d'.get? (String.ofList (pathOf steps)) = e.get? "" ∧
          ∀ steps' kind' quote' slice', steps' ≠ steps →
            d.root.Leads steps' (.scalar kind' quote' slice') →
            d'.get? (String.ofList (pathOf steps')) = d.get? (String.ofList (pathOf steps')) := by
  have hindex : d.root.Indexable := by
    obtain ⟨root, hroot, rfl⟩ := Grammar.map_eq_ok_iff.mp h
    exact (Grammar.read_eq_ok_iff.mp hroot).indexable hs
  refine ⟨fun steps n hn => hn.lookup?_eq ha hindex, ?_⟩
  intro steps kind quote slice hleads literal e kind' quote' slice' he hscalar mode'
  obtain ⟨d', hd', hshape⟩ := parse_dump_set h he hscalar (pathOf steps) mode'
  -- what is found in the new tree is what is found in the old one, with the one scalar in place
  have hat : ∀ steps' n, d.root.Leads steps' n → d'.root.shape.at? steps' =
      some (n.shapeUnder (scalarAt (pathOf steps) kind' e.root.text) (pathOf steps')) := by
    intro steps' n hn
    rw [hshape, Node.at?_shapeUnder, hn.at?_eq ha]
    rfl
  have hplain := hleads.plain ha hindex
  refine ⟨d', hd', hshape, ?_, ?_, ?_⟩
  · rw [hshape]
    exact Node.outline_shapeUnder _ [] d.root
  · have htarget := hat _ _ hleads
    rw [Node.shapeUnder, scalarAt, if_pos rfl] at htarget
    exact get?_of_shape hplain htarget
  · intro steps' kind'' quote'' slice'' hne hleads'
    have hplain' := hleads'.plain ha hindex
    have hpath : pathOf steps' ≠ pathOf steps := fun he => hne (pathOf_inj hplain' hplain he)
    have hother := hat _ _ hleads'
    rw [Node.shapeUnder, scalarAt, if_neg hpath] at hother
    have hold : d.root.shape.at? steps' = some (Node.scalar kind'' quote'' slice'').shape := by
      rw [Node.at?_shape, hleads'.at?_eq ha]
      rfl
    exact (get?_of_shape hplain' hother).trans (get?_of_shape hplain' hold).symm

/-- A relaxed document with a bracket in a name, and a string in place of a number. -/
theorem override_found_relaxed :
    ∃ d, parse .relaxed "[\x7ba:['x',1],'b]':true\x7d,[[null]]]" = .ok d ∧
      d.get? "[0].a[0]" = some "x" ∧
      ∃ d', parse .strict (d.dump (({} : Overrides).set "[0].a[1]".toList "\"y\"".toList)) = .ok d' ∧
        d'.get? "[0].a[1]" = some "y" ∧ d'.get? "[0].a[0]" = some "x" := by
  have hparse : (parse .relaxed "[\x7ba:['x',1],'b]':true\x7d,[[null]]]").toOption.any (fun d =>
      decide d.root.Addressable && decide (d.get? "[0].a[0]" = some "x") &&
        decide ((d.root.at? [.element 0, .member ['a'], .element 1]).map Node.letter = some 'n') &&
        decide ((d.root.at? [.element 0, .member ['a'], .element 0]).map Node.letter = some 's')) =
      true := by decide +kernel
  have hliteral : (parse .strict "\"y\"").toOption.any (fun e =>
      decide (e.root.letter = 's') && decide (e.get? "" = some "y")) = true := by decide +kernel
  have hscalar : ∀ n : Node, n.letter = 'n' ∨ n.letter = 's' →
      ∃ kind quote slice, n = .scalar kind quote slice := by
    intro n hn
    cases n with
    | scalar kind quote slice => exact ⟨kind, quote, slice, rfl⟩
    | object => simp [Node.letter] at hn
    | array => simp [Node.letter] at hn
  cases h : parse .relaxed "[\x7ba:['x',1],'b]':true\x7d,[[null]]]" with
  | error e =>
    rw [h] at hparse
    cases hparse
  | ok d =>
    cases he : parse .strict "\"y\"" with
    | error e =>
      rw [he] at hliteral
      cases hliteral
    | ok e =>
      rw [h] at hparse
      rw [he] at hliteral
      simp only [Except.toOption, Option.any_some, Bool.and_eq_true, decide_eq_true_eq,
        Option.map_eq_some_iff] at hparse hliteral
      obtain ⟨⟨⟨ha, hx⟩, n, hn, hnumber⟩, n', hn', hstring⟩ := hparse
      obtain ⟨hs, hy⟩ := hliteral
      obtain ⟨kind, quote, slice, rfl⟩ := hscalar n (.inl hnumber)
      obtain ⟨kind', quote', slice', rfl⟩ := hscalar n' (.inr hstring)
      obtain ⟨kind'', quote'', slice'', he'⟩ := hscalar e.root (.inr hs)
      obtain ⟨-, hoverride⟩ := override_found h ha (by decide)
      obtain ⟨d', hd', -, -, htarget, hother⟩ :=
        hoverride _ _ _ _ (Node.leads_of_at? hn) _ e _ _ _ he he' .strict
      have hrest := hother _ _ _ _ (by decide) (Node.leads_of_at? hn')
      exact ⟨d, rfl, hx, d', hd', htarget.trans hy, hrest.trans hx⟩

end Document

end Testbench.Json
