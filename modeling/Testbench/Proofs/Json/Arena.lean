import Testbench.Proofs.Json.Building
import Testbench.Proofs.Json.Extent

/-!
# What every arena is like

* `Arena.Valid` : an arena is a tree of its nodes, in the order in which parents come first, and
  of pieces of its source.
* `Arena.Answers` : it has an answer to everything, and it is that of a tree.
* `Node.valid_arena`, `Node.answers_arena` : so it is with the arena of a tree whose nodes have their
  places in the source.
* `Document.arena_valid` : so it is with the arena of every text that can be parsed.
-/

set_option autoImplicit false

namespace Testbench.Json

namespace Arena

/-- Node `p` has the child `c`. -/
def Holds (arena : Arena) (p c : Nat) : Prop := ∃ e, arena[p]? = some e ∧ c ∈ e.children

/-- The spans of node `id`, as they stand in the source. -/
def spansAt (arena : Arena) (id : Nat) : List Span := (arena[id]?.map Entry.spans).getD []

/-- An arena is one tree, numbered with parents first, of pieces of its source. -/
structure Valid (source : List Char) (arena : Arena) : Prop where
  /-- Node 0 is there, and has no name. -/
  root : ∃ e, arena[0]? = some e ∧ e.name = none
  /-- Every other node is a child of one node, once; that one comes before it. -/
  parent : ∀ id, 0 < id → id < arena.length →
    ∃ p < id, arena.Holds p id ∧ ∀ q, arena.Holds q id → q = p
  /-- Children are nodes, and come after their parents. -/
  child : ∀ p c, arena.Holds p c → p < c ∧ c < arena.length
  /-- Children are in order, each once. -/
  increasing : ∀ e ∈ arena, e.children.Pairwise (· < ·)
  /-- What is no container has no children. -/
  leaf : ∀ e ∈ arena, e.kind.brackets? = none → e.children = []
  /-- The numbers are the order in which parents come first. -/
  preorder : arena.walk arena.length 0 = List.range arena.length
  /-- The children of objects, and no other ones, have names. -/
  named : ∀ e ∈ arena, ∀ c ∈ e.children, ∀ f, arena[c]? = some f →
    (f.name.isSome ↔ e.kind = .object)
  /-- Nodes and names are pieces of the source. -/
  slices : ∀ e ∈ arena, ∀ s ∈ e.spans, ∃ slice, s.slice? source = some slice
  /-- Containers begin and end with their brackets. -/
  brackets : ∀ e ∈ arena, ∀ first last, e.kind.brackets? = some (first, last) →
    ∃ slice inner, e.span.slice? source = some slice ∧ slice.text = first :: (inner ++ [last])
  /-- Children and their names lie between the brackets. -/
  inside : ∀ e ∈ arena, ∀ c ∈ e.children, ∀ s ∈ arena.spansAt c,
    e.span.offset < s.offset ∧ s.stop < e.span.stop
  /-- Siblings and their names follow one another. -/
  apart : ∀ e ∈ arena, (e.children.flatMap arena.spansAt).Pairwise fun s t => s.stop < t.offset

/-- Whatever an arena is asked, every number and every span on the way is good, the way ends, and
the answer is that of the tree. -/
structure Answers (source : List Char) (arena : Arena) (root : Node) : Prop where
  raw : ∀ id < arena.length, ∃ raw, raw? source arena id = some raw
  text : ∀ id < arena.length, ∃ text, text? source arena id = some text
  name : ∀ id < arena.length, ∃ name, name? source arena id = some name
  get : ∀ path, get? source arena path = some (root.get? path)
  dump : ∀ o, dump? source arena o = some (root.dump o)
  toXml : ∀ tag, toXml? source arena tag = some (root.toXml tag)

end Arena

namespace Node

/-! ## Nodes and entries -/

theorem spans_entry (id : Nat) (p : Option Name × Node) : (entry id p).spans = spans p := by
  obtain ⟨name, n⟩ := p
  cases name <;> rfl

theorem mem_arena {root : Node} {e : Entry} (h : e ∈ root.arena) :
    ∃ id p, (root.preorder none)[id]? = some p ∧ e = entry id p := by
  obtain ⟨id, hid⟩ := List.getElem?_of_mem h
  rw [getElem?_arena] at hid
  obtain ⟨p, hp, rfl⟩ := Option.map_eq_some_iff.mp hid
  exact ⟨id, p, hp, rfl⟩

/-- The child with a number is there. -/
theorem getElem?_of_mem_numbers {root : Node} {id j : Nat} {p : Option Name × Node}
    (h : (root.preorder none)[id]? = some p) (hj : j ∈ numbers (id + 1) p.2.children) :
    ∃ c ∈ p.2.children, (root.preorder none)[j]? = some c := by
  have hmem : (root.preorder none)[j]? ∈ p.2.children.map some :=
    getElem?_numbers h ▸ List.mem_map_of_mem hj
  obtain ⟨c, hc, hget⟩ := List.mem_map.mp hmem
  exact ⟨c, hc, hget.symm⟩

theorem spansAt_arena (root : Node) (j : Nat) :
    root.arena.spansAt j = ((root.preorder none)[j]?.map spans).getD [] := by
  rw [Arena.spansAt, getElem?_arena]
  cases (root.preorder none)[j]? with
  | none => rfl
  | some c => exact spans_entry j c

/-- The spans of the children of an entry are those of the children of the node. -/
theorem flatMap_spansAt {root : Node} {id : Nat} {p : Option Name × Node}
    (h : (root.preorder none)[id]? = some p) :
    (numbers (id + 1) p.2.children).flatMap root.arena.spansAt = p.2.children.flatMap spans := by
  have hget := congrArg (List.flatMap fun o : Option (Option Name × Node) => (o.map spans).getD [])
    (getElem?_numbers h)
  rw [List.flatMap_map, List.flatMap_map] at hget
  rw [funext (spansAt_arena root)]
  exact hget

theorem isSome_of_mem_children {n : Node} {c : Option Name × Node} (hc : c ∈ n.children) :
    c.1.isSome ↔ n.kind = .object := by
  cases n with
  | scalar => cases hc
  | object =>
    obtain ⟨m, -, rfl⟩ := List.mem_map.mp hc
    simp [kind]
  | array =>
    obtain ⟨e, -, rfl⟩ := List.mem_map.mp hc
    simp [kind]

theorem children_of_brackets {n : Node} (h : n.kind.brackets? = none) : n.children = [] := by
  cases n with
  | scalar => rfl
  | object => cases h
  | array => cases h

theorem brackets_of_mem_children {n : Node} {c : Option Name × Node} (hc : c ∈ n.children) :
    ∃ first last, n.kind.brackets? = some (first, last) := by
  cases n with
  | scalar => cases hc
  | object => exact ⟨_, _, rfl⟩
  | array => exact ⟨_, _, rfl⟩

/-! ## Parents -/

theorem mem_children_iff {root : Node} {c : Nat} :
    (∃ p, root.arena.Holds p c) ↔ 0 < c ∧ c < root.size := by
  have hpos := root.size_pos
  have hmem : (∃ p, root.arena.Holds p c) ↔ c ∈ root.arena.flatMap Entry.children := by
    rw [List.mem_flatMap]
    constructor
    · rintro ⟨p, e, he, hc⟩
      exact ⟨e, List.mem_of_getElem? he, hc⟩
    · rintro ⟨e, he, hc⟩
      obtain ⟨p, hp⟩ := List.getElem?_of_mem he
      exact ⟨p, e, hp, hc⟩
  rw [hmem, root.perm_children.mem_iff, List.mem_range'_1]
  omega

/-- A node is a child of one node at most. -/
theorem holds_unique {root : Node} {p q c : Nat} (hp : root.arena.Holds p c)
    (hq : root.arena.Holds q c) : p = q := by
  obtain ⟨e, he, hce⟩ := hp
  obtain ⟨f, hf, hcf⟩ := hq
  obtain ⟨hpl, rfl⟩ := List.getElem?_eq_some_iff.mp he
  obtain ⟨hql, rfl⟩ := List.getElem?_eq_some_iff.mp hf
  have hnodup := root.perm_children.nodup_iff.mpr (List.nodup_range' 1)
  have hpairs := List.pairwise_iff_getElem.mp (List.pairwise_flatMap.mp hnodup).2
  rcases Nat.lt_trichotomy p q with hlt | heq | hgt
  · exact absurd rfl (hpairs p q hpl hql hlt c hce c hcf)
  · exact heq
  · exact absurd rfl (hpairs q p hql hpl hgt c hcf c hce)

theorem lt_of_holds {root : Node} {p c : Nat} (h : root.arena.Holds p c) : p < c := by
  obtain ⟨e, he, hc⟩ := h
  rw [getElem?_arena] at he
  obtain ⟨n, -, rfl⟩ := Option.map_eq_some_iff.mp he
  exact le_of_mem_numbers hc

/-! ## Validity -/

/-- **The arena of a tree whose nodes have their places in the source is valid.** -/
theorem valid_arena {source : List Char} {root : Node}
    (h : ∀ p ∈ root.preorder none, Fits source p ∧ p.2.Encloses) :
    root.arena.Valid source where
  root := ⟨entry 0 (none, root), by rw [getElem?_arena, getElem?_preorder_zero]; rfl, rfl⟩
  parent id hpos hlt := by
    rw [length_arena] at hlt
    obtain ⟨p, hp⟩ := mem_children_iff.mpr ⟨hpos, hlt⟩
    exact ⟨p, lt_of_holds hp, hp, fun q hq => holds_unique hq hp⟩
  child p c hpc := by
    rw [length_arena]
    exact ⟨lt_of_holds hpc, (mem_children_iff.mp ⟨p, hpc⟩).2⟩
  increasing e he := by
    obtain ⟨id, p, -, rfl⟩ := mem_arena he
    exact pairwise_numbers _ _
  leaf e he hkind := by
    obtain ⟨id, p, -, rfl⟩ := mem_arena he
    have hchildren : p.2.children = [] := children_of_brackets hkind
    simp only [entry, hchildren, numbers]
  preorder := walk_arena root
  named e he j hj f hf := by
    obtain ⟨id, p, hp, rfl⟩ := mem_arena he
    obtain ⟨c, hc, hget⟩ := getElem?_of_mem_numbers hp hj
    rw [getElem?_arena, hget] at hf
    cases hf
    have hname : (entry j c).name.isSome = c.1.isSome := Option.isSome_map
    rw [hname]
    exact isSome_of_mem_children hc
  slices e he s hs := by
    obtain ⟨id, p, hp, rfl⟩ := mem_arena he
    have hfits := (h p (List.mem_of_getElem? hp)).1
    rw [spans_entry, spans, List.mem_append, Option.mem_toList, List.mem_singleton] at hs
    rcases hs with hs | rfl
    · obtain ⟨name, hname, rfl⟩ := Option.map_eq_some_iff.mp hs
      exact ⟨_, hfits.name name hname⟩
    · exact ⟨_, hfits.slice⟩
  brackets e he first last hkind := by
    obtain ⟨id, p, hp, rfl⟩ := mem_arena he
    obtain ⟨hfits, hencloses⟩ := h p (List.mem_of_getElem? hp)
    obtain ⟨⟨inner, htext⟩, -⟩ := hencloses first last hkind
    exact ⟨p.2.slice, inner, hfits.slice, htext⟩
  inside e he j hj s hs := by
    obtain ⟨id, p, hp, rfl⟩ := mem_arena he
    obtain ⟨c, hc, -⟩ := getElem?_of_mem_numbers hp hj
    obtain ⟨first, last, hkind⟩ := brackets_of_mem_children hc
    have hstrung := ((h p (List.mem_of_getElem? hp)).2 first last hkind).2
    have hmem : s ∈ p.2.children.flatMap spans :=
      flatMap_spansAt hp ▸ List.mem_flatMap.mpr ⟨j, hj, hs⟩
    have hle := hstrung.le
    have hwithin := hstrung.within s hmem
    simp only [entry, Slice.span]
    omega
  apart e he := by
    obtain ⟨id, p, hp, rfl⟩ := mem_arena he
    have hspans : (entry id p).children.flatMap root.arena.spansAt = p.2.children.flatMap spans :=
      flatMap_spansAt hp
    rw [hspans]
    cases hkind : p.2.kind.brackets? with
    | none => rw [children_of_brackets hkind]; exact .nil
    | some b => exact ((h p (List.mem_of_getElem? hp)).2 b.1 b.2 hkind).2.apart

theorem exists_of_lt {root : Node} {id : Nat} (h : id < root.arena.length) :
    ∃ p, (root.preorder none)[id]? = some p := by
  rw [length_arena, ← length_preorder none] at h
  exact ⟨_, List.getElem?_eq_getElem h⟩

theorem answers_arena {source : List Char} {root : Node}
    (h : ∀ p ∈ root.preorder none, Fits source p) : root.arena.Answers source root where
  raw id hid := by
    obtain ⟨p, hp⟩ := exists_of_lt hid
    exact ⟨_, raw?_arena h hp⟩
  text id hid := by
    obtain ⟨p, hp⟩ := exists_of_lt hid
    exact ⟨_, text?_arena h hp⟩
  name id hid := by
    obtain ⟨p, hp⟩ := exists_of_lt hid
    exact ⟨_, name?_arena h hp⟩
  get := get?_arena h
  dump := dump?_arena h
  toXml := toXml?_arena h

end Node

namespace Document

/-- **The arena of a text that can be parsed is valid**, has as many nodes as the document, and
answers as the document does. -/
theorem arena_valid {mode : Mode} {source : String} {d : Document}
    (h : parse mode source = .ok d) :
    ∃ arena, Arena.read mode source.toList = .ok arena ∧ arena.length = d.size ∧
      arena.Valid source.toList ∧ arena.Answers source.toList d.root := by
  obtain ⟨root, hroot, rfl⟩ := Grammar.map_eq_ok_iff.mp h
  have hplaced := (Grammar.read_eq_ok_iff.mp hroot).placed
  refine ⟨root.arena, ?_, Node.length_arena root, Node.valid_arena hplaced,
    Node.answers_arena fun p hp => (hplaced p hp).1⟩
  rw [Arena.read_eq, hroot]
  rfl

/-- A relaxed document with a character of two bytes, and its arena. -/
theorem arena_valid_relaxed :
    ∃ d arena, parse .relaxed "[\x7ba: 'é', \"b\": []\x7d, 1]" = .ok d ∧
      Arena.read .relaxed "[\x7ba: 'é', \"b\": []\x7d, 1]".toList = .ok arena ∧
      arena.map Entry.children = [[1, 4], [2, 3], [], [], []] ∧
      arena.map Entry.spans =
        [[⟨0, 23⟩], [⟨1, 19⟩], [⟨2, 3⟩, ⟨6, 8⟩], [⟨12, 13⟩, ⟨16, 18⟩], [⟨21, 22⟩]] ∧
      arena.Valid "[\x7ba: 'é', \"b\": []\x7d, 1]".toList ∧
      arena.Answers "[\x7ba: 'é', \"b\": []\x7d, 1]".toList d.root := by
  have hread : ((Arena.read .relaxed "[\x7ba: 'é', \"b\": []\x7d, 1]".toList).toOption.map
      fun arena => (arena.map Entry.children, arena.map Entry.spans)) =
      some ([[1, 4], [2, 3], [], [], []],
        [[⟨0, 23⟩], [⟨1, 19⟩], [⟨2, 3⟩, ⟨6, 8⟩], [⟨12, 13⟩, ⟨16, 18⟩], [⟨21, 22⟩]]) := by
    decide +kernel
  cases h : parse .relaxed "[\x7ba: 'é', \"b\": []\x7d, 1]" with
  | error e =>
    have hparse : (parse .relaxed "[\x7ba: 'é', \"b\": []\x7d, 1]").toOption.isSome = true := by
      decide +kernel
    rw [h] at hparse
    cases hparse
  | ok d =>
    obtain ⟨arena, harena, -, hvalid, hanswers⟩ := arena_valid h
    rw [harena] at hread
    obtain ⟨hchildren, hspans⟩ := Prod.mk.inj (Option.some.inj hread)
    exact ⟨d, arena, rfl, harena, hchildren, hspans, hvalid, hanswers⟩

end Document

end Testbench.Json
