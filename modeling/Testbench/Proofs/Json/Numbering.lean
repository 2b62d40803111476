import Mathlib
import Testbench.Json.Arena

/-!
# Numbering the nodes of a tree

* `Node.children` : what a node holds, whatever its kind; `Node.induction` : induction on trees
  by it.
* `Node.arena` : a tree as an arena, with each node at the number of nodes before it in the
  order in which parents come first.
* `Node.getElem?_numbers` : the numbers of the children of a node lead to its children.
* `Node.perm_children` : every number but that of the root is one child's.
* `Node.walk_arena` : walking the arena counts through it.
-/

set_option autoImplicit false

namespace Testbench.Json

namespace Node

/-! ## Children -/

/-- What a node holds: nodes, with the names they have there. -/
def children : Node → List (Option Name × Node)
  | scalar .. => []
  | object _ members => members.map fun m => (some m.1, m.2)
  | array _ elements => elements.map fun e => (none, e)

/-- `preorder` of some nodes, one after the other. -/
def preorders (cs : List (Option Name × Node)) : List (Option Name × Node) :=
  cs.flatMap fun c => c.2.preorder c.1

theorem preorders_cons (c : Option Name × Node) (cs : List (Option Name × Node)) :
    preorders (c :: cs) = c.2.preorder c.1 ++ preorders cs := List.flatMap_cons

theorem membersPreorder_eq (members : List (Name × Node)) :
    membersPreorder members = preorders (members.map fun m => (some m.1, m.2)) := by
  induction members with
  | nil => rfl
  | cons m members ih => rw [membersPreorder, ih, List.map_cons, preorders_cons]

theorem elementsPreorder_eq (elements : List Node) :
    elementsPreorder elements = preorders (elements.map fun e => (none, e)) := by
  induction elements with
  | nil => rfl
  | cons e elements ih => rw [elementsPreorder, ih, List.map_cons, preorders_cons]

theorem preorder_eq (name : Option Name) (n : Node) :
    n.preorder name = (name, n) :: preorders n.children := by
  cases n with
  | scalar => rfl
  | object => rw [preorder, membersPreorder_eq, children]
  | array => rw [preorder, elementsPreorder_eq, children]

theorem length_preorder (name : Option Name) (n : Node) : (n.preorder name).length = n.size := by
  rw [size, preorder_eq, preorder_eq, List.length_cons, List.length_cons]

theorem size_pos (n : Node) : 0 < n.size := by
  rw [size, preorder_eq, List.length_cons]
  exact Nat.succ_pos _

/-- The number of nodes of some trees. -/
def sizes (cs : List (Option Name × Node)) : Nat := (cs.map fun c => c.2.size).sum

theorem sizes_cons (c : Option Name × Node) (cs : List (Option Name × Node)) :
    sizes (c :: cs) = c.2.size + sizes cs := rfl

theorem length_preorders (cs : List (Option Name × Node)) : (preorders cs).length = sizes cs := by
  simp only [preorders, List.length_flatMap, length_preorder, sizes]

theorem size_eq (n : Node) : n.size = sizes n.children + 1 := by
  rw [size, preorder_eq, List.length_cons, length_preorders]

theorem size_le_sizes {c : Option Name × Node} {cs : List (Option Name × Node)} (h : c ∈ cs) :
    c.2.size ≤ sizes cs := by
  induction cs with
  | nil => cases h
  | cons d cs ih =>
    rw [sizes_cons]
    rcases List.mem_cons.mp h with rfl | h
    · omega
    · have := ih h
      omega

/-- What holds of a node whenever it holds of all of its children holds of all nodes. -/
theorem induction {P : Node → Prop} (step : ∀ n, (∀ c ∈ n.children, P c.2) → P n) (n : Node) :
    P n := by
  generalize hk : n.size = k
  induction k using Nat.strongRecOn generalizing n with
  | ind k ih =>
    refine step n fun c hc => ih c.2.size ?_ c.2 rfl
    have hle := size_le_sizes hc
    rw [size_eq] at hk
    omega

/-! ## Numbers -/

/-- The numbers of nodes that stand one after the other, each with all that is below it. -/
def numbers : (first : Nat) → List (Option Name × Node) → List Nat
  | _, [] => []
  | first, c :: cs => first :: numbers (first + c.2.size) cs

/-- A node as an entry. -/
def entry (id : Nat) (p : Option Name × Node) : Entry :=
  ⟨p.2.kind, p.2.slice.span, p.2.quote, p.1.map Name.label, numbers (id + 1) p.2.children⟩

/-- Nodes as entries, with numbers from `first` on. -/
def rows (first : Nat) (l : List (Option Name × Node)) : Arena :=
  l.mapIdx fun i p => entry (first + i) p

/-- A tree as an arena. -/
def arena (n : Node) : Arena := rows 0 (n.preorder none)

theorem rows_cons (first : Nat) (p : Option Name × Node) (l : List (Option Name × Node)) :
    rows first (p :: l) = entry first p :: rows (first + 1) l := by
  simp only [rows, List.mapIdx_cons, Nat.add_zero, Nat.add_assoc, Nat.add_comm 1]

theorem rows_append (first : Nat) (l l' : List (Option Name × Node)) :
    rows first (l ++ l') = rows first l ++ rows (first + l.length) l' := by
  simp only [rows, List.mapIdx_append, Nat.add_assoc, Nat.add_comm l.length]

theorem length_rows (first : Nat) (l : List (Option Name × Node)) :
    (rows first l).length = l.length := List.length_mapIdx

theorem getElem?_arena (n : Node) (id : Nat) :
    n.arena[id]? = (n.preorder none)[id]?.map (entry id) := by
  simp only [arena, rows, List.getElem?_mapIdx, Nat.zero_add]

theorem length_arena (n : Node) : n.arena.length = n.size := by
  rw [arena, length_rows, length_preorder]

theorem preorders_prefix {cs : List (Option Name × Node)}
    (hcs : ∀ c ∈ cs, ∀ (id : Nat) (p : Option Name × Node),
      (c.2.preorder c.1)[id]? = some p → p.2.preorder p.1 <+: (c.2.preorder c.1).drop id)
    {id : Nat} {p : Option Name × Node} (h : (preorders cs)[id]? = some p) :
    p.2.preorder p.1 <+: (preorders cs).drop id := by
  induction cs generalizing id with
  | nil => cases h
  | cons c cs ih =>
    rw [preorders_cons] at h ⊢
    by_cases hid : id < (c.2.preorder c.1).length
    · rw [List.getElem?_append_left hid] at h
      rw [List.drop_append_of_le_length (Nat.le_of_lt hid)]
      exact (hcs c List.mem_cons_self id p h).trans (List.prefix_append _ _)
    · rw [List.getElem?_append_right (by omega)] at h
      rw [List.drop_append, List.drop_eq_nil_of_le (by omega), List.nil_append]
      exact ih (fun d hd => hcs d (List.mem_cons_of_mem _ hd)) h

/-- From the number of a node on, the list goes on with all that is below the node. -/
theorem preorder_prefix (n : Node) : ∀ (name : Option Name) (id : Nat) (p : Option Name × Node),
    (n.preorder name)[id]? = some p → p.2.preorder p.1 <+: (n.preorder name).drop id := by
  induction n using induction with
  | step n ih =>
    intro name id p hp
    rw [preorder_eq name n] at hp ⊢
    cases id with
    | zero =>
      cases hp
      rw [preorder_eq]
      exact List.prefix_refl _
    | succ id => exact preorders_prefix (fun c hc => ih c hc c.1) hp

/-- Where nodes stand one after the other, their numbers lead to them. -/
theorem getElem?_numbers_of_prefix {l : List (Option Name × Node)} {first : Nat}
    {cs : List (Option Name × Node)}
    (h : preorders cs <+: l.drop first) :
    (numbers first cs).map (l[·]?) = cs.map some := by
  induction cs generalizing first with
  | nil => rfl
  | cons c cs ih =>
    obtain ⟨rest, hrest⟩ := h
    rw [preorders_cons, List.append_assoc] at hrest
    have hfirst : l[first]? = some c := by
      have h0 : (l.drop first)[0]? = some c := by rw [← hrest, preorder_eq]; rfl
      rwa [List.getElem?_drop, Nat.add_zero] at h0
    have hnext : preorders cs <+: l.drop (first + c.2.size) := by
      refine ⟨rest, ?_⟩
      rw [← List.drop_drop, ← hrest, List.drop_append, length_preorder, Nat.sub_self,
        List.drop_eq_nil_of_le (Nat.le_of_eq (length_preorder c.1 c.2)), List.nil_append,
        List.drop_zero]
    rw [numbers, List.map_cons, List.map_cons, hfirst, ih hnext]

/-- **The numbers of the children of a node lead to its children.** -/
theorem getElem?_numbers {n : Node} {name : Option Name} {id : Nat} {p : Option Name × Node}
    (h : (n.preorder name)[id]? = some p) :
    (numbers (id + 1) p.2.children).map ((n.preorder name)[·]?) = p.2.children.map some := by
  refine getElem?_numbers_of_prefix ?_
  obtain ⟨rest, hrest⟩ := preorder_prefix n name id p h
  refine ⟨rest, ?_⟩
  rw [← List.drop_drop, ← hrest, preorder_eq]
  rfl

/-! ## Every number is one child's -/

theorem le_of_mem_numbers {first : Nat} {cs : List (Option Name × Node)} {j : Nat}
    (h : j ∈ numbers first cs) : first ≤ j := by
  induction cs generalizing first with
  | nil => cases h
  | cons c cs ih =>
    rcases List.mem_cons.mp h with rfl | h
    · exact Nat.le_refl _
    · exact Nat.le_trans (Nat.le_add_right _ _) (ih h)

theorem pairwise_numbers (first : Nat) (cs : List (Option Name × Node)) :
    (numbers first cs).Pairwise (· < ·) := by
  induction cs generalizing first with
  | nil => exact .nil
  | cons c cs ih =>
    refine .cons (fun j hj => ?_) (ih _)
    have hle := le_of_mem_numbers hj
    have hpos := c.2.size_pos
    omega

theorem perm_numbers_of_forall {cs : List (Option Name × Node)}
    (hcs : ∀ c ∈ cs, ∀ (id : Nat),
      (id :: (rows id (c.2.preorder c.1)).flatMap Entry.children).Perm (List.range' id c.2.size))
    (first : Nat) :
    (numbers first cs ++ (rows first (preorders cs)).flatMap Entry.children).Perm
      (List.range' first (sizes cs)) := by
  induction cs generalizing first with
  | nil => exact .nil
  | cons c cs ih =>
    have hhead := hcs c List.mem_cons_self first
    have htail := ih (fun d hd => hcs d (List.mem_cons_of_mem _ hd)) (first + c.2.size)
    rw [numbers, preorders_cons, rows_append, length_preorder, List.flatMap_append, sizes_cons,
      ← List.range'_append_1]
    -- the numbers of the later siblings come before all that is below the first one
    refine .trans ?_ (hhead.append htail)
    rw [List.cons_append, List.cons_append]
    exact (List.perm_append_comm_assoc _ _ _).cons first

/-- The numbers below a node are those of the children of its nodes, each once. -/
theorem perm_numbers (n : Node) : ∀ (name : Option Name) (id : Nat),
    (id :: (rows id (n.preorder name)).flatMap Entry.children).Perm (List.range' id n.size) := by
  induction n using induction with
  | step n ih =>
    intro name id
    rw [preorder_eq, rows_cons, List.flatMap_cons, size_eq, List.range'_succ]
    exact (perm_numbers_of_forall (fun c hc => ih c hc c.1) (id + 1)).cons id

theorem perm_children (n : Node) :
    (n.arena.flatMap Entry.children).Perm (List.range' 1 (n.size - 1)) := by
  have h := n.perm_numbers none 0
  obtain ⟨k, hk⟩ : ∃ k, n.size = k + 1 := ⟨n.size - 1, by have := n.size_pos; omega⟩
  rw [hk, List.range'_succ] at h
  rw [hk]
  exact h.cons_inv

/-! ## Walking -/

theorem walk_of_forall {arena : Arena} {l cs : List (Option Name × Node)} {fuel first : Nat}
    (hcs : ∀ c ∈ cs, ∀ (id : Nat), l[id]? = some c → arena.walk fuel id = List.range' id c.2.size)
    (h : (numbers first cs).map (l[·]?) = cs.map some) :
    (numbers first cs).flatMap (arena.walk fuel) = List.range' first (sizes cs) := by
  induction cs generalizing first with
  | nil => rfl
  | cons c cs ih =>
    rw [numbers, List.map_cons, List.map_cons, List.cons.injEq] at h
    rw [numbers, List.flatMap_cons, sizes_cons, ← List.range'_append_1,
      hcs c List.mem_cons_self first h.1, ih (fun d hd => hcs d (List.mem_cons_of_mem _ hd)) h.2]

/-- Walking from a node on counts through all that is below it. -/
theorem walk_eq (root n : Node) : ∀ (name : Option Name) (id fuel : Nat),
    (root.preorder none)[id]? = some (name, n) → n.size ≤ fuel →
    root.arena.walk fuel id = List.range' id n.size := by
  induction n using induction with
  | step n ih =>
    intro name id fuel h hfuel
    rw [size_eq] at hfuel
    obtain ⟨fuel, rfl⟩ : ∃ k, fuel = k + 1 := ⟨fuel - 1, by omega⟩
    have hbelow : (numbers (id + 1) n.children).flatMap (root.arena.walk fuel) =
        List.range' (id + 1) (sizes n.children) := by
      refine walk_of_forall (fun c hc j hj => ih c hc c.1 j fuel hj ?_) (getElem?_numbers h)
      have hle := size_le_sizes hc
      omega
    rw [Arena.walk, getElem?_arena, h, Option.map_some, size_eq, List.range'_succ]
    exact congrArg (id :: ·) hbelow

theorem getElem?_preorder_zero (name : Option Name) (n : Node) :
    (n.preorder name)[0]? = some (name, n) := by
  rw [preorder_eq]
  rfl

/-- **Walking from the root on counts through the arena.** -/
theorem walk_arena (n : Node) :
    n.arena.walk n.arena.length 0 = List.range n.arena.length := by
  rw [length_arena, List.range_eq_range']
  exact walk_eq n n none 0 n.size (getElem?_preorder_zero none n) (Nat.le_refl _)

end Node

end Testbench.Json
