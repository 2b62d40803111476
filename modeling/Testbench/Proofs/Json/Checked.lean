import Testbench.Json.Checked
import Testbench.Proofs.Json.Numbering

/-!
# What an arena answers

Where the nodes of a tree and their names are pieces of the source, the arena of the tree has an
answer to everything, and it is that of the tree.

* `Node.Fits` : a node and its name are pieces of the source.
* `Node.raw?_arena`, `Node.text?_arena`, `Node.name?_arena` : the answers about one node.
* `Node.get?_arena`, `Node.dump?_arena`, `Node.toXml?_arena` : the answers about all of them.
-/

set_option autoImplicit false

namespace Testbench.Json.Node

open Text

/-- The spans of a node and of its name are pieces of the source. -/
structure Fits (source : List Char) (p : Option Name × Node) : Prop where
  slice : p.2.slice.span.slice? source = some p.2.slice
  name : ∀ name, p.1 = some name → name.slice.span.slice? source = some name.slice

section

variable {source : List Char} {root : Node} (hfits : ∀ p ∈ root.preorder none, Fits source p)

/-! ## One node -/

theorem entry_of_preorder {id : Nat} {p : Option Name × Node}
    (h : (root.preorder none)[id]? = some p) : root.arena[id]? = some (entry id p) := by
  rw [getElem?_arena, h]
  rfl

/-- The number, if there is one, is that of the node, if there is one. -/
def IsAt (root : Node) : Option Nat → Option Node → Prop :=
  Option.Rel fun id n => ∃ name, (root.preorder none)[id]? = some (name, n)

theorem isAt_getElem? {first : Nat} {cs : List (Option Name × Node)}
    (h : (numbers first cs).map ((root.preorder none)[·]?) = cs.map some) (index : Nat) :
    root.IsAt (numbers first cs)[index]? (cs[index]?.map Prod.snd) := by
  have hindex := congrArg (·[index]?) h
  simp only [List.getElem?_map] at hindex
  cases hj : (numbers first cs)[index]? with
  | none =>
    rw [hj] at hindex
    rw [Option.map_eq_none_iff.mp hindex.symm]
    exact .none
  | some j =>
    rw [hj] at hindex
    obtain ⟨c, hc, hget⟩ := Option.map_eq_some_iff.mp hindex.symm
    rw [hc]
    exact .some ⟨c.1, hget.symm⟩

include hfits

theorem raw?_arena {id : Nat} {p : Option Name × Node} (h : (root.preorder none)[id]? = some p) :
    Arena.raw? source root.arena id = some p.2.slice.text := by
  have hslice := (hfits p (List.mem_of_getElem? h)).slice
  rw [Arena.raw?, entry_of_preorder h, Option.bind_eq_bind, Option.bind_some, entry, hslice]
  rfl

theorem text?_arena {id : Nat} {p : Option Name × Node} (h : (root.preorder none)[id]? = some p) :
    Arena.text? source root.arena id = some p.2.text := by
  rw [Arena.text?, entry_of_preorder h, raw?_arena hfits h]
  obtain ⟨name, n⟩ := p
  cases n with
  | scalar kind => cases kind <;> rfl
  | object => rfl
  | array => rfl

theorem name?_arena {id : Nat} {p : Option Name × Node} (h : (root.preorder none)[id]? = some p) :
    Arena.name? source root.arena id = some (p.1.map Name.text) := by
  have hname := (hfits p (List.mem_of_getElem? h)).name
  rw [Arena.name?, entry_of_preorder h, Option.bind_eq_bind, Option.bind_some]
  obtain ⟨name, n⟩ := p
  cases name with
  | none => rfl
  | some name =>
    simp only [entry, Option.map_some, Name.label, hname name rfl]
    rfl

/-! ## Paths -/

theorem firstNamed?_arena {first : Nat} {cs : List (Option Name × Node)}
    (h : (numbers first cs).map ((root.preorder none)[·]?) = cs.map some) (name : List Char) :
    ∃ found, Arena.firstNamed? source root.arena name (numbers first cs) = some found ∧
      root.IsAt found ((cs.find? fun c => c.1.map Name.text == some name).map Prod.snd) := by
  induction cs generalizing first with
  | nil => exact ⟨none, rfl, .none⟩
  | cons c cs ih =>
    rw [numbers, List.map_cons, List.map_cons, List.cons.injEq] at h
    rw [numbers, Arena.firstNamed?, name?_arena hfits h.1, Option.bind_eq_bind, Option.bind_some,
      List.find?_cons]
    by_cases hname : c.1.map Name.text = some name
    · rw [if_pos hname, beq_iff_eq.mpr hname]
      exact ⟨_, rfl, .some ⟨_, h.1⟩⟩
    · rw [if_neg hname, beq_eq_false_iff_ne.mpr hname]
      exact ih h.2

theorem step?_arena {id : Nat} {p : Option Name × Node} (h : (root.preorder none)[id]? = some p)
    (s : Step) :
    ∃ found, Arena.step? source root.arena id s = some found ∧ root.IsAt found (p.2.step? s) := by
  have hnumbers := getElem?_numbers h
  obtain ⟨name, n⟩ := p
  cases s with
  | member name =>
    rw [Arena.step?, entry_of_preorder h, Option.bind_eq_bind, Option.bind_some]
    cases n with
    | scalar => exact ⟨none, rfl, .none⟩
    | array => exact ⟨none, rfl, .none⟩
    | object slice members =>
      obtain ⟨found, hfound, hat⟩ := firstNamed?_arena hfits hnumbers name
      refine ⟨found, hfound, ?_⟩
      rwa [children, List.find?_map, Option.map_map] at hat
  | element index =>
    rw [Arena.step?, entry_of_preorder h, Option.bind_eq_bind, Option.bind_some]
    cases n with
    | scalar => exact ⟨none, rfl, .none⟩
    | object => exact ⟨none, rfl, .none⟩
    | array slice elements =>
      refine ⟨_, rfl, ?_⟩
      have hat := isAt_getElem? hnumbers index
      simp only [children, List.getElem?_map, Option.map_map, Function.comp_def, Option.map_id'] at hat
      exact hat

theorem at?_arena {id : Nat} {p : Option Name × Node} (h : (root.preorder none)[id]? = some p)
    (steps : List Step) :
    ∃ found, Arena.at? source root.arena id steps = some found ∧ root.IsAt found (p.2.at? steps) := by
  induction steps generalizing id p with
  | nil => exact ⟨some id, rfl, .some ⟨p.1, h⟩⟩
  | cons s steps ih =>
    obtain ⟨found, hfound, hat⟩ := step?_arena hfits h s
    rw [Arena.at?, hfound, Option.bind_eq_bind, Option.bind_some, Node.at?]
    generalize p.2.step? s = below at hat ⊢
    cases hat with
    | none => exact ⟨none, rfl, .none⟩
    | some hbelow =>
      obtain ⟨name, hbelow⟩ := hbelow
      exact ih hbelow

/-- **The arena tells the text at every path.** -/
theorem get?_arena (path : List Char) :
    Arena.get? source root.arena path = some (root.get? path) := by
  rw [Arena.get?, get?, lookup?]
  cases readPath? path with
  | none => rfl
  | some steps =>
    obtain ⟨found, hfound, hat⟩ := at?_arena hfits (getElem?_preorder_zero none root) steps
    simp only [hfound, Option.bind_eq_bind, Option.bind_some] at hat ⊢
    generalize root.at? steps = below at hat ⊢
    cases hat with
    | none => rfl
    | some hbelow =>
      obtain ⟨name, hbelow⟩ := hbelow
      simp only [text?_arena hfits hbelow, Option.map_some]

/-! ## All nodes -/

omit hfits in
/-- What is told of the numbers of nodes is told of the nodes. -/
theorem mapM_zipIdx_numbers {β : Type} {first k : Nat} {cs : List (Option Name × Node)}
    {f : Nat × Nat → Option β} {g : (Option Name × Node) × Nat → β}
    (hcs : ∀ c ∈ cs, ∀ j i, (root.preorder none)[j]? = some c → f (j, i) = some (g (c, i)))
    (h : (numbers first cs).map ((root.preorder none)[·]?) = cs.map some) :
    ((numbers first cs).zipIdx k).mapM f = some ((cs.zipIdx k).map g) := by
  induction cs generalizing first k with
  | nil => rfl
  | cons c cs ih =>
    rw [numbers, List.map_cons, List.map_cons, List.cons.injEq] at h
    rw [numbers, List.zipIdx_cons, List.mapM_cons, hcs c List.mem_cons_self first k h.1,
      ih (fun d hd => hcs d (List.mem_cons_of_mem _ hd)) h.2]
    rfl

omit hfits in
theorem mapM_numbers {β : Type} {first : Nat} {cs : List (Option Name × Node)}
    {f : Nat → Option β} {g : Option Name × Node → β}
    (hcs : ∀ c ∈ cs, ∀ j, (root.preorder none)[j]? = some c → f j = some (g c))
    (h : (numbers first cs).map ((root.preorder none)[·]?) = cs.map some) :
    (numbers first cs).mapM f = some (cs.map g) := by
  have hzip : ((numbers first cs).zipIdx).mapM (f ∘ Prod.fst) =
      some ((cs.zipIdx).map (g ∘ Prod.fst)) :=
    mapM_zipIdx_numbers (fun c hc j i => hcs c hc j) h
  rwa [← List.mapM_map, ← List.map_map, List.zipIdx_map_fst, List.zipIdx_map_fst] at hzip

omit hfits in
theorem dumpMembersOnto_eq (o : Overrides) (back : List Char) (members : List (Name × Node)) :
    dumpMembersOnto o back members [] = [','].intercalate (members.map fun m =>
      spell m.1.text ++ ':' :: m.2.dumpOnto o (memberBack back m.1.text) []) := by
  induction members with
  | nil => rfl
  | cons m members ih =>
    cases members with
    | nil =>
      rw [List.map_singleton, List.intercalate_singleton]
      rfl
    | cons d members =>
      rw [List.map_cons] at ih
      rw [List.map_cons, List.map_cons, List.intercalate_cons_cons, ← ih,
        dumpMembers_more o back _ _ (List.cons_ne_nil d members), ← List.append_assoc]
      rfl

omit hfits in
theorem dumpElementsOnto_eq (o : Overrides) (back : List Char) (index : Nat)
    (elements : List Node) :
    dumpElementsOnto o back index elements [] = [','].intercalate
      ((elements.zipIdx index).map fun e => e.1.dumpOnto o (elementBack back e.2) []) := by
  induction elements generalizing index with
  | nil => rfl
  | cons e elements ih =>
    cases elements with
    | nil =>
      rw [List.zipIdx_singleton, List.map_singleton, List.intercalate_singleton]
      rfl
    | cons d elements =>
      have hrest := ih (index + 1)
      rw [List.zipIdx_cons, List.map_cons] at hrest
      rw [List.zipIdx_cons, List.zipIdx_cons, List.map_cons, List.map_cons,
        List.intercalate_cons_cons, ← hrest,
        dumpElements_more o back index _ (List.cons_ne_nil d elements), ← List.append_assoc]

theorem dumpFrom?_arena (o : Overrides) (n : Node) :
    ∀ (name : Option Name) (id fuel : Nat) (back : List Char),
      (root.preorder none)[id]? = some (name, n) → n.size ≤ fuel →
      Arena.dumpFrom? source root.arena o fuel back.reverse id = some (n.dumpOnto o back []) := by
  induction n using induction with
  | step n ih =>
    intro name id fuel back h hfuel
    rw [size_eq] at hfuel
    obtain ⟨fuel, rfl⟩ : ∃ k, fuel = k + 1 := ⟨fuel - 1, by omega⟩
    have hnumbers := getElem?_numbers h
    -- a child has fewer nodes than its parent, so one unit of fuel for each level is enough
    have hroom : ∀ c ∈ n.children, c.2.size ≤ fuel := by
      intro c hc
      have hle := size_le_sizes hc
      omega
    rw [Arena.dumpFrom?, entry_of_preorder h, Option.bind_eq_bind, Option.bind_some]
    cases n with
    | scalar kind quote slice =>
      simp only [entry, Node.kind, dumpOnto, Overrides.findBack?_eq, text?_arena hfits h,
        raw?_arena hfits h, Option.map_some, List.append_nil]
      cases o.find? back.reverse with
      | some literal => rfl
      | none =>
        by_cases hkind : kind = .string
        · subst hkind
          rfl
        · rw [if_neg hkind, if_neg hkind]
          rfl
    | object slice members =>
      have hbelow : (numbers (id + 1) (object slice members).children).mapM
          (Arena.dumpMember? source root.arena (Arena.dumpFrom? source root.arena o fuel)
            back.reverse) = some ((object slice members).children.map fun c =>
          spell ((c.1.map Name.text).getD []) ++
            ':' :: c.2.dumpOnto o (memberBack back ((c.1.map Name.text).getD [])) []) := by
        refine mapM_numbers (fun c hc j hj => ?_) hnumbers
        simp only [Arena.dumpMember?, name?_arena hfits hj, Option.bind_eq_bind, Option.bind_some]
        rw [← reverse_memberBack, ih c hc c.1 j fuel _ hj (hroom c hc)]
        rfl
      rw [children, List.map_map] at hbelow
      simp only [entry, Node.kind, children, hbelow, dumpOnto]
      rw [dumpMembersOnto_append, dumpMembersOnto_eq]
      rfl
    | array slice elements =>
      have hbelow : ((numbers (id + 1) (array slice elements).children).zipIdx).mapM
          (fun e => Arena.dumpFrom? source root.arena o fuel (elementPath back.reverse e.2) e.1) =
          some (((array slice elements).children.zipIdx).map fun e =>
            e.1.2.dumpOnto o (elementBack back e.2) []) := by
        refine mapM_zipIdx_numbers (fun c hc j i hj => ?_) hnumbers
        simp only
        rw [← reverse_elementBack, ih c hc c.1 j fuel _ hj (hroom c hc)]
      rw [children, List.zipIdx_map, List.map_map] at hbelow
      simp only [entry, Node.kind, children, hbelow, dumpOnto]
      rw [dumpElementsOnto_append, dumpElementsOnto_eq]
      rfl

/-- **The arena is written as its tree is**, whatever scalars are replaced. -/
theorem dump?_arena (o : Overrides) : Arena.dump? source root.arena o = some (root.dump o) := by
  rw [Arena.dump?, length_arena]
  exact dumpFrom?_arena hfits o root none 0 root.size [] (getElem?_preorder_zero none root)
    (Nat.le_refl _)

omit hfits in
theorem letter_eq (n : Node) : n.kind.letter = n.letter := by
  cases n with
  | scalar kind => cases kind <;> rfl
  | object => rfl
  | array => rfl

omit hfits in
theorem membersOnto_eq (members : List (Name × Node)) (rest : List Char) :
    membersOnto members rest =
      (members.map fun m => m.2.elementOnto (m.2.letter :: tagOf m.1.text) []).flatten ++ rest := by
  induction members with
  | nil => rfl
  | cons m members ih =>
    rw [membersOnto, elementOnto_append, ih, List.map_cons, List.flatten_cons, List.append_assoc]

omit hfits in
theorem elementsOnto_eq (elements : List Node) (rest : List Char) :
    elementsOnto elements rest =
      (elements.map fun e => e.elementOnto [e.letter] []).flatten ++ rest := by
  induction elements with
  | nil => rfl
  | cons e elements ih =>
    rw [elementsOnto, elementOnto_append, ih, List.map_cons, List.flatten_cons, List.append_assoc]

theorem elementFrom?_arena (n : Node) :
    ∀ (name : Option Name) (id fuel : Nat) (tag : List Char),
      (root.preorder none)[id]? = some (name, n) → n.size ≤ fuel →
      Arena.elementFrom? source root.arena fuel tag id = some (n.elementOnto tag []) := by
  induction n using induction with
  | step n ih =>
    intro name id fuel tag h hfuel
    rw [size_eq] at hfuel
    obtain ⟨fuel, rfl⟩ : ∃ k, fuel = k + 1 := ⟨fuel - 1, by omega⟩
    have hbelow : (numbers (id + 1) n.children).mapM
        (Arena.childElement? source root.arena (Arena.elementFrom? source root.arena fuel)) =
        some (n.children.map fun c =>
          c.2.elementOnto (c.2.letter :: tagOf ((c.1.map Name.text).getD [])) []) := by
      refine mapM_numbers (fun c hc j hj => ?_) (getElem?_numbers h)
      have hle := size_le_sizes hc
      rw [Arena.childElement?, entry_of_preorder hj, name?_arena hfits hj]
      simp only [Option.bind_eq_bind, Option.bind_some, entry, letter_eq]
      exact ih c hc c.1 j fuel _ hj (by omega)
    rw [Arena.elementFrom?, entry_of_preorder h, Option.bind_eq_bind, Option.bind_some]
    cases n with
    | scalar kind quote slice =>
      simp only [entry, Node.kind, text?_arena hfits h, Option.map_some, elementOnto,
        List.append_nil]
      rfl
    | object slice members =>
      rw [children, List.map_map] at hbelow
      simp only [entry, Node.kind, children, hbelow, elementOnto, membersOnto_eq, List.append_nil]
      rfl
    | array slice elements =>
      rw [children, List.map_map] at hbelow
      simp only [entry, Node.kind, children, hbelow, elementOnto, elementsOnto_eq, List.append_nil]
      rfl

/-- **The arena is written as XML as its tree is.** -/
theorem toXml?_arena (tag : Option (List Char)) :
    Arena.toXml? source root.arena tag = some (root.toXml tag) := by
  have hroot := getElem?_preorder_zero none root
  have helement := fun tag => elementFrom?_arena hfits root none 0 root.size tag hroot (Nat.le_refl _)
  have hletter : (entry 0 (none, root)).kind.letter = root.letter := letter_eq root
  rw [Arena.toXml?, entry_of_preorder hroot, length_arena, Option.bind_eq_bind, Option.bind_some,
    hletter]
  cases tag <;> exact helement _

end

end Testbench.Json.Node
