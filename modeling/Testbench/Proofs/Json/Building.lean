import Testbench.Proofs.Json.Complete
import Testbench.Proofs.Json.Numbering

/-!
# The arena that is read

Reading a text into an arena and reading it as a tree go on in the same way: what is entered for a
value is the tree of the value, numbered from the length of the arena on, and the two fail alike.

* `Arena.opened` : an arena in which some of the children of its last container have been read.
* `Arena.Builds` : what enters a value and what reads it as a tree agree.
* `Arena.read_eq` : so do the readers of whole texts.
-/

set_option autoImplicit false

namespace Testbench.Json.Arena

open Node (rows numbers sizes preorders)

/-! ## Containers that are not closed yet -/

/-- The container `e` is behind the nodes `before`, and has got the children `cs`. -/
def opened (before : Arena) (e : Entry) (cs : List (Option Name × Node)) : Arena :=
  before ++ { e with children := numbers (before.length + 1) cs } ::
    rows (before.length + 1) (preorders cs)

theorem numbers_append (first : Nat) (cs ds : List (Option Name × Node)) :
    numbers first (cs ++ ds) = numbers first cs ++ numbers (first + sizes cs) ds := by
  induction cs generalizing first with
  | nil => rfl
  | cons c cs ih =>
    rw [List.cons_append, numbers, ih, numbers, Node.sizes_cons, List.cons_append, Nat.add_assoc]

theorem preorders_nil : preorders [] = [] := rfl

theorem preorders_append (cs ds : List (Option Name × Node)) :
    preorders (cs ++ ds) = preorders cs ++ preorders ds := List.flatMap_append

theorem length_opened (before : Arena) (e : Entry) (cs : List (Option Name × Node)) :
    (opened before e cs).length = before.length + 1 + sizes cs := by
  rw [opened, List.length_append, List.length_cons, Node.length_rows, Node.length_preorders]
  omega

theorem modify_length_append (before after : Arena) (e : Entry) (f : Entry → Entry) :
    (before ++ e :: after).modify before.length f = before ++ f e :: after := by
  induction before with
  | nil => rfl
  | cons d before ih =>
    rw [List.cons_append, List.length_cons, List.modify_succ_cons, ih, List.cons_append]

/-- A child that has been entered is put behind the other ones. -/
theorem addChild_opened (before : Arena) (e : Entry) (cs : List (Option Name × Node))
    (c : Option Name × Node) :
    (opened before e cs ++ rows (opened before e cs).length (c.2.preorder c.1)).addChild
      before.length (opened before e cs).length = opened before e (cs ++ [c]) := by
  rw [length_opened, addChild, opened, List.append_assoc, List.cons_append, modify_length_append,
    opened, numbers_append, preorders_append, Node.rows_append, Node.length_preorders]
  simp only [numbers, Node.preorders_cons, preorders_nil, List.append_nil]

/-- A container gets its end last. -/
theorem setStop_opened (before : Arena) (name : Option Name) (n : Node) (stop : Nat) :
    (opened before ⟨n.kind, ⟨n.slice.offset, stop⟩, n.quote, name.map Name.label, []⟩
      n.children).setStop before.length n.slice.stop =
        before ++ rows before.length (n.preorder name) := by
  rw [setStop, opened, modify_length_append, Node.preorder_eq, Node.rows_cons]
  rfl

/-! ## Items with commas between them -/

/-- One item or more, with commas between them, up to the bracket `close`. -/
def readItems {α : Type} (close : Char) (item : Reader α) : (fuel : Nat) → Reader (List α)
  | 0, cur => .error (cur.fail .unexpectedChar)
  | fuel + 1, cur => do
    let (x, cur) ← item cur
    let cur := cur.skipSpace
    match cur.rest with
    | c :: rest =>
      if c = ',' then do
        let (xs, cur) ← readItems close item fuel ⟨cur.offset + 1, rest⟩
        .ok (x :: xs, cur)
      else if c = close then .ok ([x], ⟨cur.offset + 1, rest⟩)
      else .error (cur.fail .unexpectedChar)
    | [] => .error (cur.fail .unexpectedChar)

theorem readMembers_eq (mode : Mode) (value : Reader Node) (fuel : Nat) (cur : Cursor) :
    readMembers mode value fuel cur = readItems '\x7d' (readMember mode value) fuel cur := by
  induction fuel generalizing cur with
  | zero => rfl
  | succ fuel ih =>
    rw [readMembers, readItems]
    refine congrArg _ (funext fun x => ?_)
    simp only
    split
    · rename_i rest hr
      simp only [hr, if_true, ih]
    · rename_i rest hr
      rw [hr]
      rfl
    · split <;> simp_all

theorem readElements_eq (value : Reader Node) (fuel : Nat) (cur : Cursor) :
    readElements value fuel cur = readItems ']' (fun cur => value cur.skipSpace) fuel cur := by
  induction fuel generalizing cur with
  | zero => rfl
  | succ fuel ih =>
    rw [readElements, readItems]
    refine congrArg _ (funext fun x => ?_)
    simp only
    split
    · rename_i rest hr
      simp only [hr, if_true, ih]
    · rename_i rest hr
      rw [hr]
      rfl
    · split <;> simp_all

/-- The container that opens at `cur`, with `rest` after its bracket. -/
def readEnclosed {α : Type} (close : Char) (item : Reader α) (container : Slice → List α → Node)
    (limit : Nat) (cur : Cursor) (rest : List Char) : Except Error (Node × Cursor) := do
  let inside := Cursor.skipSpace ⟨cur.offset + 1, rest⟩
  let (xs, after) ←
    if inside.rest.head? = some close then
      .ok ([], (⟨inside.offset + 1, inside.rest.tail⟩ : Cursor))
    else readItems close item limit inside
  .ok (container (cur.sliceTo after) xs, after)

theorem readObject_eq (mode : Mode) (limit : Nat) (value : Reader Node) (cur : Cursor)
    (rest : List Char) :
    readObject mode limit value cur rest =
      readEnclosed '\x7d' (readMember mode value) .object limit cur rest := by
  rw [readObject, readEnclosed]
  generalize Cursor.skipSpace ⟨cur.offset + 1, rest⟩ = inside
  obtain ⟨offset, left⟩ := inside
  simp only [readMembers_eq]
  split
  · rfl
  · rename_i hclose
    rw [if_neg]
    intro hhead
    obtain ⟨rest, rfl⟩ := List.head?_eq_some_iff.mp hhead
    exact hclose rest rfl

theorem readArray_eq (limit : Nat) (value : Reader Node) (cur : Cursor) (rest : List Char) :
    readArray limit value cur rest =
      readEnclosed ']' (fun cur => value cur.skipSpace) .array limit cur rest := by
  rw [readArray, readEnclosed]
  generalize Cursor.skipSpace ⟨cur.offset + 1, rest⟩ = inside
  obtain ⟨offset, left⟩ := inside
  simp only [readElements_eq]
  split
  · rfl
  · rename_i hclose
    rw [if_neg]
    intro hhead
    obtain ⟨rest, rfl⟩ := List.head?_eq_some_iff.mp hhead
    exact hclose rest rfl

/-! ## Readers that agree -/

/-- What is entered at a place is the tree, with its name, of what is read there. -/
def Enters {α : Type} (enter : Arena → Cursor → Except Error ((Nat × Arena) × Cursor))
    (reader : Reader α) (tree : α → Option Name × Node) : Prop :=
  ∀ arena cur, enter arena cur = (reader cur).map fun (x, after) =>
    ((arena.length, arena ++ rows arena.length ((tree x).2.preorder (tree x).1)), after)

/-- What enters values with names enters the trees that are read, with these names. -/
def Builds (value : Builder) (reader : Reader Node) : Prop :=
  ∀ name, Enters (value name) reader fun n => (name, n)

variable {mode : Mode} {value : Builder} {reader : Reader Node}

theorem builds_readLeaf (mode : Mode) : Builds (readLeaf mode) (readScalar mode) := by
  intro name arena cur
  rw [readLeaf]
  cases h : readScalar mode cur with
  | error e => rfl
  | ok r =>
    obtain ⟨n, after⟩ := r
    have hvalue : Grammar.Value mode 0 cur after n := Grammar.value_of_readScalar h
    cases n with
    | scalar => rfl
    | object => cases hvalue
    | array => cases hvalue

theorem Builds.enters_member (h : Builds value reader) :
    Enters (readChild mode true value) (readMember mode reader) fun m => (some m.1, m.2) := by
  intro arena cur
  rw [readChild, readLabel, readMember, if_pos rfl]
  cases readName mode cur.skipSpace with
  | error e => rfl
  | ok r =>
    obtain ⟨name, after⟩ := r
    simp only [Grammar.ok_bind]
    by_cases hcolon : after.skipSpace.rest.head? = some ':'
    · obtain ⟨rest, hr⟩ := List.head?_eq_some_iff.mp hcolon
      simp only [hr, List.head?_cons, if_true, Grammar.ok_bind, List.tail_cons, h (some name) arena]
      cases reader (Cursor.skipSpace ⟨after.skipSpace.offset + 1, rest⟩) <;> rfl
    · rw [if_neg hcolon]
      split
      · rename_i rest hr
        rw [hr] at hcolon
        exact absurd rfl hcolon
      · rfl

theorem Builds.enters_element (h : Builds value reader) :
    Enters (readChild mode false value) (fun cur => reader cur.skipSpace) fun n => (none, n) :=
  fun arena cur => h none arena cur.skipSpace

/-- The children of a container are entered one after the other. -/
theorem readChildren_eq {α : Type} {named : Bool} {item : Reader α}
    {tree : α → Option Name × Node} (h : Enters (readChild mode named value) item tree)
    (close : Char) (before : Arena) (e : Entry) (cs : List (Option Name × Node)) (fuel : Nat)
    (cur : Cursor) :
    readChildren mode named close value before.length fuel (opened before e cs) cur =
      (readItems close item fuel cur).map fun (xs, after) =>
        (opened before e (cs ++ xs.map tree), after) := by
  -- each round adds the child that has been entered to `cs`
  induction fuel generalizing cs cur with
  | zero => rfl
  | succ fuel ih =>
    rw [readChildren, readItems, h]
    cases item cur with
    | error e => rfl
    | ok r =>
      obtain ⟨x, after⟩ := r
      simp only [Except.map, Grammar.ok_bind, addChild_opened]
      cases after.skipSpace.rest with
      | nil => rfl
      | cons c rest =>
        by_cases hcomma : c = ','
        · simp only [hcomma, if_true, ih]
          cases readItems close item fuel ⟨after.skipSpace.offset + 1, rest⟩ with
          | error e => rfl
          | ok r =>
            simp only [Except.map, Grammar.ok_bind, List.map_cons, List.append_assoc,
              List.singleton_append]
        · simp only [hcomma, if_false]
          split <;> rfl

/-! ## Values -/

/-- A container is entered with all that is in it. -/
theorem builds_readContainer {α : Type} {kind : Kind} {item : Reader α}
    {tree : α → Option Name × Node} (h : Enters (readChild mode (kind == .object) value) item tree)
    (container : Slice → List α → Node) (hkind : ∀ slice xs, (container slice xs).kind = kind)
    (hquote : ∀ slice xs, (container slice xs).quote = .none)
    (hslice : ∀ slice xs, (container slice xs).slice = slice)
    (hchildren : ∀ slice xs, (container slice xs).children = xs.map tree) (limit : Nat)
    (close : Char) :
    Builds (readContainer mode limit kind close value)
      fun cur => readEnclosed close item container limit cur cur.rest.tail := by
  intro name arena cur
  have hopen : (arena ++ [⟨kind, ⟨cur.offset, cur.offset⟩, .none, name.map Name.label, []⟩]) =
      opened arena ⟨kind, ⟨cur.offset, cur.offset⟩, .none, name.map Name.label, []⟩ [] := rfl
  have hclose : ∀ xs (after : Cursor),
      (opened arena ⟨kind, ⟨cur.offset, cur.offset⟩, .none, name.map Name.label, []⟩
        (xs.map tree)).setStop arena.length after.offset =
      arena ++ rows arena.length ((container (cur.sliceTo after) xs).preorder name) := by
    intro xs after
    have h := setStop_opened arena name (container (cur.sliceTo after) xs) cur.offset
    rwa [hkind, hquote, hslice, hchildren] at h
  simp only [readContainer, readEnclosed, alloc, hopen]
  split
  · simp only [Grammar.ok_bind, Except.map]
    rw [← hclose [] ]
    rfl
  · rw [readChildren_eq h]
    cases readItems close item limit (Cursor.skipSpace ⟨cur.offset + 1, cur.rest.tail⟩) with
    | error e => rfl
    | ok r => simp only [Except.map, Grammar.ok_bind, List.nil_append, hclose]

theorem Builds.object (h : Builds value reader) (limit : Nat) :
    Builds (readContainer mode limit .object '\x7d' value)
      fun cur => readObject mode limit reader cur cur.rest.tail := by
  simp only [readObject_eq]
  exact builds_readContainer h.enters_member .object (fun _ _ => rfl) (fun _ _ => rfl)
    (fun _ _ => rfl) (fun _ _ => rfl) limit '\x7d'

theorem Builds.array (h : Builds value reader) (limit : Nat) :
    Builds (readContainer mode limit .array ']' value)
      fun cur => readArray limit reader cur cur.rest.tail := by
  simp only [readArray_eq]
  exact builds_readContainer h.enters_element .array (fun _ _ => rfl) (fun _ _ => rfl)
    (fun _ _ => rfl) (fun _ _ => rfl) limit ']'

theorem avoids_opensContainer {cur : Cursor} (hobject : cur.rest.head? ≠ some '\x7b')
    (harray : cur.rest.head? ≠ some '[') : cur.Avoids Grammar.opensContainer := by
  intro c hc
  rw [Grammar.opensContainer, Bool.or_eq_false_iff, beq_eq_false_iff_ne, beq_eq_false_iff_ne]
  constructor
  · rintro rfl
    exact hobject hc
  · rintro rfl
    exact harray hc

theorem builds_readValue (mode : Mode) (limit room : Nat) :
    Builds (readValue mode limit room) (Json.readValue mode limit room) := by
  induction room with
  | zero =>
    intro name arena cur
    rw [readValue]
    split
    · rename_i hopen
      rcases hopen with hobject | harray
      · obtain ⟨rest, hr⟩ := List.head?_eq_some_iff.mp hobject
        simp only [Json.readValue, hr]
        rfl
      · obtain ⟨rest, hr⟩ := List.head?_eq_some_iff.mp harray
        simp only [Json.readValue, hr]
        rfl
    · rename_i hopen
      rw [not_or] at hopen
      rw [Grammar.readValue_eq_readScalar (avoids_opensContainer hopen.1 hopen.2)]
      exact builds_readLeaf mode name arena cur
  | succ room ih =>
    intro name arena cur
    rw [readValue]
    split
    · rename_i hobject
      obtain ⟨rest, hr⟩ := List.head?_eq_some_iff.mp hobject
      rw [ih.object limit name arena cur]
      simp only [Json.readValue, hr, List.tail_cons]
    · rename_i hobject
      split
      · rename_i harray
        obtain ⟨rest, hr⟩ := List.head?_eq_some_iff.mp harray
        rw [ih.array limit name arena cur]
        simp only [Json.readValue, hr, List.tail_cons]
      · rename_i harray
        rw [Grammar.readValue_eq_readScalar (avoids_opensContainer hobject harray)]
        exact builds_readLeaf mode name arena cur

/-- **The arena of a text is its tree, numbered, and there is none where there is no tree.** -/
theorem read_eq (mode : Mode) (source : List Char) :
    read mode source = (Json.read mode source).map Node.arena := by
  rw [read, Json.read, builds_readValue]
  cases Json.readValue mode (source.length + 1) maxNesting (Cursor.skipSpace ⟨0, source⟩) with
  | error e => rfl
  | ok r =>
    obtain ⟨root, after⟩ := r
    simp only [Except.map, Grammar.ok_bind]
    split <;> rfl

end Testbench.Json.Arena
