import Testbench.Json.Printer
import Testbench.Proofs.Json.Numbering
import Testbench.Proofs.Text.Numerals

/-!
# Paths that are written and read

A path is written one step after another while a tree is walked down, and read by cutting it at
points and brackets. Names in which neither of the two can be taken for a part of the path come back
as they were.

* `Text.fields_append_sep`, `Text.fields_append` : pieces of a text that grows at its end.
* `readIndex?_toDigits` : the digits of an index are read as that index.
* `joinPath`, `readPath?_joinPath` : **a path that leads on along another one.**
* `Step.onto`, `pathOf` : the path of a node one step further down, and after several steps.
* `readPath?_pathOf` : **a written path is read as the steps that it was written for.**
* `Node.Leads` : steps that lead from a node down to another.
* `Node.Leads.lookup?_eq` : so the path of a node is the path at which it is found.
-/

set_option autoImplicit false

namespace Testbench

namespace Text

/-! ## Pieces of a growing text -/

theorem fields_of_not_mem {c : Char} {s : List Char} (h : c ∉ s) : fields c s = [s] := by
  induction s with
  | nil => rfl
  | cons d s ih =>
    obtain ⟨hd, hs⟩ := not_or.mp (mt List.mem_cons.mpr h)
    rw [fields, if_neg (Ne.symm hd), ih hs]

theorem fields_append_sep (c : Char) (s t : List Char) :
    fields c (s ++ c :: t) = fields c s ++ fields c t := by
  induction s with
  | nil => simp [fields]
  | cons d s ih =>
    rw [List.cons_append, fields, fields, ih]
    split
    · rfl
    · cases hs : fields c s with
      | nil => exact absurd hs (fields_ne_nil c s)
      | cons f fs => rfl

/-- Where no separator is between two texts, the last piece of one and the first piece of the other
are one piece. -/
theorem fields_append (c : Char) (s t : List Char) :
    ∃ before last first rest, fields c s = before ++ [last] ∧ fields c t = first :: rest ∧
      fields c (s ++ t) = before ++ (last ++ first) :: rest := by
  induction s with
  | nil =>
    obtain ⟨first, rest, ht⟩ := List.exists_cons_of_ne_nil (fields_ne_nil c t)
    exact ⟨[], [], first, rest, rfl, ht, ht⟩
  | cons d s ih =>
    obtain ⟨before, last, first, rest, hs, ht, hst⟩ := ih
    rw [List.cons_append, fields, fields, hs, hst]
    split
    · exact ⟨[] :: before, last, first, rest, rfl, ht, rfl⟩
    · cases before with
      | nil => exact ⟨[], d :: last, first, rest, rfl, ht, rfl⟩
      | cons f before => exact ⟨(d :: f) :: before, last, first, rest, rfl, ht, rfl⟩

end Text

namespace Json

open Text

/-! ## Subscripts -/

theorem readIndex?_toDigits (n : Nat) :
    readIndex? (Nat.toDigits 10 n) = if n ≤ maxIndex then some n else none := by
  have hread : readNatUpTo? 10 maxIndex (Nat.toDigits 10 n) =
      if n ≤ maxIndex then some n else none := by
    rw [readNatUpTo?_eq (by decide), readNat?_toDigits]
    simp [Option.filter]
  have htrim : trim (Nat.toDigits 10 n) = Nat.toDigits 10 n :=
    trim_eq_self (((readNat?_eq_some_iff (by decide)).mp (readNat?_toDigits n)).isBlank_eq_false
      (by decide))
  have hsign := not_mem_toDigits (c := '+') rfl n
  unfold readIndex?
  rw [htrim]
  generalize Nat.toDigits 10 n = digits at hread hsign ⊢
  cases digits with
  | nil => exact hread
  | cons c digits =>
    have hc : c ≠ '+' := fun h => hsign (h ▸ List.mem_cons_self ..)
    split
    · rename_i heq
      exact absurd (List.cons.inj heq).1 hc
    · exact hread

/-- The subscript that stands for an index in a path. -/
def subscript (index : Nat) : List Char := '[' :: (Nat.toDigits 10 index ++ [']'])

theorem point_not_mem_subscript (index : Nat) : '.' ∉ subscript index := by
  have hdigits := not_mem_toDigits (c := '.') rfl index
  simp [subscript, hdigits]

theorem mapM_append_some {α β : Type} {f : α → Option β} {l : List α} {ys : List β}
    (h : l.mapM f = some ys) (more : List α) :
    (l ++ more).mapM f = (more.mapM f).map (ys ++ ·) := by
  rw [List.mapM_append, h]
  cases more.mapM f <;> rfl

theorem mapM_concat_eq_some {α β : Type} {f : α → Option β} {l : List α} {a : α} {r : List β} :
    (l ++ [a]).mapM f = some r ↔ ∃ xs y, l.mapM f = some xs ∧ f a = some y ∧ r = xs ++ [y] := by
  rw [List.mapM_append]
  cases l.mapM f with
  | none => simp
  | some xs =>
    cases hy : f a with
    | none => simp [hy]
    | some y => simp [hy, eq_comm]

theorem readSubscripts?_eq (s : List Char) :
    readSubscripts? s =
      if (fields ']' s).getLast? = some [] then (fields ']' s).dropLast.mapM readSubscript?
      else none := by
  cases s <;> rfl

/-- More behind subscripts that can be read. -/
theorem readSubscripts?_append {s : List Char} {steps : List Step}
    (h : readSubscripts? s = some steps) (t : List Char) :
    readSubscripts? (s ++ t) = (readSubscripts? t).map (steps ++ ·) := by
  obtain ⟨before, last, first, rest, hs, ht, hst⟩ := fields_append ']' s t
  rw [readSubscripts?_eq, hs, List.getLast?_concat, List.dropLast_concat] at h
  split at h
  · rename_i hlast
    -- what was there ends in a bracket, so that nothing stands in front of what follows
    rw [Option.some.inj hlast, List.nil_append, ← ht] at hst
    have hne := fields_ne_nil ']' t
    have hend : (before ++ fields ']' t).getLast? = (fields ']' t).getLast? := by
      rw [List.getLast?_append, List.getLast?_eq_some_getLast hne, Option.some_or]
    rw [readSubscripts?_eq, readSubscripts?_eq t, hst, hend, List.dropLast_append_of_ne_nil hne,
      mapM_append_some h]
    split <;> rfl
  · cases h

/-- One subscript is read as one step, if its index is not too large. -/
theorem readSubscripts?_subscript (index : Nat) :
    readSubscripts? (subscript index) =
      if index ≤ maxIndex then some [.element index] else none := by
  have hopen : ']' ∉ '[' :: Nat.toDigits 10 index := by
    have hdigits := not_mem_toDigits (c := ']') rfl index
    simp [hdigits]
  have hpieces : fields ']' (subscript index) = ['[' :: Nat.toDigits 10 index, []] := by
    have hsplit := fields_append_sep ']' ('[' :: Nat.toDigits 10 index) []
    rw [fields_of_not_mem hopen] at hsplit
    exact hsplit
  rw [readSubscripts?_eq, hpieces]
  simp only [List.getLast?_cons_cons, List.getLast?_singleton, if_true, List.dropLast_cons_cons,
    List.dropLast_singleton, List.mapM_cons, readSubscript?, readIndex?_toDigits]
  split <;> rfl

/-! ## Segments -/

/-- A name that can stand in a path as it is. -/
def PlainName (name : List Char) : Prop := name ≠ [] ∧ '.' ∉ name ∧ '[' ∉ name

instance : DecidablePred PlainName := fun name =>
  inferInstanceAs (Decidable (name ≠ [] ∧ '.' ∉ name ∧ '[' ∉ name))

theorem readSegment?_name {name : List Char} (h : PlainName name) :
    readSegment? name = some [.member name] := by
  have htake : ∀ c ∈ name, (c != '[') = true := by
    intro c hc
    rw [bne_iff_ne]
    rintro rfl
    exact h.2.2 hc
  have hname : name.takeWhile (· != '[') = name := by
    have hall := @List.takeWhile_append_of_pos _ _ name [] htake
    rwa [List.takeWhile_nil, List.append_nil] at hall
  have hrest : name.dropWhile (· != '[') = [] := by
    have hall := @List.dropWhile_append_of_pos _ _ name [] htake
    rwa [List.dropWhile_nil, List.append_nil] at hall
  have hne : name.isEmpty = false := List.isEmpty_eq_false_iff.mpr h.1
  simp only [readSegment?, hname, hrest, hne]
  rfl

theorem takeWhile_append_stop {α : Type} {p : α → Bool} {c : α} (hc : p c = false)
    (s t : List α) : (s ++ c :: t).takeWhile p = s.takeWhile p ∧
      (s ++ c :: t).dropWhile p = s.dropWhile p ++ c :: t := by
  induction s with
  | nil => simp [hc]
  | cons d s ih => by_cases hd : p d <;> simp [hd, ih]

theorem readSegment?_bracket (t : List Char) :
    readSegment? ('[' :: t) = readSubscripts? ('[' :: t) := by
  simp [readSegment?]

/-- Subscripts behind a segment that can be read. -/
theorem readSegment?_append {s : List Char} {steps : List Step} (h : readSegment? s = some steps)
    (t : List Char) :
    readSegment? (s ++ '[' :: t) = (readSegment? ('[' :: t)).map (steps ++ ·) := by
  obtain ⟨htake, hdrop⟩ := takeWhile_append_stop (p := (· != '[')) (c := '[') (by decide) s t
  have hne : (s.dropWhile (· != '[') ++ '[' :: t).isEmpty = false := by simp
  rw [readSegment?_bracket]
  unfold readSegment? at h ⊢
  simp only [htake, hdrop] at h hne ⊢
  split at h
  · rename_i hname
    split at h
    · cases h
    · rw [if_pos hname, hne]
      exact readSubscripts?_append h _
  · rename_i hname
    obtain ⟨more, hmore, rfl⟩ := Option.map_eq_some_iff.mp h
    rw [if_neg hname, readSubscripts?_append hmore, Option.map_map]
    rfl

/-! ## Paths -/

/-- The path that leads on from the end of one path along another. -/
def joinPath (path more : List Char) : List Char :=
  if path = [] then more
  else if more = [] ∨ more.head? = some '[' then path ++ more
  else path ++ '.' :: more

theorem readPath?_of_ne_nil {path : List Char} (h : path ≠ []) :
    readPath? path = ((fields '.' path).mapM readSegment?).map List.flatten := by
  rw [readPath?, if_neg (by simp [h])]

/-- **A joined path is read as the steps of one path and then those of the other**, and cannot be
read where the other path cannot. -/
theorem readPath?_joinPath {path : List Char} {steps : List Step} (h : readPath? path = some steps)
    (more : List Char) : readPath? (joinPath path more) = (readPath? more).map (steps ++ ·) := by
  unfold joinPath
  split
  · rename_i hpath
    subst hpath
    cases h
    simp
  · rename_i hpath
    rw [readPath?_of_ne_nil hpath, Option.map_eq_some_iff] at h
    obtain ⟨segments, hread, rfl⟩ := h
    split
    · rename_i hmore
      rcases hmore with rfl | hmore
      · rw [List.append_nil, readPath?_of_ne_nil hpath, hread]
        simp [readPath?]
      · obtain ⟨t, rfl⟩ : ∃ t, more = '[' :: t := List.head?_eq_some_iff.mp hmore
        obtain ⟨before, last, first, rest, hfields, hfirst, hall⟩ :=
          fields_append '.' path ('[' :: t)
        obtain ⟨first, rfl⟩ : ∃ u, first = '[' :: u := by
          rw [fields, if_neg (by decide)] at hfirst
          cases hu : fields '.' t with
          | nil => exact absurd hu (fields_ne_nil '.' t)
          | cons u us =>
            rw [hu] at hfirst
            cases hfirst
            exact ⟨u, rfl⟩
        rw [hfields] at hread
        obtain ⟨firsts, lasts, hfirsts, hlast, rfl⟩ := mapM_concat_eq_some.mp hread
        rw [readPath?_of_ne_nil (by simp), readPath?_of_ne_nil (List.cons_ne_nil _ _), hall, hfirst,
          mapM_append_some hfirsts, List.mapM_cons, List.mapM_cons, readSegment?_append hlast]
        cases readSegment? ('[' :: first) with
        | none => rfl
        | some y => cases hrest : rest.mapM readSegment? <;> simp
    · rename_i hmore
      rw [readPath?_of_ne_nil (by simp), readPath?_of_ne_nil (not_or.mp hmore).1, fields_append_sep,
        mapM_append_some hread]
      cases (fields '.' more).mapM readSegment? <;> simp

/-- A step that can be written in a path. -/
def Step.Plain : Step → Prop
  | .member name => PlainName name
  | .element index => index ≤ maxIndex

/-- The path of the node one step down from the node at `path`. -/
def Step.onto (path : List Char) : Step → List Char
  | .member name => memberPath path name
  | .element index => elementPath path index

/-- The path of the node some steps down from the root. -/
def pathOf (steps : List Step) : List Char := steps.foldl Step.onto []

theorem readPath?_onto_nil {s : Step} (hs : s.Plain) : readPath? (s.onto []) = some [s] := by
  cases s with
  | member name =>
    have hpath : Step.onto [] (.member name) = name := rfl
    rw [hpath, readPath?_of_ne_nil hs.1, fields_of_not_mem hs.2.1]
    simp [readSegment?_name hs]
  | element index =>
    have hpath : Step.onto [] (.element index) = subscript index := rfl
    have hne : subscript index ≠ [] := List.cons_ne_nil _ _
    rw [hpath, readPath?_of_ne_nil hne, fields_of_not_mem (point_not_mem_subscript index)]
    have hsegment : readSegment? (subscript index) = some [.element index] :=
      (readSegment?_bracket _).trans ((readSubscripts?_subscript index).trans (if_pos hs))
    simp [hsegment]

/-- Writing a step onto a path joins the path of the step to it. -/
theorem Step.onto_eq_joinPath {s : Step} (hs : s.Plain) (path : List Char) :
    s.onto path = joinPath path (s.onto []) := by
  cases s with
  | member name =>
    have hhead : name.head? ≠ some '[' := fun h => hs.2.2 (List.mem_of_head? h)
    simp [onto, memberPath, joinPath, hs.1, hhead]
  | element index => simp [onto, elementPath, joinPath]

theorem readPath?_onto {path : List Char} {steps : List Step} (h : readPath? path = some steps)
    {s : Step} (hs : s.Plain) : readPath? (s.onto path) = some (steps ++ [s]) := by
  rw [s.onto_eq_joinPath hs, readPath?_joinPath h, readPath?_onto_nil hs]
  rfl

/-- **A written path is read as the steps that it was written for.** -/
theorem readPath?_pathOf {steps : List Step} (h : ∀ s ∈ steps, s.Plain) :
    readPath? (pathOf steps) = some steps := by
  have hfrom : ∀ (steps : List Step) (path : List Char) (done : List Step),
      readPath? path = some done → (∀ s ∈ steps, s.Plain) →
      readPath? (steps.foldl Step.onto path) = some (done ++ steps) := by
    intro steps
    induction steps with
    | nil =>
      intro path done hdone _
      rw [List.append_nil]
      exact hdone
    | cons s steps ih =>
      intro path done hdone hplain
      obtain ⟨hs, hsteps⟩ := List.forall_mem_cons.mp hplain
      have hrest := ih (s.onto path) (done ++ [s]) (readPath?_onto hdone hs) hsteps
      rw [List.append_assoc] at hrest
      exact hrest
  exact hfrom steps [] [] rfl h

/-- Different steps have different paths. -/
theorem pathOf_inj {steps steps' : List Step} (h : ∀ s ∈ steps, s.Plain)
    (h' : ∀ s ∈ steps', s.Plain) (he : pathOf steps = pathOf steps') : steps = steps' := by
  have hread := readPath?_pathOf h
  rw [he, readPath?_pathOf h'] at hread
  exact (Option.some.inj hread).symm

/-! ## Nodes of a tree -/

namespace Node

/-- The steps lead from a node down to another one. -/
inductive Leads : Node → List Step → Node → Prop
  | here (n : Node) : Leads n [] n
  | member {slice : Slice} {members : List (Name × Node)} {name : Name} {value below : Node}
      {steps : List Step} (hm : (name, value) ∈ members) (h : Leads value steps below) :
      Leads (.object slice members) (.member name.text :: steps) below
  | element {slice : Slice} {elements : List Node} {index : Nat} {value below : Node}
      {steps : List Step} (he : elements[index]? = some value) (h : Leads value steps below) :
      Leads (.array slice elements) (.element index :: steps) below

/-- The names of the members differ, and paths can be written with them. -/
def HasPlainNames : Node → Prop
  | object _ members =>
    (members.map fun m => m.1.text).Nodup ∧ ∀ m ∈ members, PlainName m.1.text
  | _ => True

instance : DecidablePred HasPlainNames := fun n =>
  match n with
  | scalar .. => isTrue trivial
  | object _ members =>
    inferInstanceAs (Decidable ((members.map fun m => m.1.text).Nodup ∧
      ∀ m ∈ members, PlainName m.1.text))
  | array .. => isTrue trivial

/-- So it is in every object of the tree. -/
def Addressable (n : Node) : Prop := ∀ e ∈ n.preorder none, e.2.HasPlainNames

instance : DecidablePred Addressable := fun n =>
  inferInstanceAs (Decidable (∀ e ∈ n.preorder none, e.2.HasPlainNames))

/-- The indices in every array are numbers that can be read. -/
def Indexable (n : Node) : Prop :=
  ∀ steps slice elements, n.Leads steps (.array slice elements) → elements.length ≤ maxIndex + 1

variable {n below : Node} {steps : List Step}

theorem Addressable.names (h : n.Addressable) : n.HasPlainNames :=
  h (none, n) (by rw [preorder_eq]; exact List.mem_cons_self)

/-- What is addressable under one name is so under every name. -/
theorem addressable_of_preorder {name : Option Name}
    (h : ∀ e ∈ n.preorder name, e.2.HasPlainNames) : n.Addressable := by
  unfold Addressable
  rw [preorder_eq, List.forall_mem_cons] at h ⊢
  exact h

theorem Addressable.child (h : n.Addressable) {c : Option Name × Node} (hc : c ∈ n.children) :
    c.2.Addressable := by
  have hnames : ∀ e ∈ c.2.preorder c.1, e.2.HasPlainNames := by
    intro e he
    refine h e ?_
    rw [preorder_eq]
    exact List.mem_cons_of_mem _ (List.mem_flatMap.mpr ⟨c, hc, he⟩)
  exact addressable_of_preorder hnames

theorem Addressable.member {slice : Slice} {members : List (Name × Node)}
    (h : (Node.object slice members).Addressable) {name : Name} {value : Node}
    (hm : (name, value) ∈ members) : value.Addressable :=
  h.child (List.mem_map_of_mem hm)

theorem Addressable.element {slice : Slice} {elements : List Node}
    (h : (Node.array slice elements).Addressable) {index : Nat} {value : Node}
    (he : elements[index]? = some value) : value.Addressable :=
  h.child (List.mem_map_of_mem (List.mem_of_getElem? he))

theorem Indexable.member {slice : Slice} {members : List (Name × Node)}
    (h : (Node.object slice members).Indexable) {name : Name} {value : Node}
    (hm : (name, value) ∈ members) : value.Indexable :=
  fun _ _ _ hl => h _ _ _ (.member hm hl)

theorem Indexable.element {slice : Slice} {elements : List Node}
    (h : (Node.array slice elements).Indexable) {index : Nat} {value : Node}
    (he : elements[index]? = some value) : value.Indexable :=
  fun _ _ _ hl => h _ _ _ (.element he hl)

/-- Where the keys differ, the first entry with a key is the only one. -/
theorem find?_of_nodup {α β : Type} [BEq β] [LawfulBEq β] {f : α → β} {l : List α} {a : α}
    (hn : (l.map f).Nodup) (ha : a ∈ l) : (l.find? fun b => f b == f a) = some a := by
  induction l with
  | nil => cases ha
  | cons b l ih =>
    obtain ⟨hb, hl⟩ := List.nodup_cons.mp hn
    rcases List.mem_cons.mp ha with rfl | ha
    · simp
    · have hne : f b ≠ f a := fun he => hb (he ▸ List.mem_map_of_mem ha)
      rw [List.find?_cons_of_neg (by simp [hne])]
      exact ih hl ha

theorem Leads.at?_eq (h : n.Leads steps below) (ha : n.Addressable) :
    n.at? steps = some below := by
  induction h with
  | here n => rfl
  | @member slice members name value below steps hm _ ih =>
    obtain ⟨hnodup, -⟩ := ha.names
    have hfirst : (members.find? fun m => m.1.text == name.text) = some (name, value) :=
      find?_of_nodup hnodup hm
    have hstep : (Node.object slice members).step? (.member name.text) = some value := by
      rw [step?, member?, hfirst]
      rfl
    rw [at?, hstep]
    exact ih (ha.member hm)
  | @element slice elements index value below steps he _ ih =>
    have hstep : (Node.array slice elements).step? (.element index) = some value := he
    rw [at?, hstep]
    exact ih (ha.element he)

theorem leads_of_at? (h : n.at? steps = some below) : n.Leads steps below := by
  induction steps generalizing n with
  | nil =>
    cases h
    exact .here _
  | cons s steps ih =>
    rw [at?] at h
    obtain ⟨value, hs, hrest⟩ := Option.bind_eq_some_iff.mp h
    cases s with
    | member name =>
      cases n with
      | object slice members =>
        obtain ⟨m, hm, rfl⟩ := Option.map_eq_some_iff.mp hs
        have hname := List.find?_some hm
        rw [← beq_iff_eq.mp hname]
        exact .member (List.mem_of_find?_eq_some hm) (ih hrest)
      | scalar => cases hs
      | array => cases hs
    | element index =>
      cases n with
      | array slice elements => exact .element hs (ih hrest)
      | scalar => cases hs
      | object => cases hs

theorem Leads.plain (h : n.Leads steps below) (ha : n.Addressable) (hi : n.Indexable) :
    ∀ s ∈ steps, s.Plain := by
  induction h with
  | here => simp
  | @member slice members name value below steps hm _ ih =>
    obtain ⟨-, hplain⟩ := ha.names
    exact List.forall_mem_cons.mpr ⟨hplain _ hm, ih (ha.member hm) (hi.member hm)⟩
  | @element slice elements index value below steps he _ ih =>
    have hlength := hi [] slice elements (.here _)
    have hlt := (List.getElem?_eq_some_iff.mp he).1
    have hindex : index ≤ maxIndex := by omega
    exact List.forall_mem_cons.mpr ⟨hindex, ih (ha.element he) (hi.element he)⟩

/-- **A node is found at its path.** -/
theorem Leads.lookup?_eq (h : n.Leads steps below) (ha : n.Addressable) (hi : n.Indexable) :
    n.lookup? (pathOf steps) = some below := by
  rw [lookup?, readPath?_pathOf (h.plain ha hi)]
  exact h.at?_eq ha

end Node

end Json

end Testbench
