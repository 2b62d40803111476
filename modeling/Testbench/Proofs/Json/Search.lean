import Testbench.Proofs.Json.Override
import Testbench.Proofs.Json.Subdocument

/-!
# Searching an array for a member

A search names an array and a member in one text, `path[].name`, and goes through a window of the
array. It finds what queries would find one by one: the least index in the window at which
`path[index].name` leads to something.

* `Text.cutLastWord?_append` : the last occurrence of a word.
* `findIdx?_eq_some_iff_isLeast` : the first place in a list where something holds.
* `findIdx?_window_eq_some_iff` : the first place in a window of a list.
* `readPath?_subscript_member` : the path of a member of an element.
* `Node.findKey?_eq` : the array and the member that a search is for.
* `Document.findKey?_iff_least` : **a search finds the least index at which a query does.**
-/

set_option autoImplicit false

namespace Testbench

namespace Text

/-- The first occurrence of a word whose last character is nowhere before. -/
theorem cutWord?_append {c : Char} {w a : List Char} (b : List Char) (hw : c ∉ w) (ha : c ∉ a) :
    cutWord? (w ++ [c]) (a ++ (w ++ c :: b)) = some (a, b) := by
  have hword : w ++ c :: b = (w ++ [c]) ++ b := by simp
  induction a with
  | nil =>
    obtain ⟨d, s, hd⟩ : ∃ d s, w ++ c :: b = d :: s :=
      List.exists_cons_of_ne_nil (by simp)
    have hprefix : (w ++ [c]).isPrefixOf (d :: s) = true := by
      rw [← hd, hword]
      exact List.isPrefixOf_iff_prefix.mpr (List.prefix_append _ _)
    rw [List.nil_append, hd, cutWord?, if_pos hprefix, ← hd, hword, List.drop_left]
  | cons d a ih =>
    obtain ⟨hd, ha⟩ := not_or.mp (mt List.mem_cons.mpr ha)
    have hno : (w ++ [c]).isPrefixOf (d :: (a ++ (w ++ c :: b))) = false := by
      rw [Bool.eq_false_iff]
      intro hprefix
      obtain ⟨r, hr⟩ := List.isPrefixOf_iff_prefix.mp hprefix
      -- cut at the first `c`, the text in front of it would have two lengths
      have hcut : cut? c (d :: (a ++ w) ++ c :: b) = some (d :: (a ++ w), b) :=
        cut?_append b (by simp [hd, ha, hw])
      have hsame : d :: (a ++ w) ++ c :: b = w ++ c :: r := by simpa using hr.symm
      rw [hsame, cut?_append r hw] at hcut
      have hlength := congrArg (fun p => p.1.length) (Option.some.inj hcut)
      simp only [List.length_cons, List.length_append] at hlength
      omega
    rw [List.cons_append, cutWord?, hno, ih ha]
    rfl

/-- The last occurrence of a word whose first character is nowhere behind. -/
theorem cutLastWord?_append {c : Char} {w b : List Char} (a : List Char) (hw : c ∉ w) (hb : c ∉ b) :
    cutLastWord? (c :: w) (a ++ (c :: w ++ b)) = some (a, b) := by
  have hcut := @cutWord?_append c w.reverse b.reverse a.reverse (mt List.mem_reverse.mp hw)
    (mt List.mem_reverse.mp hb)
  have hword : (c :: w).reverse = w.reverse ++ [c] := List.reverse_cons
  have htext : (a ++ (c :: w ++ b)).reverse = b.reverse ++ (w.reverse ++ c :: a.reverse) := by simp
  rw [cutLastWord?, hword, htext, hcut]
  simp

end Text

namespace Json

open Text

/-! ## The first place -/

section FirstPlace

variable {α : Type} {p : α → Bool} {l : List α}

/-- The first place in a list where something holds is the least one. -/
theorem findIdx?_eq_some_iff_isLeast {i : Nat} :
    l.findIdx? p = some i ↔ IsLeast {j | (l[j]?).any p = true} i := by
  have hmem {j : Nat} (hj : j < l.length) : (l[j]?).any p = p l[j] := by
    rw [List.getElem?_eq_getElem hj, Option.any_some]
  rw [List.findIdx?_eq_some_iff_getElem]
  constructor
  · rintro ⟨hi, hp, hbefore⟩
    refine ⟨(hmem hi).trans hp, fun j hj => ?_⟩
    by_contra hlt
    have hlt : j < i := Nat.lt_of_not_le hlt
    exact hbefore j hlt ((hmem (Nat.lt_trans hlt hi)).symm.trans hj)
  · rintro ⟨hi, hleast⟩
    have hlength : i < l.length := by
      by_contra hge
      have hnone : l[i]? = none := List.getElem?_eq_none (Nat.le_of_not_lt hge)
      have hi : (l[i]?).any p = true := hi
      rw [hnone] at hi
      cases hi
    refine ⟨hlength, (hmem hlength).symm.trans hi, fun j hj hp => ?_⟩
    have hle := hleast ((hmem (Nat.lt_trans hj hlength)).trans hp)
    exact absurd hj (Nat.not_lt.mpr hle)

/-- The first place in a window of a list is the least one of the list that lies in the window. -/
theorem findIdx?_window_eq_some_iff {start count i : Nat} :
    (((l.drop start).take count).findIdx? p).map (start + ·) = some i ↔
      IsLeast {j | start ≤ j ∧ j - start < count ∧ (l[j]?).any p = true} i := by
  have hwindow (k : Nat) : (((l.drop start).take count)[k]?).any p = true ↔
      k < count ∧ (l[start + k]?).any p = true := by
    rw [List.getElem?_take]
    split
    · rename_i hk
      simp [hk]
    · rename_i hk
      simp [hk]
  have hset : {j | start ≤ j ∧ j - start < count ∧ (l[j]?).any p = true} =
      (start + ·) '' {k | (((l.drop start).take count)[k]?).any p = true} := by
    ext j
    constructor
    · rintro ⟨hstart, hcount, hp⟩
      refine ⟨j - start, (hwindow _).mpr ⟨hcount, ?_⟩, Nat.add_sub_cancel' hstart⟩
      rwa [Nat.add_sub_cancel' hstart]
    · rintro ⟨k, hk, rfl⟩
      obtain ⟨hcount, hp⟩ := (hwindow k).mp hk
      exact ⟨Nat.le_add_right start k, by rwa [Nat.add_sub_cancel_left], hp⟩
  rw [hset, Option.map_eq_some_iff]
  constructor
  · rintro ⟨k, hk, rfl⟩
    obtain ⟨hmem, hleast⟩ := findIdx?_eq_some_iff_isLeast.mp hk
    refine ⟨⟨k, hmem, rfl⟩, ?_⟩
    rintro _ ⟨k', hk', rfl⟩
    exact Nat.add_le_add_left (hleast hk') start
  · rintro ⟨⟨k, hk, rfl⟩, hleast⟩
    refine ⟨k, findIdx?_eq_some_iff_isLeast.mpr ⟨hk, fun k' hk' => ?_⟩, rfl⟩
    exact Nat.le_of_add_le_add_left (hleast ⟨k', hk', rfl⟩)

/-- What finds the least member of a set finds nothing just if the set has no member. -/
theorem eq_none_iff_of_isLeast {found : Option Nat} {s : Set Nat}
    (h : ∀ i, found = some i ↔ IsLeast s i) : found = none ↔ ∀ i, i ∉ s := by
  constructor
  · intro hnone i hi
    classical
    have hex : ∃ i, i ∈ s := ⟨i, hi⟩
    have hleast : IsLeast s (Nat.find hex) := ⟨Nat.find_spec hex, fun j hj => Nat.find_min' hex hj⟩
    rw [← h, hnone] at hleast
    cases hleast
  · intro hempty
    cases hfound : found with
    | none => rfl
    | some i => exact absurd ((h i).mp hfound).1 (hempty i)

end FirstPlace

/-! ## Searches and queries on a tree -/

/-- The path of a member of an element can be read if the index is not too large. -/
theorem readPath?_subscript_member {name : List Char} (hname : PlainName name) (index : Nat) :
    readPath? (subscript index ++ '.' :: name) =
      if index ≤ maxIndex then some [.element index, .member name] else none := by
  have hsegment : readSegment? (subscript index) =
      if index ≤ maxIndex then some [.element index] else none :=
    (readSegment?_bracket _).trans (readSubscripts?_subscript index)
  rw [readPath?_of_ne_nil (by simp), fields_append_sep,
    fields_of_not_mem (point_not_mem_subscript index), fields_of_not_mem hname.2.1,
    List.singleton_append, List.mapM_cons, hsegment]
  split
  · simp [readSegment?_name hname]
  · rfl

namespace Node

variable {n : Node} {path name : List Char} {slice : Slice} {elements : List Node}

/-- A query for a member of an element of an array. -/
theorem get?_element_member (hn : n.lookup? path = some (.array slice elements))
    (hlength : elements.length ≤ maxIndex + 1) (hname : PlainName name) (index : Nat) :
    n.get? (path ++ (subscript index ++ '.' :: name)) =
      ((elements[index]?).bind (member? name)).map text := by
  have hjoin : joinPath path (subscript index ++ '.' :: name) =
      path ++ (subscript index ++ '.' :: name) := by
    by_cases hpath : path = [] <;> simp [joinPath, hpath, subscript]
  rw [← hjoin, get?_joinPath hn, get?, lookup?, readPath?_subscript_member hname]
  split
  · rw [Option.bind_some, at?, step?, element?]
    cases elements[index]? with
    | none => rfl
    | some element =>
      rw [Option.bind_some, Option.bind_some, at?, step?]
      cases element.member? name <;> rfl
  · rw [List.getElem?_eq_none (by omega)]
    rfl

/-- The array and the member that a search is for. -/
theorem findKey?_eq (hname : PlainName name) (start count : Nat) :
    n.findKey? (path ++ ('[' :: [']', '.'] ++ name)) start count =
      (n.lookup? path).bind fun below =>
        match below with
        | .array _ elements => findMember? name start count elements
        | _ => none := by
  have hcut : cutLastWord? ['[', ']', '.'] (path ++ ('[' :: [']', '.'] ++ name)) =
      some (path, name) :=
    cutLastWord?_append path (by decide) hname.2.2
  rw [findKey?, hcut]
  rfl

/-- The first element of a window of an array that has the member. -/
theorem findMember?_eq_some_iff {start count i : Nat} :
    findMember? name start count elements = some i ↔
      IsLeast {j | start ≤ j ∧ j - start < count ∧
        ((elements[j]?).bind (member? name)).isSome = true} i := by
  have hset (j : Nat) : (elements[j]?).any (fun element => (element.member? name).isSome) =
      ((elements[j]?).bind (member? name)).isSome := by
    cases elements[j]? <;> rfl
  rw [findMember?, findIdx?_window_eq_some_iff]
  simp only [hset]

end Node

/-! ## Documents -/

theorem toList_spec (path name : String) :
    (path ++ "[]." ++ name).toList = path.toList ++ ('[' :: [']', '.'] ++ name.toList) := by
  simp

theorem toList_query (path name : String) (index : Nat) :
    (path ++ "[" ++ toString index ++ "]." ++ name).toList =
      path.toList ++ (subscript index ++ '.' :: name.toList) := by
  simp [subscript]

namespace Document

/-- **A search finds the least index at which a query does.** Where a path leads to an array, the
search for a member finds the least index in the window at which the query for that member of that
element finds something, and nothing if there is none. Where it does not, nothing is found. The
source is no longer than the largest index, as every text is that a machine can hold. -/
theorem findKey?_iff_least {mode : Mode} {source : String} {d : Document}
    (h : parse mode source = .ok d) (hs : source.length ≤ maxIndex) (path name : String)
    (hname : PlainName name.toList) (start count : Nat) :
    (∀ slice elements, d.root.lookup? path.toList = some (.array slice elements) →
      (∀ i, d.findKey? (path ++ "[]." ++ name) start count = some i ↔
        IsLeast {j | start ≤ j ∧ j - start < count ∧
          (d.get? (path ++ "[" ++ toString j ++ "]." ++ name)).isSome = true} i) ∧
      (d.findKey? (path ++ "[]." ++ name) start count = none ↔ ∀ j, start ≤ j → j - start < count →
        d.get? (path ++ "[" ++ toString j ++ "]." ++ name) = none)) ∧
    ((∀ slice elements, d.root.lookup? path.toList ≠ some (.array slice elements)) →
      d.findKey? (path ++ "[]." ++ name) start count = none) := by
  have hindexable : d.root.Indexable := by
    obtain ⟨root, hroot, rfl⟩ := Grammar.map_eq_ok_iff.mp h
    exact (Grammar.read_eq_ok_iff.mp hroot).indexable hs
  have hsearch : d.findKey? (path ++ "[]." ++ name) start count =
      (d.root.lookup? path.toList).bind fun below =>
        match below with
        | .array _ elements => Node.findMember? name.toList start count elements
        | _ => none := by
    rw [findKey?, toList_spec, Node.findKey?_eq hname]
  constructor
  · intro slice elements hpath
    have hlength : elements.length ≤ maxIndex + 1 := by
      obtain ⟨steps, -, hat⟩ := Option.bind_eq_some_iff.mp hpath
      exact hindexable steps slice elements (Node.leads_of_at? hat)
    have hquery (j : Nat) : (d.get? (path ++ "[" ++ toString j ++ "]." ++ name)).isSome =
        ((elements[j]?).bind (Node.member? name.toList)).isSome := by
      rw [get?, toList_query, Node.get?_element_member hpath hlength hname, Option.isSome_map,
        Option.isSome_map]
    have hleast (i : Nat) : d.findKey? (path ++ "[]." ++ name) start count = some i ↔
        IsLeast {j | start ≤ j ∧ j - start < count ∧
          (d.get? (path ++ "[" ++ toString j ++ "]." ++ name)).isSome = true} i := by
      rw [hsearch, hpath, Option.bind_some, Node.findMember?_eq_some_iff]
      simp only [hquery]
    refine ⟨hleast, ?_⟩
    rw [eq_none_iff_of_isLeast hleast]
    simp
  · intro hother
    rw [hsearch]
    cases hpath : d.root.lookup? path.toList with
    | none => rfl
    | some below =>
      cases below with
      | array slice elements => exact absurd hpath (hother slice elements)
      | scalar => rfl
      | object => rfl

/-- A window from the second element on that reaches beyond the end, over a number, an array that
holds the member further down, and an object that has it twice. -/
theorem findKey?_iff_least_nested :
    ∃ d, parse .relaxed "\x7bl: [\x7bk: 1\x7d, 7, [\x7bk: 2\x7d], \x7bk: 3, k: 4\x7d]\x7d" = .ok d ∧
      IsLeast {j | 1 ≤ j ∧ j - 1 < maxIndex ∧
        (d.get? ("l" ++ "[" ++ toString j ++ "]." ++ "k")).isSome = true} 3 ∧
      ∀ j, 1 ≤ j → j - 1 < 2 → d.get? ("l" ++ "[" ++ toString j ++ "]." ++ "k") = none := by
  have hparse : (parse .relaxed
      "\x7bl: [\x7bk: 1\x7d, 7, [\x7bk: 2\x7d], \x7bk: 3, k: 4\x7d]\x7d").toOption.any (fun d =>
        ((d.root.lookup? "l".toList).any fun n => n.letter == 'a') &&
          decide (d.findKey? ("l" ++ "[]." ++ "k") 1 maxIndex = some 3) &&
          decide (d.findKey? ("l" ++ "[]." ++ "k") 1 2 = none)) = true := by
    decide +kernel
  cases h : parse .relaxed "\x7bl: [\x7bk: 1\x7d, 7, [\x7bk: 2\x7d], \x7bk: 3, k: 4\x7d]\x7d" with
  | error e =>
    rw [h] at hparse
    cases hparse
  | ok d =>
    rw [h] at hparse
    simp only [Except.toOption, Option.any_some, Bool.and_eq_true, decide_eq_true_eq,
      Option.any_eq_true] at hparse
    obtain ⟨⟨⟨n, hn, hletter⟩, hfound⟩, hnone⟩ := hparse
    obtain ⟨slice, elements, rfl⟩ : ∃ slice elements, n = .array slice elements := by
      cases n with
      | array slice elements => exact ⟨slice, elements, rfl⟩
      | object => cases hletter
      | scalar kind => cases kind <;> cases hletter
    have hsearch := findKey?_iff_least h (by decide) "l" "k" (by decide)
    refine ⟨d, rfl, ((hsearch 1 maxIndex).1 slice elements hn).1 3 |>.mp hfound, ?_⟩
    exact ((hsearch 1 2).1 slice elements hn).2.mp hnone

end Document

end Json

end Testbench
