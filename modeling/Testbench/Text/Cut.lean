/-!
# Cutting a text at a character

* `cut?` : the text before and after the first occurrence of a character.
* `cutLast?` : the same for its last occurrence.
* `cutWord?`, `cutLastWord?` : the same for the occurrences of a word.
* `fields` : all the pieces between its occurrences.
* `cut?_eq_some_iff` : a cut is the one way to write the text with no occurrence in front.
-/

namespace Testbench.Text

/-- The text before and after the first `c`. -/
def cut? (c : Char) : List Char → Option (List Char × List Char)
  | [] => none
  | d :: s => if d = c then some ([], s) else (cut? c s).map fun p => (d :: p.1, p.2)

/-- The text before and after the last `c`. -/
def cutLast? (c : Char) (s : List Char) : Option (List Char × List Char) :=
  (cut? c s.reverse).map fun p => (p.2.reverse, p.1.reverse)

/-- The text before and after the first occurrence of `w`. -/
def cutWord? (w : List Char) : List Char → Option (List Char × List Char)
  | [] => if w.isEmpty then some ([], []) else none
  | c :: s =>
    if w.isPrefixOf (c :: s) then some ([], (c :: s).drop w.length)
    else (cutWord? w s).map fun p => (c :: p.1, p.2)

/-- The text before and after the last occurrence of `w`. -/
def cutLastWord? (w : List Char) (s : List Char) : Option (List Char × List Char) :=
  (cutWord? w.reverse s.reverse).map fun p => (p.2.reverse, p.1.reverse)

/-- The pieces between the occurrences of `c`; one more than there are occurrences. -/
def fields (c : Char) : List Char → List (List Char)
  | [] => [[]]
  | d :: s =>
    if d = c then [] :: fields c s
    else match fields c s with
      | [] => [[d]]
      | f :: fs => (d :: f) :: fs

/-- `cut?` on strings. -/
def cutString? (c : Char) (s : String) : Option (String × String) :=
  (cut? c s.toList).map fun p => (String.ofList p.1, String.ofList p.2)

/-- `cutLast?` on strings. -/
def cutLastString? (c : Char) (s : String) : Option (String × String) :=
  (cutLast? c s.toList).map fun p => (String.ofList p.1, String.ofList p.2)

theorem cut?_eq_none_iff {c : Char} {s : List Char} : cut? c s = none ↔ c ∉ s := by
  induction s with
  | nil => simp [cut?]
  | cons d s ih =>
    by_cases h : d = c
    · simp [cut?, h]
    · simp [cut?, h, ih, Ne.symm h]

theorem eq_of_cut? {c : Char} {s a b : List Char} (h : cut? c s = some (a, b)) :
    s = a ++ c :: b ∧ c ∉ a := by
  induction s generalizing a with
  | nil => simp [cut?] at h
  | cons d s ih =>
    by_cases hd : d = c
    · simp only [cut?, hd, if_true, Option.some.injEq, Prod.mk.injEq] at h
      obtain ⟨rfl, rfl⟩ := h
      simp [hd]
    · simp only [cut?, hd, if_false, Option.map_eq_some_iff, Prod.mk.injEq] at h
      obtain ⟨⟨a', b'⟩, hc, rfl, rfl⟩ := h
      obtain ⟨hs, hn⟩ := ih hc
      exact ⟨by simp [hs], by simp [hn, Ne.symm hd]⟩

theorem cut?_append {c : Char} {a : List Char} (b : List Char) (h : c ∉ a) :
    cut? c (a ++ c :: b) = some (a, b) := by
  induction a with
  | nil => simp [cut?]
  | cons d a ih =>
    simp only [List.mem_cons, not_or] at h
    simp [cut?, Ne.symm h.1, ih h.2]

theorem cut?_eq_some_iff {c : Char} {s a b : List Char} :
    cut? c s = some (a, b) ↔ s = a ++ c :: b ∧ c ∉ a :=
  ⟨eq_of_cut?, fun ⟨hs, hn⟩ => hs ▸ cut?_append b hn⟩

theorem fields_ne_nil (c : Char) (s : List Char) : fields c s ≠ [] := by
  cases s with
  | nil => simp [fields]
  | cons d s =>
    unfold fields
    split
    · simp
    · split <;> simp

end Testbench.Text
