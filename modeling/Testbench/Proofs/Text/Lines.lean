import Testbench.Text.Blank
import Testbench.Text.Lines

/-!
# A line and what stands around it

A line is a piece of a text between line feeds. The lines of the text are those of what stands in
front of it, the line itself, and those of what comes after it, so that a line can be taken out or
put in without a change to any other.

* `IsLine` : a line with the text in front of it and the text after it.
* `lines_append`, `length_lines` : what ends with a line feed has its lines to itself.
* `IsLine.lines_eq` : **the lines of a text around one of them.**
* `exists_isLine` : every line of a text stands somewhere in it.
-/

set_option autoImplicit false

namespace Testbench.Text

/-- `line` is a line of the text `before ++ (line ++ after)`. A carriage return in front of its line
feed may count as a part of it or not. -/
structure IsLine (before line after : List Char) : Prop where
  start : before = [] ∨ before.getLast? = some '\n'
  inner : '\n' ∉ line
  stop : after = [] ∨ ∃ rest, after = '\n' :: rest ∨ after = '\r' :: '\n' :: rest

variable {before line after s : List Char}

/-! ## White space at the end of a line -/

theorem trim_append_blank {c : Char} (h : isBlank c = true) (s : List Char) :
    trim (s ++ [c]) = trim s := by
  rw [trim, trim, List.dropWhile_append]
  cases hs : s.dropWhile isBlank with
  | nil => simp [h, dropEndWhile]
  | cons d rest => simp [h, dropEndWhile]

/-- The carriage return of a line end is white space. -/
theorem trim_endedLine (line : List Char) : trim (endedLine line.reverse) = trim line := by
  unfold endedLine
  split
  · rename_i back hback
    rw [← List.reverse_reverse line, hback, List.reverse_cons]
    exact (trim_append_blank (by decide) _).symm
  · rw [List.reverse_reverse]

/-! ## Lines in front of lines -/

theorem linesFrom_append (back s rest : List Char) :
    linesFrom back (s ++ '\n' :: rest) = linesFrom back (s ++ ['\n']) ++ lines rest := by
  induction s generalizing back with
  | nil => simp [linesFrom, lines]
  | cons c s ih =>
    simp only [List.cons_append, linesFrom]
    split
    · rw [ih, List.cons_append]
    · exact ih (c :: back)

theorem length_linesFrom (back s : List Char) :
    (linesFrom back (s ++ ['\n'])).length = (s ++ ['\n']).count '\n' := by
  induction s generalizing back with
  | nil => simp [linesFrom]
  | cons c s ih =>
    simp only [List.cons_append, linesFrom]
    split
    · rename_i hc
      simp [hc, ih]
    · rename_i hc
      rw [ih, List.count_cons_of_ne hc]

/-- The lines of a text that ends with a line feed stay its own. -/
theorem lines_append (h : before = [] ∨ before.getLast? = some '\n') (rest : List Char) :
    lines (before ++ rest) = lines before ++ lines rest := by
  rcases h with rfl | h
  · rfl
  · obtain ⟨s, rfl⟩ := List.getLast?_eq_some_iff.mp h
    rw [List.append_assoc]
    exact linesFrom_append [] s rest

theorem length_lines (h : before = [] ∨ before.getLast? = some '\n') :
    (lines before).length = before.count '\n' := by
  rcases h with rfl | h
  · rfl
  · obtain ⟨s, rfl⟩ := List.getLast?_eq_some_iff.mp h
    exact length_linesFrom [] s

/-- A text without line feeds is one line, if it is not empty. -/
theorem lines_of_not_mem (h : '\n' ∉ s) : lines s = if s = [] then [] else [s] := by
  have hfrom (back : List Char) :
      linesFrom back s = if s.reverse ++ back = [] then [] else [(s.reverse ++ back).reverse] := by
    induction s generalizing back with
    | nil => cases back <;> simp [linesFrom]
    | cons c s ih =>
      obtain ⟨hc, hs⟩ := not_or.mp (mt List.mem_cons.mpr h)
      rw [linesFrom, if_neg (Ne.symm hc), ih hs]
      simp
  rw [lines, hfrom]
  simp

/-! ## One line -/

/-- What stands in front of the line and after it has the same lines whatever the line is. The last
line of a text is there only if it is not empty. -/
theorem IsLine.lines_eq (h : IsLine before line after) :
    (after = [] ∧ lines (before ++ (line ++ after)) =
        lines before ++ if line = [] then [] else [line]) ∨
      ∃ rest shown, trim shown = trim line ∧
        lines (before ++ (line ++ after)) = lines before ++ shown :: rest ∧
        ∃ empty, trim empty = [] ∧ lines (before ++ after) = lines before ++ empty :: rest := by
  rw [lines_append h.start, lines_append h.start]
  rcases h.stop with rfl | ⟨rest, rfl | rfl⟩
  · refine .inl ⟨rfl, ?_⟩
    rw [List.append_nil, lines_of_not_mem h.inner]
  · refine .inr ⟨lines rest, _, trim_endedLine line, ?_, [], rfl, rfl⟩
    rw [lines_append_newline rest h.inner]
  · have hinner : '\n' ∉ line ++ ['\r'] := by simpa using h.inner
    have htrim : trim (endedLine (line ++ ['\r']).reverse) = trim line :=
      (trim_endedLine _).trans (trim_append_blank (by decide) line)
    refine .inr ⟨lines rest, _, htrim, ?_, [], rfl, rfl⟩
    rw [← lines_append_newline rest hinner]
    simp

/-- Every line of a text stands somewhere in it, and what is in front of it has as many line feeds
as there are lines before it. -/
theorem exists_isLine {k : Nat} (h : k < (lines s).length) :
    ∃ before line after, s = before ++ (line ++ after) ∧ IsLine before line after ∧
      before.count '\n' = k := by
  induction k generalizing s with
  | zero =>
    by_cases hs : '\n' ∈ s
    · obtain ⟨line, rest, rfl, hline⟩ := List.eq_append_cons_of_mem hs
      exact ⟨[], line, '\n' :: rest, rfl, ⟨.inl rfl, hline, .inr ⟨rest, .inl rfl⟩⟩, rfl⟩
    · exact ⟨[], s, [], by simp, ⟨.inl rfl, hs, .inl rfl⟩, rfl⟩
  | succ k ih =>
    by_cases hs : '\n' ∈ s
    · obtain ⟨first, rest, rfl, hfirst⟩ := List.eq_append_cons_of_mem hs
      rw [lines_append_newline rest hfirst, List.length_cons, Nat.succ_lt_succ_iff] at h
      obtain ⟨before, line, after, rfl, ⟨hstart, hinner, hstop⟩, hcount⟩ := ih h
      refine ⟨first ++ '\n' :: before, line, after, by simp, ⟨.inr ?_, hinner, hstop⟩, ?_⟩
      · rcases hstart with rfl | hlast
        · simp
        · simp [List.getLast?_append, List.getLast?_cons, hlast]
      · simp [List.count_eq_zero.mpr hfirst, hcount]
    · -- a single line is not followed by another one
      rw [lines_of_not_mem hs] at h
      split at h <;> simp at h

end Testbench.Text
