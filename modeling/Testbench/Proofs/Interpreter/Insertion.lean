import Testbench.Proofs.Interpreter.Step

/-!
# Silent lines

A blank line and a comment do nothing. This file says which lines those are and what one more of
them does to a script: every other line is still there, at an index that is the same or one higher,
and so is every label.

* `Line.isSilent` : nothing but spaces and tabs, or a comment behind them.
* `Machine.step_of_isSilent` : such a line leads to the next one.
* `Insertion`, `Insertion.shift` : a silent line put into a script, and where the others went.
* `Insertion.findLabel?_result` : labels are found where they went.
-/

set_option autoImplicit false

namespace Testbench

open Text

/-! ## One line -/

namespace Line

/-- Whether a line is blank or a comment: behind spaces and tabs it ends or has a semicolon. -/
def isSilent (line : String) : Bool :=
  match line.toList.dropWhile isGap with
  | [] => true
  | c :: _ => c == ';'

theorem silent_cases {line : String} (h : isSilent line = true) :
    line.toList.dropWhile isGap = [] ∨ ∃ rest, line.toList.dropWhile isGap = ';' :: rest := by
  unfold isSilent at h
  cases hd : line.toList.dropWhile isGap with
  | nil => exact .inl rfl
  | cons c rest =>
    simp only [hd, beq_iff_eq] at h
    exact .inr ⟨rest, by rw [h]⟩

theorem isBlank_of_isGap {c : Char} (h : isGap c = true) : Text.isBlank c = true := by
  simp only [isGap, Bool.or_eq_true, beq_iff_eq] at h
  rcases h with rfl | rfl <;> rfl

/-- White space can be dropped after spaces and tabs were. -/
theorem dropWhile_isBlank (s : List Char) :
    s.dropWhile Text.isBlank = (s.dropWhile isGap).dropWhile Text.isBlank := by
  induction s with
  | nil => rfl
  | cons c s ih =>
    by_cases hc : isGap c = true
    · rw [List.dropWhile_cons_of_pos hc, List.dropWhile_cons_of_pos (isBlank_of_isGap hc), ih]
    · rw [List.dropWhile_cons_of_neg hc]

end Line

/-- No label is on a silent line. -/
theorem Script.isLabelLine_of_isSilent {line : String} (h : Line.isSilent line = true)
    (label : String) : isLabelLine label line = false := by
  unfold isLabelLine trim
  rw [Line.dropWhile_isBlank]
  apply beq_eq_false_iff_ne.mpr
  rcases Line.silent_cases h with hd | ⟨rest, hd⟩
  · rw [hd]
    exact fun hn => nomatch hn
  · have hstay : (';' :: rest).dropWhile Text.isBlank = ';' :: rest :=
      List.dropWhile_cons_of_neg (by decide)
    rw [hd, hstay]
    intro hcolon
    obtain ⟨tail, ht⟩ := dropEndWhile_prefix Text.isBlank (';' :: rest)
    rw [hcolon] at ht
    exact absurd (List.cons.inj ht).1 (by decide)

namespace Machine

theorem isBlank_of_tokens {line : String} (h : Line.tokens line.toList = [[]]) :
    isBlank line = true := by
  unfold isBlank Line.tokenize
  rw [h]
  rfl

theorem isBlank_of_isSilent {line : String} (h : Line.isSilent line = true) :
    isBlank line = true := by
  apply isBlank_of_tokens
  unfold Line.tokens
  rcases Line.silent_cases h with hd | ⟨rest, hd⟩
  · rw [hd]
    rfl
  · rw [hd]
    rfl

/-- A silent line does nothing but lead to the next one. -/
theorem step_of_isSilent {line : String} (h : Line.isSilent line = true) (verbs : VerbTable)
    (m : Machine) : m.step verbs line = (false, m.advance) :=
  step_of_isBlank (isBlank_of_isSilent h) verbs m

end Machine

/-! ## One line more -/

/-- A silent line that is put into a script, in front of the line with an index or at the end. -/
structure Insertion where
  script : Script
  index : Nat
  line : String
  within : index ≤ script.lines.size
  silent : Line.isSilent line = true

namespace Insertion

variable (n : Insertion)

/-- The script with the line in it. -/
def result : Script := ⟨n.script.name, n.script.lines.insertIdx n.index n.line n.within⟩

/-- Where a line of the script went. -/
def shift (l : Nat) : Nat := if l < n.index then l else l + 1

/-- The place behind a line goes where the line goes, but the new line may be in between. -/
theorem shift_succ (l : Nat) :
    n.shift l + 1 = n.shift (l + 1) ∨ l + 1 = n.index ∧ n.shift l + 1 = n.index := by
  unfold shift
  by_cases h : l + 1 < n.index
  · rw [if_pos h, if_pos (by omega)]
    exact .inl rfl
  · rw [if_neg h]
    by_cases hl : l < n.index
    · rw [if_pos hl]
      exact .inr (by omega)
    · rw [if_neg hl]
      exact .inl rfl

theorem shift_index : n.shift n.index = n.index + 1 := if_neg (Nat.lt_irrefl _)

theorem getElem?_shift (l : Nat) : n.result.lines[n.shift l]? = n.script.lines[l]? := by
  unfold result shift
  rw [Array.getElem?_insertIdx]
  by_cases h : l < n.index
  · simp only [if_pos h]
  · simp only [if_neg h, if_neg (show ¬ l + 1 < n.index by omega),
      if_neg (show ¬ l + 1 = n.index by omega), Nat.add_sub_cancel]

theorem getElem?_index : n.result.lines[n.index]? = some n.line := by
  unfold result
  rw [Array.getElem?_insertIdx, if_neg (Nat.lt_irrefl _), if_pos rfl, if_pos n.within]

theorem findIdx?_insertIdx {α : Type} {p : α → Bool} {x : α} (hx : p x = false) :
    ∀ (l : List α) (i : Nat), i ≤ l.length →
      (l.insertIdx i x).findIdx? p = (l.findIdx? p).map fun k => if k < i then k else k + 1 := by
  intro l
  induction l with
  | nil =>
    intro i hi
    obtain rfl : i = 0 := Nat.le_zero.mp hi
    simp [hx]
  | cons a l ih =>
    intro i hi
    cases i with
    | zero => simp [List.findIdx?_cons, hx]
    | succ i =>
      rw [List.insertIdx_succ_cons, List.findIdx?_cons, List.findIdx?_cons]
      by_cases ha : p a = true
      · simp [ha]
      · rw [if_neg ha, if_neg ha, ih i (Nat.le_of_succ_le_succ hi)]
        simp only [Option.map_map]
        congr 1
        funext k
        simp only [Function.comp_apply, Nat.add_lt_add_iff_right]
        split <;> rfl

/-- The new line carries no label, and the others took theirs with them. -/
theorem findLabel?_result (label : String) :
    n.result.findLabel? label = (n.script.findLabel? label).map n.shift := by
  have hnew := Script.isLabelLine_of_isSilent n.silent label
  have hlist := findIdx?_insertIdx hnew n.script.lines.toList n.index (by simpa using n.within)
  have harray : ∀ lines : Array String, lines.findIdx? (Script.isLabelLine label) =
      lines.toList.findIdx? (Script.isLabelLine label) := by
    intro lines
    cases lines
    exact List.findIdx?_toArray ..
  rw [← Array.toList_insertIdx n.within, ← harray, ← harray] at hlist
  exact hlist

end Insertion

end Testbench
