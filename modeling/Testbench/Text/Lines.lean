/-!
# The lines of a text

A line ends at a line feed, and a carriage return right before that line feed belongs to the
line end too. Text after the last line feed is a line of its own if there is any; a carriage
return at its end is text.

* `lines` : the lines, without their ends.
* `lines_append_newline` : ending a line without line feeds makes it the first line.
-/

namespace Testbench.Text

/-- A line, given backwards, without the carriage return before its line feed. -/
def endedLine : List Char → List Char
  | '\r' :: line => line.reverse
  | line => line.reverse

/-- The lines of a text, with the line being read given backwards. -/
def linesFrom (line : List Char) : List Char → List (List Char)
  | [] => if line.isEmpty then [] else [line.reverse]
  | c :: rest => if c = '\n' then endedLine line :: linesFrom [] rest else linesFrom (c :: line) rest

/-- The lines of a text, without their ends. -/
def lines (s : List Char) : List (List Char) := linesFrom [] s

/-- `lines` on strings. -/
def stringLines (s : String) : List String := (lines s.toList).map String.ofList

@[simp] theorem lines_nil : lines [] = [] := rfl

theorem linesFrom_append_newline {line : List Char} (back : List Char) (rest : List Char)
    (h : '\n' ∉ line) :
    linesFrom back (line ++ '\n' :: rest) = endedLine (line.reverse ++ back) :: lines rest := by
  induction line generalizing back with
  | nil => simp [linesFrom, lines]
  | cons c line ih =>
    simp only [List.mem_cons, not_or] at h
    simp [linesFrom, Ne.symm h.1, ih (c :: back) h.2]

theorem lines_append_newline {line : List Char} (rest : List Char) (h : '\n' ∉ line) :
    lines (line ++ '\n' :: rest) = endedLine line.reverse :: lines rest :=
  (linesFrom_append_newline [] rest h).trans (by simp)

end Testbench.Text
