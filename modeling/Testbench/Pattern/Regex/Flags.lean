import Testbench.Pattern.Regex.Basic
import Testbench.Text.Blank

/-!
# Flags

Flags say how the text of an expression is read and what its parts stand for. A flag group changes
them up to the end of the group around it.

* `Regex.Flags.skip` : the text after white space and comments, where these do not count.
* `Regex.Flags.closed`, `Regex.Flags.settle?` : sets as letter case and ASCII have them.
* `Regex.Flags.dot?`, `Regex.Flags.startPlace`, `Regex.Flags.endPlace` : what `.`, `^` and `$` stand
  for.
* `Regex.readFlags?` : the letters of a flag group.
-/

namespace Testbench.Regex

open Text

/-- The flags in force. -/
structure Flags where
  /-- `i`: letter case does not matter. -/
  anyCase : Bool := false
  /-- `m`: lines have starts and ends. -/
  multiLine : Bool := false
  /-- `s`: the dot stands for line feeds too. -/
  dotAll : Bool := true
  /-- `x`: white space and comments between elements do not count. -/
  spaced : Bool := false
  /-- `U`: repetitions prefer few rounds, and many with a question mark. -/
  shortest : Bool := false
  /-- `u`: classes and word boundaries reach beyond ASCII. -/
  unicode : Bool := true
  /-- `R`: carriage returns end lines too. -/
  anyEnding : Bool := false
  deriving DecidableEq, Repr

/-! ## White space and comments -/

/-- The text after white space and comments, which go from a number sign to the end of the line. -/
def skipRemarks : (inComment : Bool) → List Char → List Char
  | _, [] => []
  | true, c :: rest => skipRemarks (c != '\n') rest
  | false, c :: rest =>
    if isBlank c then skipRemarks false rest
    else if c = '#' then skipRemarks true rest
    else c :: rest

/-- The text after what does not count under these flags. -/
def Flags.skip (flags : Flags) (s : List Char) : List Char :=
  if flags.spaced then skipRemarks false s else s

theorem length_skipRemarks_le (inComment : Bool) (s : List Char) :
    (skipRemarks inComment s).length ≤ s.length := by
  induction s generalizing inComment with
  | nil => cases inComment <;> simp [skipRemarks]
  | cons c s ih =>
    cases inComment with
    | true => exact Nat.le_succ_of_le (ih _)
    | false =>
      unfold skipRemarks
      split
      · exact Nat.le_succ_of_le (ih _)
      · split
        · exact Nat.le_succ_of_le (ih _)
        · exact Nat.le_refl _

theorem Flags.length_skip_le (flags : Flags) (s : List Char) :
    (flags.skip s).length ≤ s.length := by
  unfold Flags.skip
  split
  · exact length_skipRemarks_le false s
  · exact Nat.le_refl _

/-- What follows a dash in a class, without white space. A number sign counts as white space once;
if there is nothing else up to the end, the first character after the dash is meant. -/
def peekSpaced (s : List Char) : Option Char :=
  let next := match s.dropWhile isBlank with
    | '#' :: rest => rest.dropWhile isBlank
    | rest => rest
  next.head?.or s.head?

def Flags.peek (flags : Flags) (s : List Char) : Option Char :=
  if flags.spaced then peekSpaced s else s.head?

/-! ## What the parts of an expression stand for -/

/-- A set with the characters that the flags do not tell from its members. -/
def Flags.closed (flags : Flags) (set : CharSet) : CharSet :=
  if !flags.anyCase then set else if flags.unicode then set.anyCase else set.anyAsciiCase

/-- A set whose complement is taken if it is `negated`, after letter case has been settled. Within
ASCII there are no complements, for they would hold parts of characters. -/
def Flags.settle? (flags : Flags) (negated : Bool) (set : CharSet) : Option CharSet :=
  if negated && !flags.unicode then none else some ((flags.closed set).negateIf negated)

/-- One of two sets, within ASCII or beyond; within ASCII there may be none. -/
def Flags.pick? (flags : Flags) (unicode : CharSet) (ascii : Option CharSet) : Option CharSet :=
  if flags.unicode then some unicode else ascii

/-- Whether a character may stand in a class. -/
def Flags.admits (flags : Flags) (c : Char) : Bool := flags.unicode || decide (c.toNat < 0x80)

/-- One character, as the flags read it. -/
def Flags.char (flags : Flags) (c : Char) : Regex :=
  if flags.anyCase then ofSet (flags.closed (.single c)) else literal [c]

/-- The characters that the dot stands for; there are none within ASCII, for it would stand for parts
of characters. -/
def Flags.dot? (flags : Flags) : Option CharSet :=
  let left : CharSet :=
    if flags.dotAll then [] else if flags.anyEnding then [(0xA, 0xA), (0xD, 0xD)] else [(0xA, 0xA)]
  if flags.unicode then some left.complement else none

/-- The start of a text or of a line. -/
def Flags.startPlace (flags : Flags) : Assertion :=
  if !flags.multiLine then .textStart
  else if flags.anyEnding then .lineStartAnyEnding else .lineStart

/-- The end of a text or of a line. -/
def Flags.endPlace (flags : Flags) : Assertion :=
  if !flags.multiLine then .textEnd else if flags.anyEnding then .lineEndAnyEnding else .lineEnd

/-! ## Flag groups -/

/-- The letters of a flag group, up to its colon or closing parenthesis. `seen` are the letters and
the dash before, the last one first. -/
def readFlags? : (seen : List Char) → Flags → List Char → Option (Flags × List Char × List Char)
  | _, _, [] => none
  | seen, flags, c :: rest =>
    if c = ':' ∨ c = ')' then
      if seen.head? = some '-' then none else some (flags, seen, c :: rest)
    else if seen.contains c then none
    else
      let on := !seen.contains '-'
      match c with
      | '-' => readFlags? (c :: seen) flags rest
      | 'i' => readFlags? (c :: seen) { flags with anyCase := on } rest
      | 'm' => readFlags? (c :: seen) { flags with multiLine := on } rest
      | 's' => readFlags? (c :: seen) { flags with dotAll := on } rest
      | 'x' => readFlags? (c :: seen) { flags with spaced := on } rest
      | 'U' => readFlags? (c :: seen) { flags with shortest := on } rest
      | 'u' => readFlags? (c :: seen) { flags with unicode := on } rest
      | 'R' => readFlags? (c :: seen) { flags with anyEnding := on } rest
      | _ => none

end Testbench.Regex
