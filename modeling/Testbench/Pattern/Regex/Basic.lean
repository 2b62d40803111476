import Testbench.Text.Fold
import Testbench.Text.Word
import Testbench.Text.Utf8

/-!
# Regular expressions

* `Assertion` : conditions on a place between two characters.
* `Regex` : expressions in a form where neighbouring characters make one literal and a choice
  between characters is a set.
* `Regex.concat`, `Regex.choice`, `Regex.times`, `Regex.ofSet` : the ways to build expressions in
  this form.
* `Regex.leastBytes`, `Regex.mostBytes` : how long a match is.
* `Regex.startsWith`, `Regex.endsWith` : conditions that every match meets at its ends.
-/

namespace Testbench

open Text

/-- How a place lies to the words around it. -/
inductive WordPlace where
  | boundary
  | noBoundary
  | start
  | finish
  /-- No word character before. -/
  | startHalf
  /-- No word character after. -/
  | finishHalf
  deriving DecidableEq, Repr, Hashable

/-- Whether a place lies so, given whether there are word characters on its two sides. -/
def WordPlace.holds (p : WordPlace) (before after : Bool) : Bool :=
  match p with
  | .boundary => before != after
  | .noBoundary => before == after
  | .start => !before && after
  | .finish => before && !after
  | .startHalf => !before
  | .finishHalf => !after

/-- A condition on a place in a text. -/
inductive Assertion where
  | textStart
  | textEnd
  | lineStart
  | lineEnd
  /-- Lines may end in a carriage return, or in one with a line feed. -/
  | lineStartAnyEnding
  | lineEndAnyEnding
  | word (place : WordPlace) (ascii : Bool)
  deriving DecidableEq, Repr, Hashable

/-- Whether a condition holds between these two characters; one is missing at either end. -/
def Assertion.holds (a : Assertion) (before after : Option Char) : Bool :=
  match a with
  | .textStart => before.isNone
  | .textEnd => after.isNone
  | .lineStart => before.all (· == '\n')
  | .lineEnd => after.all (· == '\n')
  | .lineStartAnyEnding => before.all fun c => c == '\n' || (c == '\r' && after != some '\n')
  | .lineEndAnyEnding => after.all fun c => c == '\r' || (c == '\n' && before != some '\r')
  | .word place ascii =>
    let isPart := fun c => if ascii then asciiWordChars.contains c else isWord c
    place.holds (before.any isPart) (after.any isPart)

/-- Regular expressions. Sequences and choices are trees, whose leaves from left to right are the
elements or the branches. -/
inductive Regex where
  | empty
  | literal (chars : List Char)
  | oneOf (set : CharSet)
  | place (condition : Assertion)
  | seq (a b : Regex)
  | alt (a b : Regex)
  /-- At least `least` times, and at most `most` times if that is given. -/
  | repeated (a : Regex) (least : Nat) (most : Option Nat) (shortest : Bool)
  | capture (number : Nat) (a : Regex)
  deriving DecidableEq, Repr

namespace Regex

/-! ## The length of a match and the conditions at its ends -/

/-- The least length of a match in bytes; none if nothing matches, as far as can be seen from the
parts. -/
def leastBytes : Regex → Option Nat
  | empty => some 0
  | literal chars => some (chars.foldl (fun n c => n + c.utf8Size) 0)
  | oneOf set => set.head?.map fun run => utf8Width run.1
  | place _ => some 0
  | seq a b => a.leastBytes.bind fun m => b.leastBytes.map fun n => m + n
  | alt a b => a.leastBytes.bind fun m => b.leastBytes.map fun n => min m n
  | repeated a least _ _ => a.leastBytes.map fun n => n * least
  | capture _ a => a.leastBytes

/-- The greatest length of a match in bytes; none if there is none. -/
def mostBytes : Regex → Option Nat
  | empty => some 0
  | literal chars => some (chars.foldl (fun n c => n + c.utf8Size) 0)
  | oneOf set => set.getLast?.map fun run => utf8Width run.2
  | place _ => some 0
  | seq a b => a.mostBytes.bind fun m => b.mostBytes.map fun n => m + n
  | alt a b => a.mostBytes.bind fun m => b.mostBytes.map fun n => max m n
  | repeated a _ most _ => most.bind fun m => a.mostBytes.map fun n => n * m
  | capture _ a => a.mostBytes

/-- Whether every match starts where the condition holds, as far as can be seen without looking
past the first part that may be longer than nothing. -/
def startsWith (condition : Assertion) : Regex → Bool
  | place c => c == condition
  | seq a b => a.startsWith condition || (a.mostBytes == some 0 && b.startsWith condition)
  | alt a b => a.startsWith condition && b.startsWith condition
  | repeated a least _ _ => decide (0 < least) && a.startsWith condition
  | capture _ a => a.startsWith condition
  | _ => false

/-- Whether every match ends where the condition holds. -/
def endsWith (condition : Assertion) : Regex → Bool
  | place c => c == condition
  | seq a b => b.endsWith condition || (b.mostBytes == some 0 && a.endsWith condition)
  | alt a b => a.endsWith condition && b.endsWith condition
  | repeated a least _ _ => decide (0 < least) && a.endsWith condition
  | capture _ a => a.endsWith condition
  | _ => false

/-! ## Building expressions -/

/-- A tree over the items. Halving keeps it low, however many there are. -/
def balanced (join : Regex → Regex → Regex) (items : List Regex) : Regex :=
  match items with
  | [] => empty
  | [a] => a
  | a :: b :: rest =>
    let half := rest.length / 2 + 1
    join (balanced join ((a :: b :: rest).take half)) (balanced join ((a :: b :: rest).drop half))
termination_by items.length
decreasing_by all_goals simp_wf <;> omega

/-- The elements of a sequence, in front of `rest`. -/
def elementsOnto : Regex → (rest : List Regex) → List Regex
  | empty, rest => rest
  | seq a b, rest => a.elementsOnto (b.elementsOnto rest)
  | r, rest => r :: rest

def elements (r : Regex) : List Regex := r.elementsOnto []

/-- The branches of a choice, in front of `rest`. -/
def branchesOnto : Regex → (rest : List Regex) → List Regex
  | alt a b, rest => a.branchesOnto (b.branchesOnto rest)
  | r, rest => r :: rest

def branches (r : Regex) : List Regex := r.branchesOnto []

/-- One element in front of others; two literals become one. -/
def fuse (r : Regex) (rest : List Regex) : List Regex :=
  match r, rest with
  | literal x, literal y :: rest => literal (x ++ y) :: rest
  | r, rest => r :: rest

/-- The expressions one after the other. -/
def concat (items : List Regex) : Regex :=
  balanced seq ((items.foldr elementsOnto []).foldr fuse [])

/-- One character of a set. -/
def ofSet (set : CharSet) : Regex :=
  match set.toChar? with
  | some c => literal [c]
  | none => oneOf set

/-- The set that an expression for one character stands for, if that is written as a literal. -/
def literalSet? : Regex → Option CharSet
  | literal [c] => some (.single c)
  | _ => none

/-- The set that an expression for one character stands for, if that is written as a set. -/
def set? : Regex → Option CharSet
  | oneOf set => some set
  | _ => none

/-- A choice between literals of one character, or between sets, as one set. -/
def oneOf? (branches : List Regex) : Option Regex :=
  ((branches.mapM literalSet?).or (branches.mapM set?)).map fun sets =>
    ofSet (.ofRuns sets.flatten)

/-- The elements that two sequences start with. -/
def sharedStart : List Regex → List Regex → List Regex
  | a :: s, b :: t => if a = b then a :: sharedStart s t else []
  | _, _ => []

/-- The elements that all the branches start with, if all are sequences. -/
def commonStart (branches : List Regex) : List Regex :=
  let isSeq : Regex → Bool
    | seq .. => true
    | _ => false
  match branches with
  | [] => []
  | first :: rest =>
    if branches.all isSeq then rest.foldl (fun start r => sharedStart start r.elements) first.elements
    else []

/-- Any one of some expressions, as one set where possible. -/
def choiceOf (items : List Regex) : Regex :=
  let branches := items.foldr branchesOnto []
  (oneOf? branches).getD (balanced alt branches)

/-- Any one of some expressions. What all of them start with comes before the choice. -/
def choice (items : List Regex) : Regex :=
  match items.foldr branchesOnto [] with
  | [r] => r
  | branches =>
    let start := commonStart branches
    if start.isEmpty then choiceOf branches
    else
      concat (start ++ [choiceOf (branches.map fun r => concat (r.elements.drop start.length))])

/-- An expression repeated. What matches nothing but the empty text is repeated once at most, and
neither no repetition nor exactly one is written as such. -/
def times (a : Regex) (least : Nat) (most : Option Nat) (shortest : Bool) : Regex :=
  let isEmpty := a.mostBytes == some 0
  let least := if isEmpty then min least 1 else least
  let most := if isEmpty then some (most.elim 1 (min · 1)) else most
  if least = 0 ∧ most = some 0 then empty
  else if least = 1 ∧ most = some 1 then a
  else repeated a least most shortest

end Regex

end Testbench
