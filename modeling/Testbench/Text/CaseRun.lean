import Testbench.Text.CharSet

/-!
# Case mappings as runs of code points

* `CaseRun` : code points at a fixed distance from each other whose images lie equally far away.
* `mapByRuns` : the image of one character.
* `CaseRun.images`, `CaseRun.inverse` : a run seen as a map on sets, and the way back.
-/

namespace Testbench.Text

/-- Every `step`-th code point from `first` to `last` is mapped to the one `shift` further on. -/
structure CaseRun where
  first : Nat
  last : Nat
  step : Nat
  shift : Int
  deriving DecidableEq, Repr

namespace CaseRun

/-- Whether the run holds the code point `n`. -/
def covers (r : CaseRun) (n : Nat) : Bool :=
  decide (r.first ≤ n) && decide (n ≤ r.last) && (n - r.first) % r.step == 0

/-- The image of the code point `n`. -/
def image (r : CaseRun) (n : Nat) : Nat := (n + r.shift).toNat

/-- The image of `c`, if the run holds it. -/
def map? (r : CaseRun) (c : Char) : Option Char :=
  if r.covers c.toNat then some (Char.ofNat (r.image c.toNat)) else none

/-- The way back. -/
def inverse (r : CaseRun) : CaseRun := ⟨r.image r.first, r.image r.last, r.step, -r.shift⟩

/-- The images of the members of the run that lie between two code points. -/
def imagesIn (r : CaseRun) (bounds : Nat × Nat) : List (Nat × Nat) :=
  if bounds.2 < r.first ∨ r.last < bounds.1 then []
  else
    let start := max bounds.1 r.first
    let first := start + (r.step - (start - r.first) % r.step) % r.step
    let last := min bounds.2 r.last
    if last < first then []
    else if r.step = 1 then [(r.image first, r.image last)]
    else (List.range ((last - first) / r.step + 1)).map fun i =>
      (r.image (first + i * r.step), r.image (first + i * r.step))

/-- The images of those members of a set that the run holds. -/
def images (r : CaseRun) (s : CharSet) : List (Nat × Nat) := s.flatMap r.imagesIn

end CaseRun

/-- The image of `c` under the first run that holds it, otherwise `c` itself. -/
def mapByRuns (runs : List CaseRun) (c : Char) : Char :=
  (runs.findSome? fun r => r.map? c).getD c

end Testbench.Text
