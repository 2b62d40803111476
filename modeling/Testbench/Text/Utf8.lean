import Testbench.Text.CharSet

/-!
# Sets of characters as sequences of byte runs

In UTF-8 a run of code points is a few sequences of byte runs: a text of one character belongs to
the run exactly when its bytes lie, one by one, in the runs of one of the sequences.

* `splitPoint?` : where a run has to be cut so that its parts need fewer sequences.
* `byteSequences` : the sequences of a run, in ascending order.
* `CharSet.byteSequences` : those of a set.
-/

namespace Testbench.Text

/-- Bytes between the first and the last one. -/
abbrev ByteRun := Nat × Nat

/-- The number of bytes that encode the code point `n`. -/
def utf8Width (n : Nat) : Nat :=
  if n < 0x80 then 1 else if n < 0x800 then 2 else if n < 0x10000 then 3 else 4

/-- The bytes that encode the code point `n`. -/
def utf8Bytes (n : Nat) : List Nat :=
  (String.utf8EncodeChar (Char.ofNat n)).map UInt8.toNat

/-- Where a run is cut because its ends differ above their last digits: `size` is the number of
code points that share their digits above those. The part that fills up a block at the beginning
is cut off before the one that starts a block at the end. -/
def blockPoint? (first last size : Nat) : Option (Nat × Nat) :=
  if first / size = last / size then none
  else if first % size ≠ 0 then
    let next := (first / size + 1) * size
    some (next - 1, next)
  else if last % size ≠ size - 1 then
    let next := last / size * size
    some (next - 1, next)
  else none

/-- The last code point before the cut and the first one after it: at the code points that are no
characters, then where the number of bytes grows, then at the ends of blocks. -/
def splitPoint? (first last : Nat) : Option (Nat × Nat) :=
  if first < 0xE000 ∧ 0xD7FF < last then some (0xD7FF, 0xE000)
  else if first ≤ 0x7F ∧ 0x7F < last then some (0x7F, 0x80)
  else if first ≤ 0x7FF ∧ 0x7FF < last then some (0x7FF, 0x800)
  else if first ≤ 0xFFFF ∧ 0xFFFF < last then some (0xFFFF, 0x10000)
  else if last ≤ 0x7F then none
  else
    (blockPoint? first last 0x40).or
      ((blockPoint? first last 0x1000).or (blockPoint? first last 0x40000))

/-- The sequences of a run; every cut takes one of `fuel`. -/
def byteSequencesFrom : (fuel : Nat) → (first last : Nat) → List (List ByteRun)
  | 0, _, _ => []
  | fuel + 1, first, last =>
    if last < first then []
    else
      match splitPoint? first last with
      | some (before, after) =>
        byteSequencesFrom fuel first before ++ byteSequencesFrom fuel after last
      | none => [(utf8Bytes first).zip (utf8Bytes last)]

/-- The sequences of a run. No part of it is cut more than ten times: once between characters,
three times by width and twice for each size of blocks. -/
def byteSequences (first last : Nat) : List (List ByteRun) := byteSequencesFrom 16 first last

/-- The sequences of a set. -/
def CharSet.byteSequences (s : CharSet) : List (List ByteRun) :=
  s.flatMap fun run => Text.byteSequences run.1 run.2

end Testbench.Text
