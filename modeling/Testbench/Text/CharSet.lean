/-!
# Sets of characters as runs of code points

* `CharSet` : the runs, first and last code point of each, in ascending order.
* `CharSet.contains` : membership; the search ends at the first run that starts too late.
* `CharSet.ofRuns` : the set covered by runs in any order.
* `CharSet.union`, `complement`, `inter`, `diff`, `symmDiff` : the operations on sets.
* `CharSet.contains_iff` : a character belongs to ascending runs exactly when one covers it.
-/

namespace Testbench.Text

/-- A set of characters, as ascending runs of code points given by their first and last member. -/
abbrev CharSet := List (Nat × Nat)

namespace CharSet

/-- Whether ascending runs cover the code point `n`. -/
def covers : CharSet → (n : Nat) → Bool
  | [], _ => false
  | (first, last) :: rest, n => decide (first ≤ n) && (decide (n ≤ last) || covers rest n)

/-- Whether `c` is a member. -/
def contains (s : CharSet) (c : Char) : Bool := s.covers c.toNat

/-- The one character `c`. -/
def single (c : Char) : CharSet := [(c.toNat, c.toNat)]

/-- One run more, which starts no earlier than the last one, after runs that are kept backwards. -/
def join (runs : CharSet) (run : Nat × Nat) : CharSet :=
  match runs with
  | [] => [run]
  | (first, last) :: rest =>
    if run.1 ≤ last + 1 then (first, max last run.2) :: rest else run :: (first, last) :: rest

/-- The set that the runs cover, whatever their order. -/
def ofRuns (runs : List (Nat × Nat)) : CharSet :=
  ((runs.mergeSort fun r t => decide (r.1 ≤ t.1)).foldl join []).reverse

def union (a b : CharSet) : CharSet := ofRuns (a ++ b)

/-- The greatest code point. -/
def lastPoint : Nat := 0x10FFFF

/-- The code point of the character after that of `n`; there are no characters from `0xD800` to
`0xDFFF`. -/
def pointAfter (n : Nat) : Nat := if n = 0xD7FF then 0xE000 else n + 1

/-- The code point of the character before that of `n`. -/
def pointBefore (n : Nat) : Nat := if n = 0xE000 then 0xD7FF else n - 1

/-- The gaps between runs and after the last one, from `next` on, after `gaps`, which are kept
backwards. -/
def gapsFrom (gaps : CharSet) (next : Nat) : CharSet → CharSet
  | [] => (if next ≤ lastPoint then (next, lastPoint) :: gaps else gaps).reverse
  | (first, last) :: rest =>
    gapsFrom (if next < first then (next, pointBefore first) :: gaps else gaps) (pointAfter last)
      rest

/-- Every other character. -/
def complement (s : CharSet) : CharSet := gapsFrom [] 0 s

/-- The complement, if `negated`. -/
def negateIf (negated : Bool) (s : CharSet) : CharSet := if negated then s.complement else s

def inter (a b : CharSet) : CharSet := (a.complement.union b.complement).complement

def diff (a b : CharSet) : CharSet := (a.complement.union b).complement

def symmDiff (a b : CharSet) : CharSet := (a.diff b).union (b.diff a)

/-- The only member, if there is just one. -/
def toChar? (s : CharSet) : Option Char :=
  match s with
  | [(first, last)] => if first = last then some (Char.ofNat first) else none
  | _ => none

/-- Whether all members are below `0x80`. -/
def isAscii (s : CharSet) : Bool := s.all fun run => decide (run.2 < 0x80)

@[simp] theorem contains_nil (c : Char) : contains [] c = false := rfl

/-- Searching no further than the first run that starts too late misses nothing. -/
theorem covers_iff {s : CharSet} (h : s.Pairwise fun r t => r.1 ≤ t.1) (n : Nat) :
    s.covers n = true ↔ ∃ run ∈ s, run.1 ≤ n ∧ n ≤ run.2 := by
  induction s with
  | nil => simp [covers]
  | cons run rest ih =>
    obtain ⟨before, h⟩ := List.pairwise_cons.mp h
    simp only [covers, Bool.and_eq_true, Bool.or_eq_true, decide_eq_true_eq, ih h,
      List.mem_cons]
    constructor
    · rintro ⟨first, last | ⟨t, mem, covered⟩⟩
      · exact ⟨run, .inl rfl, first, last⟩
      · exact ⟨t, .inr mem, covered⟩
    · rintro ⟨t, rfl | mem, first, last⟩
      · exact ⟨first, .inl last⟩
      · exact ⟨Nat.le_trans (before t mem) first, .inr ⟨t, mem, first, last⟩⟩

theorem contains_iff {s : CharSet} (h : s.Pairwise fun r t => r.1 ≤ t.1) (c : Char) :
    s.contains c = true ↔ ∃ run ∈ s, run.1 ≤ c.toNat ∧ c.toNat ≤ run.2 :=
  covers_iff h c.toNat

end CharSet

end Testbench.Text
