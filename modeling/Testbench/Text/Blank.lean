import Testbench.Text.CharSet

/-!
# White space at the ends of a text

* `isBlank` : the property White_Space, the same set in every version of Unicode since 6.3.
* `trim` : a text without the white space at its two ends.
* `trim_trim` : trimming once is enough.
-/

namespace Testbench.Text

/-- The property White_Space. -/
def blanks : CharSet :=
  [(0x9, 0xD), (0x20, 0x20), (0x85, 0x85), (0xA0, 0xA0), (0x1680, 0x1680), (0x2000, 0x200A),
   (0x2028, 0x2029), (0x202F, 0x202F), (0x205F, 0x205F), (0x3000, 0x3000)]

def isBlank (c : Char) : Bool := blanks.contains c

/-- The text without the members of `p` at its end. -/
def dropEndWhile (p : Char → Bool) (s : List Char) : List Char :=
  (s.reverse.dropWhile p).reverse

/-- The text without white space at either end. -/
def trim (s : List Char) : List Char := dropEndWhile isBlank (s.dropWhile isBlank)

/-- `trim` on strings. -/
def trimmed (s : String) : String := String.ofList (trim s.toList)

@[simp] theorem trim_nil : trim [] = [] := rfl

theorem dropWhile_dropWhile (p : Char → Bool) (s : List Char) :
    (s.dropWhile p).dropWhile p = s.dropWhile p := by
  induction s with
  | nil => rfl
  | cons c s ih => by_cases h : p c <;> simp [h, ih]

theorem dropEndWhile_dropEndWhile (p : Char → Bool) (s : List Char) :
    dropEndWhile p (dropEndWhile p s) = dropEndWhile p s := by
  simp [dropEndWhile, dropWhile_dropWhile]

/-- What is left after dropping at the end still starts as the text did. -/
theorem dropEndWhile_prefix (p : Char → Bool) (s : List Char) : dropEndWhile p s <+: s := by
  have h : s.reverse.dropWhile p <:+ s.reverse := List.dropWhile_suffix p
  simpa [dropEndWhile] using List.reverse_prefix.mpr h

theorem dropWhile_dropEndWhile {p : Char → Bool} {s : List Char} (h : s.dropWhile p = s) :
    (dropEndWhile p s).dropWhile p = dropEndWhile p s := by
  obtain ⟨rest, hs⟩ := dropEndWhile_prefix p s
  cases hd : dropEndWhile p s with
  | nil => rfl
  | cons c t =>
    rw [hd] at hs
    have hc : p c = false := by
      rw [← hs] at h
      by_cases hp : p c
      · exfalso
        have hl := congrArg List.length h
        simp only [List.cons_append, List.dropWhile_cons, hp, if_true] at hl
        have := (List.dropWhile_suffix p (l := t ++ rest)).length_le
        simp only [List.length_append, List.length_cons] at hl this
        omega
      · simpa using hp
    simp [hc]

theorem trim_trim (s : List Char) : trim (trim s) = trim s := by
  unfold trim
  rw [dropWhile_dropEndWhile (dropWhile_dropWhile isBlank s), dropEndWhile_dropEndWhile]

end Testbench.Text
