/-!
# Numbers written in digits

* `digitValue?` : the value of a digit in a base up to 16.
* `readNat?` : the number that a non-empty string of digits denotes.
* `readNatUpTo?` : the same for numbers up to a greatest one, however many digits there are.
* `readNat?_append_singleton` : one more digit multiplies by the base and adds.
* `readNatUpTo?_eq` : the numbers up to the greatest one are those that `readNat?` reads.
-/

namespace Testbench.Text

/-- The value of the digit `c` in base 16, either case. -/
def hexValue? (c : Char) : Option Nat :=
  if '0' ≤ c ∧ c ≤ '9' then some (c.toNat - 48)
  else if 'a' ≤ c ∧ c ≤ 'f' then some (c.toNat - 87)
  else if 'A' ≤ c ∧ c ≤ 'F' then some (c.toNat - 55)
  else none

/-- The value of the digit `c` in `base`, which is at most 16. -/
def digitValue? (base : Nat) (c : Char) : Option Nat :=
  (hexValue? c).filter (· < base)

/-- One digit more after a number read so far. -/
def pushDigit (base : Nat) (n : Option Nat) (c : Char) : Option Nat :=
  n.bind fun n => (digitValue? base c).map (n * base + ·)

/-- The number that the digits `s` denote in `base`; at least one digit is asked for. -/
def readNat? (base : Nat) (s : List Char) : Option Nat :=
  if s.isEmpty then none else s.foldl (pushDigit base) (some 0)

@[simp] theorem readNat?_nil (base : Nat) : readNat? base [] = none := rfl

theorem readNat?_append_singleton (base : Nat) (s : List Char) (c : Char) :
    readNat? base (s ++ [c]) =
      (if s.isEmpty then some 0 else readNat? base s).bind fun n =>
        (digitValue? base c).map (n * base + ·) := by
  cases s <;> simp [readNat?, pushDigit]

/-- One digit more after a number read so far, which is not counted beyond `most + 1`. -/
def pushDigitUpTo (base most : Nat) (n : Option Nat) (c : Char) : Option Nat :=
  n.bind fun n => (digitValue? base c).map fun d => min (n * base + d) (most + 1)

/-- The number that the digits `s` denote in `base`, if it is at most `most`. The number read so far
never grows large. -/
def readNatUpTo? (base most : Nat) (s : List Char) : Option Nat :=
  if s.isEmpty then none else (s.foldl (pushDigitUpTo base most) (some 0)).filter (· ≤ most)

theorem foldl_none {α β : Type} (f : Option α → β → Option α) (hf : ∀ b, f none b = none)
    (s : List β) : s.foldl f none = none := by
  induction s with
  | nil => rfl
  | cons b s ih => simpa [hf] using ih

theorem foldl_pushDigitUpTo {base : Nat} (hb : 0 < base) (most : Nat) (s : List Char) (n : Nat) :
    s.foldl (pushDigitUpTo base most) (some (min n (most + 1))) =
      (s.foldl (pushDigit base) (some n)).map (min · (most + 1)) := by
  induction s generalizing n with
  | nil => rfl
  | cons c s ih =>
    cases hc : digitValue? base c with
    | none =>
      have none₁ := foldl_none (pushDigitUpTo base most) (fun _ => rfl) s
      have none₂ := foldl_none (pushDigit base) (fun _ => rfl) s
      simp [pushDigitUpTo, pushDigit, hc] at none₁ none₂ ⊢
      simp [none₁, none₂]
    | some d =>
      have step : min (min n (most + 1) * base + d) (most + 1) = min (n * base + d) (most + 1) := by
        by_cases h : n ≤ most + 1
        · rw [Nat.min_eq_left h]
        · have h1 : most + 1 ≤ (most + 1) * base := Nat.le_mul_of_pos_right _ hb
          have h2 : n ≤ n * base := Nat.le_mul_of_pos_right _ hb
          rw [Nat.min_eq_right (by omega : most + 1 ≤ n)]
          omega
      simpa [pushDigitUpTo, pushDigit, hc, step] using ih (n * base + d)

theorem readNatUpTo?_eq {base : Nat} (hb : 0 < base) (most : Nat) (s : List Char) :
    readNatUpTo? base most s = (readNat? base s).filter (· ≤ most) := by
  have h := foldl_pushDigitUpTo hb most s 0
  simp only [Nat.zero_min] at h
  unfold readNatUpTo? readNat?
  split
  · rfl
  · rw [h]
    cases s.foldl (pushDigit base) (some 0) with
    | none => rfl
    | some n =>
      by_cases hn : n ≤ most
      · have : min n (most + 1) = n := by omega
        simp [Option.filter, this]
      · have : ¬ min n (most + 1) ≤ most := by omega
        simp [Option.filter, hn, this]

end Testbench.Text
