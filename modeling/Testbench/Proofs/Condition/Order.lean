import Mathlib
import Testbench.Condition

/-!
# The order of operands

Each comparison decides for itself whether it is one of integers or one of texts, so that the
operands of a script are not on one line: `9 < 10`, `10 < 1a` and `1a < 9` all hold. What is left
of the laws of an order is that the six operators agree with each other, that `==` is an
equivalence, and that the integers and the other texts are each on a line of their own.

* `order_eq_cmp_integers`, `order_eq_cmp_texts` : the two ways to compare.
* `order_swap`, `order_eq_eq_iff`, `order_lt_trans`, `order_congr` : the laws of `order`.
* `eval_order`, `exists_eval_eq` : the six operators are answered from `order`.
* `comparisons_consistent` : **the six operators are consistent.**
-/

set_option autoImplicit false

namespace Testbench.Condition

/-- The operand is read as an integer, in decimal or hexadecimal, with or without a sign. What does
not fit into 63 bits is a text like any other. -/
def IsInteger (operand : String) : Prop := (Integer.read? operand).isSome

/-- Both operands are integers, or neither is one. -/
def SameKind (a b : String) : Prop := IsInteger a ↔ IsInteger b

variable {a b c : String} {m n : Int}

theorem isInteger_of_read? (h : Integer.read? a = some m) : IsInteger a := by
  rw [IsInteger, h]
  rfl

/-! ## How two operands stand to each other -/

theorem order_eq_cmp_integers (ha : Integer.read? a = some m) (hb : Integer.read? b = some n) :
    order a b = cmp m n := by
  rw [order, ha, hb]
  exact (cmp_eq_compareOfLessAndEq m n).symm

theorem order_eq_cmp_texts (h : ¬ (IsInteger a ∧ IsInteger b)) : order a b = cmp a b := by
  rw [order]
  split
  · rename_i ha hb
    exact absurd ⟨isInteger_of_read? ha, isInteger_of_read? hb⟩ h
  · exact (cmp_eq_compareOfLessAndEq a b).symm

/-- Either both operands are integers and compared as such, or they are compared as texts. -/
theorem order_cases (a b : String) :
    (∃ m n, Integer.read? a = some m ∧ Integer.read? b = some n ∧ order a b = cmp m n) ∨
      ¬ (IsInteger a ∧ IsInteger b) ∧ order a b = cmp a b := by
  by_cases h : IsInteger a ∧ IsInteger b
  · obtain ⟨m, hm⟩ := Option.isSome_iff_exists.mp h.1
    obtain ⟨n, hn⟩ := Option.isSome_iff_exists.mp h.2
    exact .inl ⟨m, n, hm, hn, order_eq_cmp_integers hm hn⟩
  · exact .inr ⟨h, order_eq_cmp_texts h⟩

theorem order_swap (a b : String) : order b a = (order a b).swap := by
  rcases order_cases a b with ⟨m, n, hm, hn, h⟩ | ⟨hkind, h⟩
  · rw [h, order_eq_cmp_integers hn hm, cmp_swap]
  · rw [h, order_eq_cmp_texts (mt And.symm hkind), cmp_swap]

/-- Operands are equal that are spellings of one integer, or the same text. -/
theorem order_eq_eq_iff :
    order a b = .eq ↔ a = b ∨ ∃ v, Integer.read? a = some v ∧ Integer.read? b = some v := by
  rcases order_cases a b with ⟨m, n, hm, hn, h⟩ | ⟨hkind, h⟩
  · rw [h, cmp_eq_eq_iff, hm, hn]
    constructor
    · rintro rfl
      exact .inr ⟨m, rfl, rfl⟩
    · rintro (rfl | ⟨v, hv, hv'⟩)
      · exact Option.some.inj (hm.symm.trans hn)
      · exact Option.some.inj (hv.trans hv'.symm)
  · rw [h, cmp_eq_eq_iff]
    refine ⟨.inl, fun heq => heq.resolve_right ?_⟩
    rintro ⟨v, ha, hb⟩
    exact hkind ⟨isInteger_of_read? ha, isInteger_of_read? hb⟩

theorem order_self (a : String) : order a a = .eq := order_eq_eq_iff.mpr (.inl rfl)

/-- What is equal to an integer is one. -/
theorem sameKind_of_order_eq (h : order a b = .eq) : SameKind a b := by
  rcases order_eq_eq_iff.mp h with rfl | ⟨v, ha, hb⟩
  · exact Iff.rfl
  · exact iff_of_true (isInteger_of_read? ha) (isInteger_of_read? hb)

/-- Within one kind, an operand can be replaced by an equal one. -/
theorem order_congr (h : order a b = .eq) (hkind : SameKind a c) : order a c = order b c := by
  rcases order_eq_eq_iff.mp h with rfl | ⟨v, ha, hb⟩
  · rfl
  · obtain ⟨n, hc⟩ := Option.isSome_iff_exists.mp (hkind.mp (isInteger_of_read? ha))
    rw [order_eq_cmp_integers ha hc, order_eq_cmp_integers hb hc]

/-- Equality goes from one operand to the next in all mixtures of integers and texts. -/
theorem order_eq_trans (hab : order a b = .eq) (hbc : order b c = .eq) : order a c = .eq := by
  have hkind : SameKind a c := (sameKind_of_order_eq hab).trans (sameKind_of_order_eq hbc)
  rw [order_congr hab hkind, hbc]

/-- The operands of one kind are on one line. -/
theorem order_lt_trans (hkind : SameKind a b) (hkind' : SameKind b c) (hab : order a b = .lt)
    (hbc : order b c = .lt) : order a c = .lt := by
  by_cases ha : IsInteger a
  · obtain ⟨m, hm⟩ := Option.isSome_iff_exists.mp ha
    obtain ⟨n, hn⟩ := Option.isSome_iff_exists.mp (hkind.mp ha)
    obtain ⟨k, hk⟩ := Option.isSome_iff_exists.mp (hkind'.mp (hkind.mp ha))
    rw [order_eq_cmp_integers hm hn, cmp_eq_lt_iff] at hab
    rw [order_eq_cmp_integers hn hk, cmp_eq_lt_iff] at hbc
    rw [order_eq_cmp_integers hm hk, cmp_eq_lt_iff]
    exact hab.trans hbc
  · have hb : ¬ IsInteger b := mt hkind.mpr ha
    rw [order_eq_cmp_texts (fun h => ha h.1), cmp_eq_lt_iff] at hab
    rw [order_eq_cmp_texts (fun h => hb h.1), cmp_eq_lt_iff] at hbc
    rw [order_eq_cmp_texts (fun h => ha h.1), cmp_eq_lt_iff]
    exact hab.trans hbc

/-! ## Conditions -/

/-- The operators that compare by order, as they are spelled. -/
def orderOperators : List String := ["==", "!=", "<", ">", "<=", ">="]

/-- The condition of two operands with an operator in between holds. -/
def Holds (lhs op rhs : String) : Prop := eval [lhs, op, rhs] = .ok true

/-- What each of the six operators asks of the order of its operands. -/
theorem eval_order (a b : String) :
    eval [a, "==", b] = .ok (order a b == .eq) ∧ eval [a, "!=", b] = .ok (order a b != .eq) ∧
      eval [a, "<", b] = .ok (order a b == .lt) ∧ eval [a, ">", b] = .ok (order a b == .gt) ∧
      eval [a, "<=", b] = .ok (order a b != .gt) ∧ eval [a, ">=", b] = .ok (order a b != .lt) :=
  ⟨rfl, rfl, rfl, rfl, rfl, rfl⟩

/-- The answer of one of the six operators depends on the order of its operands alone. -/
theorem exists_eval_eq {op : String} (h : op ∈ orderOperators) :
    ∃ asks : Ordering → Bool, ∀ a b, eval [a, op, b] = .ok (asks (order a b)) := by
  simp only [orderOperators, List.mem_cons, List.not_mem_nil, or_false] at h
  rcases h with rfl | rfl | rfl | rfl | rfl | rfl
  · exact ⟨(· == .eq), fun _ _ => rfl⟩
  · exact ⟨(· != .eq), fun _ _ => rfl⟩
  · exact ⟨(· == .lt), fun _ _ => rfl⟩
  · exact ⟨(· == .gt), fun _ _ => rfl⟩
  · exact ⟨(· != .gt), fun _ _ => rfl⟩
  · exact ⟨(· != .lt), fun _ _ => rfl⟩

theorem holds_equal_iff : Holds a "==" b ↔ order a b = .eq := by
  simp [Holds, eval_order]

theorem holds_less_iff : Holds a "<" b ↔ order a b = .lt := by
  simp [Holds, eval_order]

/-- Of the three, just one holds. -/
theorem trichotomy (a b : String) :
    (Holds a "<" b ∧ ¬ Holds a "==" b ∧ ¬ Holds a ">" b) ∨
      (¬ Holds a "<" b ∧ Holds a "==" b ∧ ¬ Holds a ">" b) ∨
      (¬ Holds a "<" b ∧ ¬ Holds a "==" b ∧ Holds a ">" b) := by
  simp only [Holds, eval_order]
  cases order a b <;> simp

/-- The other three operators deny these. -/
theorem negations (a b : String) :
    (Holds a "!=" b ↔ ¬ Holds a "==" b) ∧ (Holds a "<=" b ↔ ¬ Holds a ">" b) ∧
      (Holds a ">=" b ↔ ¬ Holds a "<" b) := by
  simp only [Holds, eval_order]
  cases order a b <;> simp

theorem swapped (a b : String) :
    (Holds b ">" a ↔ Holds a "<" b) ∧ (Holds b ">=" a ↔ Holds a "<=" b) ∧
      (Holds b "==" a ↔ Holds a "==" b) ∧ (Holds b "!=" a ↔ Holds a "!=" b) := by
  simp only [Holds, eval_order, order_swap a b]
  cases order a b <;> simp

/-- An operand can be replaced by an equal one on either side of the six operators, if the other
operand is of the same kind. -/
theorem eval_congr {op : String} (hop : op ∈ orderOperators) (h : order a b = .eq)
    (hkind : SameKind a c) :
    eval [a, op, c] = eval [b, op, c] ∧ eval [c, op, a] = eval [c, op, b] := by
  obtain ⟨asks, hasks⟩ := exists_eval_eq hop
  rw [hasks, hasks, hasks, hasks, order_swap a c, order_swap b c, order_congr h hkind]
  exact ⟨rfl, rfl⟩

/-- **The six operators are consistent**, whatever the operands. They have an answer, and of `<`,
`==` and `>` just one holds; the others deny these; and they go along with a swap of the operands.
Equality is that of integers in any spelling and of texts, and it is an equivalence. Among integers
alone, or other texts alone, `<` goes from one operand to the next, and equal operands have the same
answers. -/
theorem comparisons_consistent (a b c : String) :
    (∀ op ∈ orderOperators, ∃ answer, eval [a, op, b] = .ok answer) ∧
      ((Holds a "<" b ∧ ¬ Holds a "==" b ∧ ¬ Holds a ">" b) ∨
        (¬ Holds a "<" b ∧ Holds a "==" b ∧ ¬ Holds a ">" b) ∨
        (¬ Holds a "<" b ∧ ¬ Holds a "==" b ∧ Holds a ">" b)) ∧
      ((Holds a "!=" b ↔ ¬ Holds a "==" b) ∧ (Holds a "<=" b ↔ ¬ Holds a ">" b) ∧
        (Holds a ">=" b ↔ ¬ Holds a "<" b)) ∧
      ((Holds b ">" a ↔ Holds a "<" b) ∧ (Holds b ">=" a ↔ Holds a "<=" b) ∧
        (Holds b "==" a ↔ Holds a "==" b) ∧ (Holds b "!=" a ↔ Holds a "!=" b)) ∧
      (Holds a "==" b ↔
        a = b ∨ ∃ v, Integer.read? a = some v ∧ Integer.read? b = some v) ∧
      (Holds a "==" a ∧ (Holds a "==" b → Holds b "==" c → Holds a "==" c)) ∧
      ((IsInteger a ∧ IsInteger b ∧ IsInteger c) ∨
          (¬ IsInteger a ∧ ¬ IsInteger b ∧ ¬ IsInteger c) →
        (Holds a "<" b → Holds b "<" c → Holds a "<" c) ∧
          (Holds a "==" b → ∀ op ∈ orderOperators,
            eval [a, op, c] = eval [b, op, c] ∧ eval [c, op, a] = eval [c, op, b])) := by
  refine ⟨fun op hop => ?_, trichotomy a b, negations a b, swapped a b,
    holds_equal_iff.trans order_eq_eq_iff, ⟨?_, ?_⟩, fun hkinds => ?_⟩
  · obtain ⟨asks, hasks⟩ := exists_eval_eq hop
    exact ⟨_, hasks a b⟩
  · exact holds_equal_iff.mpr (order_self a)
  · simp only [holds_equal_iff]
    exact order_eq_trans
  · obtain ⟨hab, hbc⟩ : SameKind a b ∧ SameKind b c := by
      rcases hkinds with ⟨ha, hb, hc⟩ | ⟨ha, hb, hc⟩
      · exact ⟨iff_of_true ha hb, iff_of_true hb hc⟩
      · exact ⟨iff_of_false ha hb, iff_of_false hb hc⟩
    simp only [holds_equal_iff, holds_less_iff]
    exact ⟨order_lt_trans hab hbc, fun h op hop => eval_congr hop h (hab.trans hbc)⟩

/-- Three integers in three spellings. -/
theorem comparisons_consistent_spellings :
    (IsInteger "-0x1" ∧ IsInteger "+9" ∧ IsInteger "0xA") ∧
      Holds "-0x1" "<" "+9" ∧ Holds "+9" "<" "0xA" ∧ Holds "-0x1" "<" "0xA" := by
  have hkinds : IsInteger "-0x1" ∧ IsInteger "+9" ∧ IsInteger "0xA" := by
    unfold IsInteger
    decide +kernel
  have hless : Holds "-0x1" "<" "+9" ∧ Holds "+9" "<" "0xA" := by
    unfold Holds
    decide +kernel
  obtain ⟨-, -, -, -, -, -, hlaws⟩ := comparisons_consistent "-0x1" "+9" "0xA"
  exact ⟨hkinds, hless.1, hless.2, (hlaws (.inl hkinds)).1 hless.1 hless.2⟩

/-- In a mixture, `<` can go round. -/
example : Holds "9" "<" "10" ∧ Holds "10" "<" "1a" ∧ Holds "1a" "<" "9" := by
  unfold Holds
  decide +kernel

end Testbench.Condition
