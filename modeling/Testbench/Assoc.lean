/-!
# Looking up in lists of pairs

* `lookup_cons_ite` : the first pair decides, or the rest does.
* `lookup_filter_ne`, `lookup_filter_self` : what is left without the pairs of one key.
-/

namespace Testbench.Assoc

variable {α β : Type} [BEq α] [LawfulBEq α] [DecidableEq α]

theorem lookup_cons_ite (q k : α) (v : β) (l : List (α × β)) :
    ((k, v) :: l).lookup q = if q = k then some v else l.lookup q := by
  by_cases h : q = k
  · simp [h]
  · have hq : (q == k) = false := beq_eq_false_iff_ne.mpr h
    simp [List.lookup_cons, hq, h]

theorem lookup_filter_self (l : List (α × β)) (a : α) :
    (l.filter fun e => e.1 != a).lookup a = none := by
  induction l with
  | nil => rfl
  | cons e l ih =>
    obtain ⟨k, v⟩ := e
    by_cases h : k = a
    · simp [h, ih]
    · simp [h, lookup_cons_ite, ih, Ne.symm h]

theorem lookup_filter_ne (l : List (α × β)) {q a : α} (h : q ≠ a) :
    (l.filter fun e => e.1 != a).lookup q = l.lookup q := by
  induction l with
  | nil => rfl
  | cons e l ih =>
    obtain ⟨k, v⟩ := e
    by_cases hk : k = a
    · simp [hk, lookup_cons_ite, ih, h]
    · simp [hk, lookup_cons_ite, ih]

end Testbench.Assoc
