import Testbench.Condition
import Testbench.Proofs.Text.Numerals

/-!
# Integers as they are written

An integer is written as white space, at most one sign, decimal digits or `0x` and digits of base
16, and white space. The reader gives just the integer that is written, if that lies strictly
between `-2 ^ 63` and `2 ^ 63`. The sign is read apart from a magnitude of 63 bits, and so the least
integer of 64 bits, which has no such magnitude, is not read in any of its spellings.

* `Magnitude`, `Numeral`, `Written` : how integers are written, and what they denote.
* `magnitude?_eq_some_iff`, `signed_eq_some_iff` : the reader without and with a sign.
* `written_toString` : how integers are printed is one way to write them.
* `read?_iff_written` : **what is read is what is written, within 63 bits.**
* `read?_least` : the least integer of 64 bits is left out.
-/

set_option autoImplicit false

namespace Testbench.Integer

open Text

/-! ## Spellings -/

/-- Digits without a sign, and the number that they denote. -/
inductive Magnitude : List Char → Nat → Prop where
  | decimal {s : List Char} {n : Nat} : Denotes 10 s n → Magnitude s n
  | hexadecimal {mark : Char} {s : List Char} {n : Nat} :
      mark = 'x' ∨ mark = 'X' → Denotes 16 s n → Magnitude ('0' :: mark :: s) n

/-- Digits behind at most one sign, and the integer that they denote. -/
inductive Numeral : List Char → Int → Prop where
  | unsigned {s : List Char} {n : Nat} : Magnitude s n → Numeral s n
  | plus {s : List Char} {n : Nat} : Magnitude s n → Numeral ('+' :: s) n
  | minus {s : List Char} {n : Nat} : Magnitude s n → Numeral ('-' :: s) (-(n : Int))

/-- The text is a numeral between white space. -/
def Written (s : String) (v : Int) : Prop :=
  ∃ before core after, s.toList = before ++ (core ++ after) ∧
    (∀ c ∈ before ++ after, isBlank c = true) ∧ Numeral core v

variable {s : List Char} {n : Nat} {v : Int}

theorem Magnitude.isBlank_eq_false (h : Magnitude s n) : ∀ c ∈ s, isBlank c = false := by
  cases h with
  | decimal h => exact h.isBlank_eq_false (by decide)
  | @hexadecimal mark digits _ hmark h =>
    have hblank : isBlank mark = false := by rcases hmark with rfl | rfl <;> rfl
    have hrest : ∀ c ∈ mark :: digits, isBlank c = false :=
      List.forall_mem_cons.mpr ⟨hblank, h.isBlank_eq_false (by decide)⟩
    exact List.forall_mem_cons.mpr ⟨rfl, hrest⟩

/-- There is no white space inside a numeral. -/
theorem Numeral.isBlank_eq_false (h : Numeral s v) : ∀ c ∈ s, isBlank c = false := by
  cases h with
  | unsigned h => exact h.isBlank_eq_false
  | plus h => exact List.forall_mem_cons.mpr ⟨rfl, h.isBlank_eq_false⟩
  | minus h => exact List.forall_mem_cons.mpr ⟨rfl, h.isBlank_eq_false⟩

/-- A numeral is what is left of the text when the white space around it is gone. -/
theorem written_iff {t : String} : Written t v ↔ Numeral (trim t.toList) v := by
  constructor
  · rintro ⟨before, core, after, ht, hblank, hcore⟩
    rwa [ht, trim_between hblank hcore.isBlank_eq_false]
  · intro h
    obtain ⟨before, after, ht, hblank⟩ := exists_trim t.toList
    exact ⟨before, _, after, ht, hblank, h⟩

/-! ## Digits -/

/-- Decimal digits start with a digit, and so do those of base 16. -/
theorem Magnitude.exists_hexValue? {c : Char} (h : Magnitude (c :: s) n) :
    ∃ d, hexValue? c = some d := by
  cases h with
  | decimal h => exact h.exists_hexValue? (by decide) c (List.mem_cons_self ..)
  | hexadecimal => exact ⟨0, rfl⟩

/-- A mark of base 16 is no decimal digit. -/
theorem magnitude_marked_iff {mark : Char} (hmark : mark = 'x' ∨ mark = 'X') :
    Magnitude ('0' :: mark :: s) n ↔ Denotes 16 s n := by
  refine ⟨fun h => ?_, .hexadecimal hmark⟩
  cases h with
  | decimal h =>
    have hnone : hexValue? mark = none := by rcases hmark with rfl | rfl <;> rfl
    obtain ⟨d, hd⟩ := h.exists_hexValue? (by decide) mark (by simp)
    rw [hnone] at hd
    cases hd
  | hexadecimal _ h => exact h

theorem magnitude?_eq_some_iff : magnitude? s = some n ↔ Magnitude s n ∧ n ≤ maxMagnitude := by
  by_cases h : ∃ mark rest, (mark = 'x' ∨ mark = 'X') ∧ s = '0' :: mark :: rest
  · obtain ⟨mark, rest, hmark, rfl⟩ := h
    have hread : magnitude? ('0' :: mark :: rest) = readNatUpTo? 16 maxMagnitude rest := by
      rcases hmark with rfl | rfl <;> rfl
    rw [hread, readNatUpTo?_eq_some_iff (by decide) (by decide), magnitude_marked_iff hmark]
  · have hread : magnitude? s = readNatUpTo? 10 maxMagnitude s := by
      unfold magnitude?
      split
      · exact absurd ⟨_, _, .inl rfl, rfl⟩ h
      · exact absurd ⟨_, _, .inr rfl, rfl⟩ h
      · rfl
    have hdecimal : Magnitude s n ↔ Denotes 10 s n := by
      refine ⟨fun hm => ?_, .decimal⟩
      cases hm with
      | decimal hm => exact hm
      | hexadecimal hmark _ => exact absurd ⟨_, _, hmark, rfl⟩ h
    rw [hread, readNatUpTo?_eq_some_iff (by decide) (by decide), hdecimal]

/-! ## Signs -/

theorem numeral_minus_iff : Numeral ('-' :: s) v ↔ ∃ n : Nat, Magnitude s n ∧ v = -(n : Int) := by
  constructor
  · intro h
    cases h with
    | unsigned h =>
      obtain ⟨d, hd⟩ := h.exists_hexValue?
      cases hd
    | minus h => exact ⟨_, h, rfl⟩
  · rintro ⟨n, h, rfl⟩
    exact .minus h

theorem numeral_plus_iff : Numeral ('+' :: s) v ↔ ∃ n : Nat, Magnitude s n ∧ v = n := by
  constructor
  · intro h
    cases h with
    | unsigned h =>
      obtain ⟨d, hd⟩ := h.exists_hexValue?
      cases hd
    | plus h => exact ⟨_, h, rfl⟩
  · rintro ⟨n, h, rfl⟩
    exact .plus h

theorem numeral_unsigned_iff (hminus : s.head? ≠ some '-') (hplus : s.head? ≠ some '+') :
    Numeral s v ↔ ∃ n : Nat, Magnitude s n ∧ v = n := by
  constructor
  · intro h
    cases h with
    | unsigned h => exact ⟨_, h, rfl⟩
    | plus => exact absurd rfl hplus
    | minus => exact absurd rfl hminus
  · rintro ⟨n, h, rfl⟩
    exact .unsigned h

/-- The integer that digits denote behind the sign of a text. -/
def signed (negative : Bool) (n : Nat) : Int := if negative then -(n : Int) else n

/-- The sign that is split off is the one that a numeral may have. -/
theorem numeral_iff_splitSign :
    Numeral s v ↔ ∃ n, Magnitude (splitSign s).2 n ∧ v = signed (splitSign s).1 n := by
  unfold splitSign
  split
  · exact numeral_minus_iff
  · exact numeral_plus_iff
  · rename_i hminus hplus
    apply numeral_unsigned_iff
    · intro h
      obtain ⟨rest, rfl⟩ := List.head?_eq_some_iff.mp h
      exact hminus rest rfl
    · intro h
      obtain ⟨rest, rfl⟩ := List.head?_eq_some_iff.mp h
      exact hplus rest rfl

/-- A magnitude of 63 bits, with a sign. -/
theorem le_maxMagnitude_iff (negative : Bool) :
    n ≤ maxMagnitude ↔ -2 ^ 63 < signed negative n ∧ signed negative n < 2 ^ 63 := by
  cases negative <;> simp only [signed, maxMagnitude, Bool.false_eq_true, if_false, if_true] <;>
    omega

theorem signed_eq_some_iff :
    (magnitude? (splitSign s).2).map (signed (splitSign s).1) = some v ↔
      Numeral s v ∧ -2 ^ 63 < v ∧ v < 2 ^ 63 := by
  rw [numeral_iff_splitSign, Option.map_eq_some_iff]
  constructor
  · rintro ⟨n, hn, rfl⟩
    obtain ⟨hm, hle⟩ := magnitude?_eq_some_iff.mp hn
    exact ⟨⟨n, hm, rfl⟩, (le_maxMagnitude_iff _).mp hle⟩
  · rintro ⟨⟨n, hm, rfl⟩, hrange⟩
    exact ⟨n, magnitude?_eq_some_iff.mpr ⟨hm, (le_maxMagnitude_iff _).mpr hrange⟩, rfl⟩

/-! ## Texts -/

/-- How an integer is printed is one way to write it. -/
theorem written_toString (v : Int) : Written (toString v) v := by
  have hdigits (n : Nat) : Magnitude (Nat.toDigits 10 n) n :=
    .decimal ((readNat?_eq_some_iff (by decide)).mp (readNat?_toDigits n))
  have hnumeral : Numeral (toString v).toList v := by
    cases v with
    | ofNat n =>
      have htext : (toString (Int.ofNat n)).toList = Nat.toDigits 10 n := String.toList_ofList
      rw [htext]
      exact .unsigned (hdigits n)
    | negSucc n =>
      have htext : (toString (Int.negSucc n)).toList = '-' :: Nat.toDigits 10 (n + 1) := by
        have happ : toString (Int.negSucc n) = "-" ++ String.ofList (Nat.toDigits 10 (n + 1)) := rfl
        simp [happ]
      rw [htext]
      exact .minus (hdigits (n + 1))
  refine ⟨[], (toString v).toList, [], by simp, ?_, hnumeral⟩
  exact fun c hc => absurd hc List.not_mem_nil

theorem read?_eq (s : String) :
    read? s = (magnitude? (splitSign (trim s.toList)).2).map
      (signed (splitSign (trim s.toList)).1) := by
  unfold read?
  rcases splitSign (trim s.toList) with ⟨negative, digits⟩
  dsimp only
  cases magnitude? digits <;> rfl

/-- **What is read is what is written, within 63 bits.** A text is read as an integer just if it is
a numeral between white space that denotes this integer, and the integer lies strictly between
`-2 ^ 63` and `2 ^ 63`. Just the integers in that range are read back after they are printed. -/
theorem read?_iff_written (s : String) (v : Int) :
    (read? s = some v ↔ Written s v ∧ -2 ^ 63 < v ∧ v < 2 ^ 63) ∧
      (read? (toString v) = some v ↔ -2 ^ 63 < v ∧ v < 2 ^ 63) := by
  have hread (t : String) : read? t = some v ↔ Written t v ∧ -2 ^ 63 < v ∧ v < 2 ^ 63 := by
    rw [written_iff, ← signed_eq_some_iff, read?_eq]
  refine ⟨hread s, ?_⟩
  rw [hread]
  exact and_iff_right (written_toString v)

/-- The least integer of 64 bits is not read, though it is written; as a text it is greater than
`-1`. -/
theorem read?_least :
    Written "-9223372036854775808" (-2 ^ 63) ∧ read? "-9223372036854775808" = none ∧
      Condition.order "-9223372036854775808" "-1" = .gt := by
  have hwritten : Written "-9223372036854775808" (-2 ^ 63) := by
    have h := written_toString (-2 ^ 63)
    have htext : toString (-2 ^ 63 : Int) = "-9223372036854775808" := by decide +kernel
    rwa [htext] at h
  exact ⟨hwritten, by decide +kernel, by decide +kernel⟩

end Testbench.Integer
