import Mathlib
import Testbench.Text.Blank
import Testbench.Text.Digits

/-!
# Numerals and the white space around them

What a text of digits denotes is said by the positional value of its digits, most significant digit
first. The readers of numbers agree with that, however long the text and whatever its leading zeros.

* `exists_trim`, `trim_between` : a text is its trimmed text and the white space around it.
* `hexValue?_eq_some_iff_toLower` : a digit is its letter or figure, in either case.
* `Denotes` : the number that digits denote in a base.
* `readNat?_eq_some_iff`, `readNatUpTo?_eq_some_iff` : **the readers of digits read just that.**
* `readNat?_toDigits` : the digits of a number are read as that number.
-/

set_option autoImplicit false

namespace Testbench.Text

/-! ## White space -/

/-- A text is its trimmed text and the white space around it. -/
theorem exists_trim (s : List Char) :
    ∃ before after, s = before ++ (trim s ++ after) ∧ ∀ c ∈ before ++ after, isBlank c = true := by
  refine ⟨s.takeWhile isBlank, ((s.dropWhile isBlank).reverse.takeWhile isBlank).reverse, ?_, ?_⟩
  · have hend := congrArg List.reverse
      (@List.takeWhile_append_dropWhile _ isBlank (s.dropWhile isBlank).reverse)
    rw [List.reverse_append, List.reverse_reverse] at hend
    rw [trim, dropEndWhile, hend, List.takeWhile_append_dropWhile]
  · intro c hc
    rcases List.mem_append.mp hc with hc | hc
    · exact List.all_eq_true.mp List.all_takeWhile c hc
    · exact List.all_eq_true.mp List.all_takeWhile c (List.mem_reverse.mp hc)

/-- In front of what holds no member of `p`, all that is dropped is what only holds members. -/
theorem dropWhile_between {p : Char → Bool} {before core after : List Char}
    (hbefore : ∀ c ∈ before, p c = true) (hafter : ∀ c ∈ after, p c = true)
    (hcore : ∀ c ∈ core, p c = false) :
    (before ++ (core ++ after)).dropWhile p = if core = [] then [] else core ++ after := by
  rw [List.dropWhile_append_of_pos hbefore]
  cases core with
  | nil => simpa [List.dropWhile_eq_nil_iff] using hafter
  | cons c core => simp [hcore c (List.mem_cons_self ..)]

/-- White space around a text without white space is all that trimming takes away. -/
theorem trim_between {before core after : List Char}
    (hblank : ∀ c ∈ before ++ after, isBlank c = true) (hcore : ∀ c ∈ core, isBlank c = false) :
    trim (before ++ (core ++ after)) = core := by
  have hbefore : ∀ c ∈ before, isBlank c = true := fun c hc =>
    hblank c (List.mem_append_left _ hc)
  have hafter : ∀ c ∈ after, isBlank c = true := fun c hc => hblank c (List.mem_append_right _ hc)
  rw [trim, dropWhile_between hbefore hafter hcore]
  by_cases h : core = []
  · simp [h, dropEndWhile]
  · have hback := @dropWhile_between isBlank after.reverse core.reverse []
      (fun c hc => hafter c (List.mem_reverse.mp hc)) (fun c hc => absurd hc List.not_mem_nil)
      (fun c hc => hcore c (List.mem_reverse.mp hc))
    rw [if_neg (mt List.reverse_eq_nil_iff.mp h), List.append_nil] at hback
    rw [if_neg h, dropEndWhile, List.reverse_append, hback, List.reverse_reverse]

/-- A text without white space has none at its ends. -/
theorem trim_eq_self {s : List Char} (h : ∀ c ∈ s, isBlank c = false) : trim s = s := by
  have htrim := @trim_between [] s [] (fun c hc => absurd hc List.not_mem_nil) h
  rwa [List.nil_append, List.append_nil] at htrim

/-! ## Digits -/

theorem toNat_lt_of_hexValue? {c : Char} {d : Nat} (h : hexValue? c = some d) : c.toNat < 128 := by
  have le {a b : Char} (hab : a ≤ b) : a.toNat ≤ b.toNat := hab
  unfold hexValue? at h
  split at h
  · rename_i hc
    exact Nat.lt_of_le_of_lt (le hc.2) (by decide)
  split at h
  · rename_i hc
    exact Nat.lt_of_le_of_lt (le hc.2) (by decide)
  split at h
  · rename_i hc
    exact Nat.lt_of_le_of_lt (le hc.2) (by decide)
  · cases h

theorem toNat_lt_of_toLower {c : Char} (h : c.toLower.toNat < 128) : c.toNat < 128 := by
  by_contra hc
  have hsame : c.toLower = c := by
    unfold Char.toLower
    exact dif_neg fun hupper => hc (Nat.lt_of_le_of_lt hupper.2 (by decide))
  exact hc (hsame ▸ h)

theorem hexValue?_digitChar : ∀ d < 16, hexValue? (Nat.digitChar d) = some d := by decide

theorem hexValue?_eq_some_iff_toLower {c : Char} {d : Nat} :
    hexValue? c = some d ↔ d < 16 ∧ c.toLower = Nat.digitChar d := by
  constructor
  · intro h
    have table : ∀ n < 128, ∀ d ∈ hexValue? (Char.ofNat n),
        d < 16 ∧ (Char.ofNat n).toLower = Nat.digitChar d := by decide
    have hd := table c.toNat (toNat_lt_of_hexValue? h) d
    rw [Char.ofNat_toNat] at hd
    exact hd h
  · rintro ⟨hd, hc⟩
    have hsmall : ∀ d < 16, (Nat.digitChar d).toNat < 128 := by decide
    have table : ∀ n < 128, hexValue? (Char.ofNat n) = hexValue? (Char.ofNat n).toLower := by
      decide
    have hcase := table c.toNat (toNat_lt_of_toLower (hc ▸ hsmall d hd))
    rw [Char.ofNat_toNat] at hcase
    rw [hcase, hc, hexValue?_digitChar d hd]

/-- The character is a digit in `base`, in either case, and `d` is its value. -/
def IsDigitIn (base : Nat) (c : Char) (d : Nat) : Prop := d < base ∧ c.toLower = Nat.digitChar d

variable {base : Nat} {c : Char} {s : List Char} {n : Nat}

theorem digitValue?_eq_some_iff (hb : base ≤ 16) {d : Nat} :
    digitValue? base c = some d ↔ IsDigitIn base c d := by
  rw [digitValue?, Option.filter_eq_some_iff, hexValue?_eq_some_iff_toLower, decide_eq_true_eq]
  constructor
  · rintro ⟨⟨-, hc⟩, hd⟩
    exact ⟨hd, hc⟩
  · rintro ⟨hd, hc⟩
    exact ⟨⟨Nat.lt_of_lt_of_le hd hb, hc⟩, hd⟩

theorem IsDigitIn.hexValue?_eq (hb : base ≤ 16) {d : Nat} (h : IsDigitIn base c d) :
    hexValue? c = some d :=
  hexValue?_eq_some_iff_toLower.mpr ⟨Nat.lt_of_lt_of_le h.1 hb, h.2⟩

/-- Digits are no white space. -/
theorem isBlank_eq_false_of_hexValue? {d : Nat} (h : hexValue? c = some d) : isBlank c = false := by
  have table : ∀ n < 128, (hexValue? (Char.ofNat n)).isSome = true →
      isBlank (Char.ofNat n) = false := by decide
  have hblank := table c.toNat (toNat_lt_of_hexValue? h)
  rw [Char.ofNat_toNat, h] at hblank
  exact hblank rfl

/-! ## Numbers -/

/-- The digits denote the number in `base`; there is at least one. -/
def Denotes (base : Nat) (s : List Char) (n : Nat) : Prop :=
  s ≠ [] ∧ ∃ values, List.Forall₂ (IsDigitIn base) s values ∧ n = Nat.ofDigits base values.reverse

/-- More digits after a number read so far move it up by as many places. -/
theorem foldl_pushDigit_eq_some_iff (hb : base ≤ 16) (m : Nat) :
    s.foldl (pushDigit base) (some m) = some n ↔ ∃ values, List.Forall₂ (IsDigitIn base) s values ∧
      n = Nat.ofDigits base values.reverse + base ^ values.length * m := by
  induction s generalizing m with
  | nil => simp [eq_comm]
  | cons c s ih =>
    simp only [List.foldl_cons, pushDigit, Option.bind_some, List.forall₂_cons_left_iff]
    cases hc : digitValue? base c with
    | none =>
      have hnone : s.foldl (pushDigit base) none = none := foldl_none _ (fun _ => rfl) s
      simp only [Option.map_none, hnone, reduceCtorEq, false_iff]
      rintro ⟨_, ⟨d, values, hd, -, -⟩, -⟩
      rw [(digitValue?_eq_some_iff hb).mpr hd] at hc
      cases hc
    | some d =>
      rw [Option.map_some, ih]
      have hvalue (values : List Nat) :
          Nat.ofDigits base values.reverse + base ^ values.length * (m * base + d) =
            Nat.ofDigits base (d :: values).reverse + base ^ (d :: values).length * m := by
        rw [List.reverse_cons, Nat.ofDigits_append, Nat.ofDigits_singleton, List.length_reverse,
          List.length_cons]
        ring
      constructor
      · rintro ⟨values, hvalues, rfl⟩
        exact ⟨d :: values, ⟨d, values, (digitValue?_eq_some_iff hb).mp hc, hvalues, rfl⟩,
          hvalue values⟩
      · rintro ⟨_, ⟨d', values, hd, hvalues, rfl⟩, rfl⟩
        obtain rfl : d = d' := by
          rw [(digitValue?_eq_some_iff hb).mpr hd] at hc
          exact (Option.some.inj hc).symm
        exact ⟨values, hvalues, (hvalue values).symm⟩

/-- **The reader of digits reads what they denote**, and nothing else. -/
theorem readNat?_eq_some_iff (hb : base ≤ 16) : readNat? base s = some n ↔ Denotes base s n := by
  cases s with
  | nil => simp [Denotes]
  | cons c s =>
    have hread : readNat? base (c :: s) = (c :: s).foldl (pushDigit base) (some 0) := rfl
    rw [hread, foldl_pushDigit_eq_some_iff hb]
    simp [Denotes]

theorem readNatUpTo?_eq_some_iff (h0 : 0 < base) (hb : base ≤ 16) {most : Nat} :
    readNatUpTo? base most s = some n ↔ Denotes base s n ∧ n ≤ most := by
  rw [readNatUpTo?_eq h0, Option.filter_eq_some_iff, readNat?_eq_some_iff hb, decide_eq_true_eq]

theorem digitValue?_digitChar : ∀ d < 10, digitValue? 10 (Nat.digitChar d) = some d := by decide

theorem readNat?_toDigits (n : Nat) : readNat? 10 (Nat.toDigits 10 n) = some n := by
  induction n using Nat.strongRecOn with
  | ind n ih =>
    by_cases hn : n < 10
    · rw [Nat.toDigits_of_lt_base hn, ← List.nil_append [_], readNat?_append_singleton,
        digitValue?_digitChar n hn]
      simp
    · rw [Nat.not_lt] at hn
      have hlt : n / 10 < n := by omega
      have hne : (Nat.toDigits 10 (n / 10)).isEmpty = false :=
        List.isEmpty_eq_false_iff.mpr Nat.toDigits_ne_nil
      have hdigit := digitValue?_digitChar (n % 10) (Nat.mod_lt n (by decide))
      rw [Nat.toDigits_of_base_le (by decide) hn, readNat?_append_singleton, hdigit, hne, ih _ hlt]
      simp only [Bool.false_eq_true, if_false, Option.bind_some, Option.map_some]
      congr 1
      omega

/-- Neither white space nor a sign or a bracket is a digit. -/
theorem not_mem_toDigits {c : Char} (hc : c.isDigit = false) (n : Nat) : c ∉ Nat.toDigits 10 n := by
  intro h
  rw [Nat.isDigit_of_mem_toDigits (by decide) (by decide) h] at hc
  cases hc

/-- Where digits denote a number, there is nothing else. -/
theorem Denotes.exists_hexValue? (hb : base ≤ 16) (h : Denotes base s n) :
    ∀ c ∈ s, ∃ d, hexValue? c = some d := by
  obtain ⟨-, values, hvalues, -⟩ := h
  induction hvalues with
  | nil => exact fun c hc => absurd hc List.not_mem_nil
  | cons hd _ ih => exact List.forall_mem_cons.mpr ⟨⟨_, hd.hexValue?_eq hb⟩, ih⟩

theorem Denotes.isBlank_eq_false (hb : base ≤ 16) (h : Denotes base s n) :
    ∀ c ∈ s, isBlank c = false := by
  intro c hc
  obtain ⟨d, hd⟩ := h.exists_hexValue? hb c hc
  exact isBlank_eq_false_of_hexValue? hd

end Testbench.Text
