import Testbench.Proofs.Json.Spelling
import Testbench.Proofs.Text.Numerals

/-!
# Unescaping inverts every spelling

A character of a string can be spelt as itself, by a short escape, or by its code units in four
digits of base 16 each. Code units that are half of no character can be spelt too.

* `SpellsUnit`, `Spells` : the spellings of a code unit and of a character.
* `codeUnit?_eq_some_iff` : `codeUnit?` reads the spellings of code units and nothing else.
* `unescapeFrom_spells` : a spelling gives way to its character, whatever follows.
* `Spelt` : the spellings of a text in front of another one, lone surrogates among them.
* `Spelt.unescape_append` : what is spelt gives way to the text, and what follows is not touched.
* `Grammar.Contents.exists_spelt` : what stands between the delimiters of a string is spelt.
* `unescape_spelling` : every spelling of a text stands for it, and a lone surrogate for U+FFFD.
-/

set_option autoImplicit false

namespace Testbench.Json

open Text

/-! ## Spellings -/

/-- A digit of base 16, in upper or lower case. -/
def hexDigitIn (upper : Bool) (n : Nat) : Char :=
  if upper then (hexDigit n).toUpper else hexDigit n

/-- An escape of four digits for the code unit `n`, each digit in a case of its own. -/
inductive SpellsUnit (n : Nat) : List Char → Prop where
  | mk (u₁ u₂ u₃ u₄ : Bool) : n < 0x10000 →
      SpellsUnit n ['\\', 'u', hexDigitIn u₁ (n / 0x1000), hexDigitIn u₂ (n / 0x100),
        hexDigitIn u₃ (n / 0x10), hexDigitIn u₄ n]

/-- The characters that are written after a backslash, and what each stands for. -/
def shortEscapes : List (Char × Char) :=
  [('\"', '\"'), ('\\', '\\'), ('/', '/'), ('\'', '\''), ('b', '\x08'), ('f', '\x0c'), ('n', '\n'),
    ('r', '\r'), ('t', '\t')]

/-- The spellings of a character. -/
inductive Spells (c : Char) : List Char → Prop where
  | literal : c ≠ '\\' → Spells c [c]
  | short {x : Char} : (x, c) ∈ shortEscapes → Spells c ['\\', x]
  | unit {e : List Char} : SpellsUnit c.toNat e → Spells c e
  | pair {high low : List Char} : 0x10000 ≤ c.toNat →
      SpellsUnit (0xD800 + (c.toNat - 0x10000) / 0x400) high →
      SpellsUnit (0xDC00 + (c.toNat - 0x10000) % 0x400) low → Spells c (high ++ low)

/-- The text starts with an escape of a low surrogate. -/
def StartsLow (s : List Char) : Prop :=
  ∃ n e rest, 0xDC00 ≤ n ∧ n ≤ 0xDFFF ∧ SpellsUnit n e ∧ s = e ++ rest

/-- The spellings of a text in front of `behind`. Where a surrogate is spelt that has no other half,
the text has U+FFFD. A high one has its other half if a low one comes right after it. -/
inductive Spelt (behind : List Char) : (text spelling : List Char) → Prop where
  | nil : Spelt behind [] []
  | char {c : Char} {e s t : List Char} :
      Spells c e → Spelt behind s t → Spelt behind (c :: s) (e ++ t)
  | lone {n : Nat} {e s t : List Char} : 0xD800 ≤ n → n ≤ 0xDFFF → SpellsUnit n e →
      (n ≤ 0xDBFF → ¬ StartsLow (t ++ behind)) → Spelt behind s t →
      Spelt behind (replacement :: s) (e ++ t)

/-! ## Digits -/

theorem hexValue?_hexDigitIn (upper : Bool) (n : Nat) :
    hexValue? (hexDigitIn upper n) = some (n % 16) := by
  have h : ∀ m < 16, ∀ upper : Bool,
      hexValue? (if upper then (Nat.digitChar m).toUpper else Nat.digitChar m) = some m := by decide
  exact h (n % 16) (Nat.mod_lt n (by decide)) upper

theorem hexValue?_eq_some_iff {c : Char} {d : Nat} :
    hexValue? c = some d ↔ d < 16 ∧ ∃ upper, c = hexDigitIn upper d := by
  constructor
  · intro h
    have table : ∀ n < 128, ∀ d ∈ hexValue? (Char.ofNat n),
        d < 16 ∧ ∃ upper, Char.ofNat n = hexDigitIn upper d := by decide
    have hd := table c.toNat (toNat_lt_of_hexValue? h) d
    rw [Char.ofNat_toNat] at hd
    exact hd h
  · rintro ⟨hd, upper, rfl⟩
    rw [hexValue?_hexDigitIn, Nat.mod_eq_of_lt hd]

theorem readNat?_four {a b c d : Char} {n : Nat} :
    readNat? 16 [a, b, c, d] = some n ↔ ∃ w x y z, hexValue? a = some w ∧ hexValue? b = some x ∧
      hexValue? c = some y ∧ hexValue? d = some z ∧ n = ((w * 16 + x) * 16 + y) * 16 + z := by
  have hdigit : digitValue? 16 = hexValue? := by
    funext c
    unfold digitValue?
    cases hc : hexValue? c with
    | none => rfl
    | some m =>
      have hm := (hexValue?_eq_some_iff.mp hc).1
      simp [Option.filter, hm]
  simp only [readNat?, List.isEmpty_cons, Bool.false_eq_true, if_false, List.foldl_cons,
    List.foldl_nil, pushDigit, hdigit, Option.bind_some, Option.bind_eq_some_iff,
    Option.map_eq_some_iff]
  constructor
  · rintro ⟨_, ⟨_, ⟨_, ⟨w, hw, rfl⟩, x, hx, rfl⟩, y, hy, rfl⟩, z, hz, rfl⟩
    exact ⟨w, x, y, z, hw, hx, hy, hz, by omega⟩
  · rintro ⟨w, x, y, z, hw, hx, hy, hz, rfl⟩
    exact ⟨_, ⟨_, ⟨_, ⟨w, hw, rfl⟩, x, hx, rfl⟩, y, hy, rfl⟩, z, hz, by omega⟩

theorem hexDigitIn_congr (upper : Bool) {m n : Nat} (h : m % 16 = n % 16) :
    hexDigitIn upper m = hexDigitIn upper n := by
  simp only [hexDigitIn, hexDigit, h]

/-- The digits of a spelt code unit are read back. -/
theorem SpellsUnit.exists_digits {n : Nat} {e : List Char} (h : SpellsUnit n e) :
    ∃ digits, e = '\\' :: 'u' :: digits ∧ digits.length = 4 ∧
      ∀ rest, codeUnit? (digits ++ rest) = some n := by
  obtain ⟨u₁, u₂, u₃, u₄, hn⟩ := h
  refine ⟨_, rfl, rfl, fun rest => ?_⟩
  exact readNat?_four.mpr ⟨_, _, _, _, hexValue?_hexDigitIn _ _, hexValue?_hexDigitIn _ _,
    hexValue?_hexDigitIn _ _, hexValue?_hexDigitIn _ _, by omega⟩

/-- `codeUnit?` reads the spellings of code units. -/
theorem codeUnit?_eq_some_iff {s : List Char} {n : Nat} :
    codeUnit? s = some n ↔ ∃ e rest, SpellsUnit n e ∧ '\\' :: 'u' :: s = e ++ rest := by
  constructor
  · intro h
    match s with
    | [] | [_] | [_, _] | [_, _, _] => cases h
    | a :: b :: c :: d :: rest =>
      obtain ⟨w, x, y, z, ha, hb, hc, hd, hn⟩ := readNat?_four.mp h
      rw [hexValue?_eq_some_iff] at ha hb hc hd
      obtain ⟨hw, u₁, rfl⟩ := ha
      obtain ⟨hx, u₂, rfl⟩ := hb
      obtain ⟨hy, u₃, rfl⟩ := hc
      obtain ⟨hz, u₄, rfl⟩ := hd
      have h₁ : hexDigitIn u₁ w = hexDigitIn u₁ (n / 0x1000) := hexDigitIn_congr u₁ (by omega)
      have h₂ : hexDigitIn u₂ x = hexDigitIn u₂ (n / 0x100) := hexDigitIn_congr u₂ (by omega)
      have h₃ : hexDigitIn u₃ y = hexDigitIn u₃ (n / 0x10) := hexDigitIn_congr u₃ (by omega)
      have h₄ : hexDigitIn u₄ z = hexDigitIn u₄ n := hexDigitIn_congr u₄ (by omega)
      rw [h₁, h₂, h₃, h₄]
      exact ⟨_, rest, .mk u₁ u₂ u₃ u₄ (by omega), rfl⟩
  · rintro ⟨e, rest, he, hs⟩
    obtain ⟨digits, rfl, -, hread⟩ := he.exists_digits
    cases hs
    exact hread rest

theorem SpellsUnit.lt {n : Nat} {e : List Char} (h : SpellsUnit n e) : n < 0x10000 := by
  cases h
  assumption

/-! ## One escape -/

theorem isSome_lowSurrogate? {s : List Char} : (lowSurrogate? s).isSome ↔ StartsLow s := by
  rw [Option.isSome_iff_exists]
  constructor
  · rintro ⟨n, h⟩
    unfold lowSurrogate? at h
    split at h
    · obtain ⟨hunit, hlow⟩ := Option.filter_eq_some_iff.mp h
      obtain ⟨e, rest, he, hs⟩ := codeUnit?_eq_some_iff.mp hunit
      simp only [isLowSurrogate, Bool.and_eq_true, decide_eq_true_eq] at hlow
      exact ⟨n, e, rest, hlow.1, hlow.2, he, hs⟩
    · cases h
  · rintro ⟨n, e, rest, hlo, hhi, he, rfl⟩
    obtain ⟨digits, rfl, -, hread⟩ := he.exists_digits
    exact ⟨n, by simp [lowSurrogate?, hread, isLowSurrogate, hlo, hhi]⟩

theorem unescapeFrom_drop (skip : Nat) (s : List Char) :
    unescapeFrom skip s = unescapeFrom 0 (s.drop skip) := by
  induction skip generalizing s with
  | zero => rfl
  | succ skip ih =>
    cases s with
    | nil => simp [unescapeFrom]
    | cons c s => rw [unescapeFrom, ih, List.drop_succ_cons]

/-- A surrogate without its other half. -/
theorem unicodeEscape_of_lone {n : Nat} {s : List Char} (h : codeUnit? s = some n)
    (hlo : 0xD800 ≤ n) (hhi : n ≤ 0xDFFF) (hlone : n ≤ 0xDBFF → ¬ StartsLow (s.drop 4)) :
    unicodeEscape s = (replacement, 4) := by
  by_cases hn : n ≤ 0xDBFF
  · have hnone : lowSurrogate? (s.drop 4) = none :=
      Option.not_isSome_iff_eq_none.mp fun hsome => hlone hn (isSome_lowSurrogate?.mp hsome)
    simp [unicodeEscape, h, isHighSurrogate, hlo, hn, hnone]
  · have hlow : 0xDC00 ≤ n := by omega
    simp [unicodeEscape, h, isHighSurrogate, isLowSurrogate, hn, hlow, hhi]

/-- The code units of a character above U+FFFF. -/
theorem unicodeEscape_of_pair {c : Char} {s low rest : List Char} (hc : 0x10000 ≤ c.toNat)
    (h : codeUnit? s = some (0xD800 + (c.toNat - 0x10000) / 0x400)) (hs : s.drop 4 = low ++ rest)
    (hlow : SpellsUnit (0xDC00 + (c.toNat - 0x10000) % 0x400) low) :
    unicodeEscape s = (c, 10) := by
  have hvalid : c.toNat < 0xD800 ∨ 0xDFFF < c.toNat ∧ c.toNat < 0x110000 := c.valid
  obtain ⟨digits, rfl, -, hread⟩ := hlow.exists_digits
  have hhigh : isHighSurrogate (0xD800 + (c.toNat - 0x10000) / 0x400) = true := by
    simp only [isHighSurrogate, Bool.and_eq_true, decide_eq_true_eq]
    omega
  have hsome : lowSurrogate? (s.drop 4) = some (0xDC00 + (c.toNat - 0x10000) % 0x400) := by
    rw [hs, List.cons_append, List.cons_append, lowSurrogate?, hread, Option.filter_some, if_pos]
    simp only [isLowSurrogate, Bool.and_eq_true, decide_eq_true_eq]
    omega
  have hjoin : joinSurrogates (0xD800 + (c.toNat - 0x10000) / 0x400)
      (0xDC00 + (c.toNat - 0x10000) % 0x400) = c := by
    have hsum : 0x10000 + (0xD800 + (c.toNat - 0x10000) / 0x400 - 0xD800) * 0x400 +
        (0xDC00 + (c.toNat - 0x10000) % 0x400 - 0xDC00) = c.toNat := by omega
    rw [joinSurrogates, hsum, Char.ofNat_toNat]
  simp only [unicodeEscape, h, hhigh, hsome, hjoin, if_true]

/-- An escape of four digits gives way to a character; how much is passed depends on the digits. -/
theorem unescapeFrom_unit (digits rest : List Char) :
    unescapeFrom 0 ('\\' :: 'u' :: (digits ++ rest)) =
      (unicodeEscape (digits ++ rest)).1 ::
        unescapeFrom 0 ((digits ++ rest).drop (unicodeEscape (digits ++ rest)).2) := by
  rw [unescapeFrom, if_pos rfl, unescapeFrom_drop]

/-- A spelling gives way to its character, whatever follows. -/
theorem unescapeFrom_spells {c : Char} {e : List Char} (h : Spells c e) (rest : List Char) :
    unescapeFrom 0 (e ++ rest) = c :: unescapeFrom 0 rest := by
  cases h with
  | literal hc => exact unescapeFrom_cons hc rest
  | short hx =>
    simp only [shortEscapes, List.mem_cons, Prod.mk.injEq, List.not_mem_nil, or_false] at hx
    rcases hx with ⟨rfl, rfl⟩ | ⟨rfl, rfl⟩ | ⟨rfl, rfl⟩ | ⟨rfl, rfl⟩ | ⟨rfl, rfl⟩ | ⟨rfl, rfl⟩ |
      ⟨rfl, rfl⟩ | ⟨rfl, rfl⟩ | ⟨rfl, rfl⟩ <;> rfl
  | unit he =>
    obtain ⟨digits, rfl, hlen, hread⟩ := he.exists_digits
    rw [List.cons_append, List.cons_append, unescapeFrom_unit, unicodeEscape_of_char (hread rest),
      ← hlen, List.drop_left]
  | @pair high low hc hhigh hlow =>
    obtain ⟨digits, rfl, hlen, hread⟩ := hhigh.exists_digits
    have hdrop : (digits ++ (low ++ rest)).drop 4 = low ++ rest := by rw [← hlen, List.drop_left]
    have hten : (digits ++ (low ++ rest)).drop 10 = rest := by
      obtain ⟨_, rfl, hlow, -⟩ := hlow.exists_digits
      simp [List.drop_append, hlen, hlow]
    rw [List.append_assoc, List.cons_append, List.cons_append, unescapeFrom_unit,
      unicodeEscape_of_pair hc (hread _) hdrop hlow, hten]

/-- A lone surrogate gives way to U+FFFD, and what follows is not touched. -/
theorem unescapeFrom_lone {n : Nat} {e : List Char} (h : SpellsUnit n e) (hlo : 0xD800 ≤ n)
    (hhi : n ≤ 0xDFFF) {rest : List Char} (hlone : n ≤ 0xDBFF → ¬ StartsLow rest) :
    unescapeFrom 0 (e ++ rest) = replacement :: unescapeFrom 0 rest := by
  obtain ⟨digits, rfl, hlen, hread⟩ := h.exists_digits
  have hdrop : (digits ++ rest).drop 4 = rest := by rw [← hlen, List.drop_left]
  rw [List.cons_append, List.cons_append, unescapeFrom_unit,
    unicodeEscape_of_lone (hread rest) hlo hhi (by rwa [hdrop]), hdrop]

/-! ## Texts -/

/-- What is spelt gives way to the text, and what follows is not touched. -/
theorem Spelt.unescape_append {behind s t : List Char} (h : Spelt behind s t) :
    unescape (t ++ behind) = s ++ unescape behind := by
  induction h with
  | nil => rfl
  | @char c e s t he _ ih =>
    rw [List.append_assoc, unescape, unescapeFrom_spells he]
    exact congrArg (c :: ·) ih
  | @lone n e s t hlo hhi he hlone _ ih =>
    rw [List.append_assoc, unescape, unescapeFrom_lone he hlo hhi hlone]
    exact congrArg (replacement :: ·) ih

/-- Characters that are spelt one after the other. -/
theorem spelt_flatMap {written : List (Char × List Char)} (h : ∀ p ∈ written, Spells p.1 p.2) :
    Spelt [] (written.map (·.1)) (written.flatMap (·.2)) := by
  induction written with
  | nil => exact .nil
  | cons p written ih =>
    exact .char (h p List.mem_cons_self) (ih fun q hq => h q (List.mem_cons_of_mem p hq))

/-- Every number that is no surrogate is that of a character. -/
theorem exists_char {n : Nat} (h : n < 0xD800 ∨ 0xDFFF < n ∧ n < 0x110000) :
    ∃ c : Char, c.toNat = n := by
  refine ⟨Char.ofNat n, ?_⟩
  rw [Char.ofNat, dif_pos h]
  rfl

namespace Grammar

theorem exists_spellsUnit {a b c d : Char} (ha : IsHexDigit a) (hb : IsHexDigit b)
    (hc : IsHexDigit c) (hd : IsHexDigit d) : ∃ n, SpellsUnit n ['\\', 'u', a, b, c, d] := by
  obtain ⟨w, ha⟩ := Option.isSome_iff_exists.mp (isHexDigit_iff.mpr ha)
  obtain ⟨x, hb⟩ := Option.isSome_iff_exists.mp (isHexDigit_iff.mpr hb)
  obtain ⟨y, hc⟩ := Option.isSome_iff_exists.mp (isHexDigit_iff.mpr hc)
  obtain ⟨z, hd⟩ := Option.isSome_iff_exists.mp (isHexDigit_iff.mpr hd)
  have hunit : codeUnit? [a, b, c, d] = some (((w * 16 + x) * 16 + y) * 16 + z) :=
    readNat?_four.mpr ⟨w, x, y, z, ha, hb, hc, hd, rfl⟩
  obtain ⟨e, rest, he, hs⟩ := codeUnit?_eq_some_iff.mp hunit
  obtain ⟨digits, rfl, hlen, -⟩ := he.exists_digits
  have hrest : rest = [] := by
    have := congrArg List.length hs
    simp only [List.length_cons, List.length_append, List.length_nil, hlen] at this
    exact List.eq_nil_of_length_eq_zero (by omega)
  rw [hrest, List.append_nil] at hs
  exact ⟨_, hs ▸ he⟩

theorem IsShortEscape.exists_short {mode : Mode} {x : Char} (h : IsShortEscape mode x) :
    ∃ c, (x, c) ∈ shortEscapes := by
  rcases h with h | ⟨-, rfl⟩
  · simp only [List.mem_cons, List.not_mem_nil, or_false] at h
    rcases h with rfl | rfl | rfl | rfl | rfl | rfl | rfl | rfl <;>
      exact ⟨_, by simp [shortEscapes]; rfl⟩
  · exact ⟨'\'', by decide⟩

/-- What comes behind an escape of four digits is still inside of the string. -/
theorem Contents.behind_unit {mode : Mode} {d : Delimiter} {n : Nat} {e rest : List Char}
    (he : SpellsUnit n e) (h : Contents mode d (e ++ rest)) : Contents mode d rest := by
  obtain ⟨digits, rfl, hlen, -⟩ := he.exists_digits
  rw [List.cons_append, List.cons_append] at h
  generalize hs : digits ++ rest = s at h
  have hrest : rest = s.drop 4 := by rw [← hs, ← hlen, List.drop_left]
  subst hrest
  cases h with
  | plain _ hb => exact absurd rfl hb
  | short hx =>
    rcases hx with hx | ⟨-, hx⟩
    · exact absurd hx (by decide)
    · exact absurd hx (by decide)
  | unicode _ _ _ _ h => exact h

/-- What stands between the delimiters of a string is the spelling of a text. -/
theorem Contents.exists_spelt {mode : Mode} {d : Delimiter} {t : List Char}
    (h : Contents mode d t) : ∃ s, Spelt [] s t := by
  -- a high surrogate takes the escape behind it along, so the induction is on the length
  generalize hn : t.length = n
  induction n using Nat.strongRecOn generalizing t with
  | ind n ih =>
    subst hn
    cases h with
    | nil => exact ⟨[], .nil⟩
    | @plain c t _ hc _ h =>
      obtain ⟨s, hs⟩ := ih t.length (by simp) h rfl
      exact ⟨c :: s, .char (.literal hc) hs⟩
    | @short x t hx _ h =>
      obtain ⟨s, hs⟩ := ih t.length (by simp only [List.length_cons]; omega) h rfl
      obtain ⟨c, hc⟩ := hx.exists_short
      exact ⟨c :: s, .char (.short hc) hs⟩
    | @unicode h₁ h₂ h₃ h₄ t hd₁ hd₂ hd₃ hd₄ h =>
      obtain ⟨n, hunit⟩ := exists_spellsUnit hd₁ hd₂ hd₃ hd₄
      have hbound := hunit.lt
      obtain ⟨s, hs⟩ := ih t.length (by simp only [List.length_cons]; omega) h rfl
      by_cases hn : n < 0xD800 ∨ 0xDFFF < n
      · obtain ⟨c, rfl⟩ : ∃ c : Char, c.toNat = n := exists_char (by omega)
        exact ⟨c :: s, .char (.unit hunit) hs⟩
      by_cases hlow : n ≤ 0xDBFF ∧ StartsLow t
      · obtain ⟨hhi, m, low, rest, hm, hm', hunit', rfl⟩ := hlow
        obtain ⟨s, hs⟩ := ih rest.length (by simp; omega) (h.behind_unit hunit') rfl
        obtain ⟨c, hc⟩ : ∃ c : Char, c.toNat = 0x10000 + (n - 0xD800) * 0x400 + (m - 0xDC00) :=
          exists_char (by omega)
        have hhigh : 0xD800 + (c.toNat - 0x10000) / 0x400 = n := by omega
        have hlow : 0xDC00 + (c.toNat - 0x10000) % 0x400 = m := by omega
        exact ⟨c :: s, .char (.pair (by omega) (hhigh ▸ hunit) (hlow ▸ hunit')) hs⟩
      · refine ⟨replacement :: s, .lone (by omega) (by omega) hunit (fun hhi hstarts => ?_) hs⟩
        rw [List.append_nil] at hstarts
        exact hlow ⟨hhi, hstarts⟩

end Grammar

/-- **Unescaping inverts every spelling.** Characters that are spelt one by one, each in any way,
are read back. Among them, and in front of any text, an escape of a surrogate that is not half of a
character becomes one U+FFFD, and what follows is unescaped as if it stood alone. -/
theorem unescape_spelling :
    (∀ written : List (Char × List Char), (∀ p ∈ written, Spells p.1 p.2) →
      unescape (written.flatMap (·.2)) = written.map (·.1)) ∧
    ∀ (n : Nat) (before e after s : List Char), 0xD800 ≤ n → n ≤ 0xDFFF → SpellsUnit n e →
      (n ≤ 0xDBFF → ¬ StartsLow after) → Spelt (e ++ after) s before →
      unescape (before ++ (e ++ after)) = s ++ replacement :: unescape after := by
  constructor
  · intro written h
    have hs := (spelt_flatMap h).unescape_append
    rwa [List.append_nil, unescape_nil, List.append_nil] at hs
  · intro n before e after s hlo hhi he hlone hs
    rw [hs.unescape_append, unescape, unescapeFrom_lone he hlo hhi hlone]
    rfl

/-- Every kind of spelling; then a low surrogate and two high ones, of which the last has its other
half. -/
theorem unescape_spelling_mixed :
    unescape "a\\\"\\u00E9\\/\\uD83d\\uDe00".toList = ['a', '\"', 'é', '/', '😀'] ∧
      unescape "\\udc00\\n\\ud83d\\ud83d\\ude00\\q".toList =
        [replacement, '\n'] ++ replacement :: unescape "\\ud83d\\ude00\\q".toList := by
  have hhigh (u : Bool) : SpellsUnit 0xD83D ['\\', 'u', hexDigitIn u 13, '8', '3', 'd'] :=
    .mk u false false false (by decide)
  have hlow : SpellsUnit 0xDE00 "\\uDe00".toList := .mk true false false false (by decide)
  have hpair : Spells '😀' ("\\uD83d".toList ++ "\\uDe00".toList) :=
    .pair (by decide) (hhigh true) hlow
  constructor
  · refine unescape_spelling.1 [('a', ['a']), ('\"', ['\\', '\"']), ('é', "\\u00E9".toList),
      ('/', ['\\', '/']), ('😀', "\\uD83d\\uDe00".toList)] ?_
    have hunit : Spells 'é' "\\u00E9".toList := .unit (.mk false false true false (by decide))
    simp only [List.forall_mem_cons]
    exact ⟨.literal (by decide), .short (by decide), hunit, .short (by decide), hpair, by simp⟩
  · have hlone : SpellsUnit 0xDC00 "\\udc00".toList := .mk false false false false (by decide)
    have hn : Spells '\n' "\\n".toList := .short (by decide)
    refine unescape_spelling.2 0xD83D "\\udc00\\n".toList "\\ud83d".toList
      "\\ud83d\\ude00\\q".toList [replacement, '\n'] (by decide) (by decide) (hhigh false) ?_ ?_
    · exact fun _ h => absurd (isSome_lowSurrogate?.mpr h) (by decide)
    · exact .lone (by decide) (by decide) hlone (fun h => absurd h (by decide)) (.char hn .nil)

end Testbench.Json
