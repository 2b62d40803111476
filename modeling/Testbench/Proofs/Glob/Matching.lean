import Mathlib
import Testbench.Pattern.Basic
import Testbench.Proofs.Glob.Language

/-!
# Matching decides the language of a glob

The matcher goes through a text once and, when it is blocked, tries only the latest star again. No
match is lost by that: if the tokens behind an earlier star describe some later part of the text,
then what they are up to the next star has been met already, and nearer to the front, so the star
that was reached there can take up the difference.

* `Glob.describes_of_progress_star`, `Glob.exists_of_progress_star` : a star that is reached stands
  for all that the tokens in front of it describe.
* `Glob.matchesBehind_iff`, `Glob.matchesTokens_iff` : the matcher decides what tokens describe.
* `Glob.isMatch_iff_language` : so it decides the language of patterns.
-/

set_option autoImplicit false

namespace Testbench.Glob

variable {fold : Char → Char} {tokens more : List Token} {text rest : List Char}

/-! ## Tokens up to a star -/

theorem describes_nil_iff : Describes fold tokens [] ↔ tokens.all (· == .star) = true := by
  induction tokens with
  | nil => simp [Describes]
  | cons token tokens ih =>
    by_cases h : token = .star
    · subst h
      have hstar : Describes fold (.star :: tokens) [] ↔ Describes fold tokens [] := by
        constructor
        · rintro ⟨s, t, he, ht⟩
          rwa [(List.append_eq_nil_iff.mp he.symm).2] at ht
        · intro ht
          exact ⟨[], [], rfl, ht⟩
      rw [hstar, ih, List.all_cons]
      simp
    · rw [describes_cons h]
      simp [h]

/-- The tokens get to the end of the text: the answer is right for the text, and where it is no,
they are too many for every shorter text too. -/
theorem describes_of_progress_ended {stars : Bool} (h : progress fold tokens text = .ended stars) :
    (stars = true → Describes fold tokens text) ∧
      ∀ t : List Char, t.length ≤ text.length → Describes fold tokens t → stars = true := by
  fun_induction progress fold tokens text with
  | case1 tokens =>
    cases h
    refine ⟨describes_nil_iff.mpr, ?_⟩
    intro t ht hdescribes
    rw [List.eq_nil_of_length_eq_zero (Nat.le_zero.mp ht)] at hdescribes
    exact describes_nil_iff.mp hdescribes
  | case2 => cases h
  | case3 => cases h
  | case4 token tokens c text hstar haccepts ih =>
    have hne : token ≠ .star := fun he => hstar he
    obtain ⟨hyes, hno⟩ := ih h
    constructor
    · intro hs
      rw [describes_cons hne]
      exact ⟨c, text, rfl, haccepts, hyes hs⟩
    · intro t ht hdescribes
      obtain ⟨d, t, rfl, -, hrest⟩ := (describes_cons hne).mp hdescribes
      simp only [List.length_cons] at ht
      exact hno t (by omega) hrest
  | case5 => cases h

theorem not_describes_of_progress_blocked (h : progress fold tokens text = .blocked) :
    ¬ Describes fold tokens text := by
  fun_induction progress fold tokens text with
  | case1 => cases h
  | case2 => simp [Describes]
  | case3 => cases h
  | case4 token tokens c text hstar _ ih =>
    intro hdescribes
    obtain ⟨d, t, he, -, hrest⟩ := (describes_cons fun he => hstar he).mp hdescribes
    cases he
    exact ih h hrest
  | case5 token tokens c text hstar haccepts =>
    intro hdescribes
    obtain ⟨d, t, he, hd, -⟩ := (describes_cons fun he => hstar he).mp hdescribes
    cases he
    exact haccepts hd

/-- From the star that is reached on, the text is described, and so is all of it. -/
theorem describes_of_progress_star (h : progress fold tokens text = .star more rest)
    (hrest : Describes fold (.star :: more) rest) : Describes fold tokens text := by
  fun_induction progress fold tokens text with
  | case1 => cases h
  | case2 => cases h
  | case3 => cases h; exact hrest
  | case4 token tokens c text hstar haccepts ih =>
    rw [describes_cons fun he => hstar he]
    exact ⟨c, text, rfl, haccepts, ih h⟩
  | case5 => cases h

/-- A star is reached after as many characters in every text that the tokens describe. So in a text
that is no longer, what is left at the star is no longer either. -/
theorem exists_of_progress_star (h : progress fold tokens text = .star more rest) {t : List Char}
    (ht : t.length ≤ text.length) (hdescribes : Describes fold tokens t) :
    ∃ front left, t = front ++ left ∧ left.length ≤ rest.length ∧
      Describes fold (.star :: more) left := by
  fun_induction progress fold tokens text generalizing t with
  | case1 => cases h
  | case2 => cases h
  | case3 => cases h; exact ⟨[], t, rfl, ht, hdescribes⟩
  | case4 token tokens c text hstar _ ih =>
    obtain ⟨d, t, rfl, -, hmore⟩ := (describes_cons fun he => hstar he).mp hdescribes
    simp only [List.length_cons] at ht
    obtain ⟨front, left, rfl, hle, hleft⟩ := ih h (by omega) hmore
    exact ⟨d :: front, left, rfl, hle, hleft⟩
  | case5 => cases h

theorem suffix_of_progress_star (h : progress fold tokens text = .star more rest) :
    rest <:+ text := by
  fun_induction progress fold tokens text with
  | case1 => cases h
  | case2 => cases h
  | case3 => cases h; exact List.suffix_refl _
  | case4 token tokens c text _ _ ih => exact (ih h).trans (List.suffix_cons c text)
  | case5 => cases h

/-! ## Behind a star -/

theorem describes_star_iff :
    Describes fold (.star :: tokens) text ↔ ∃ t, t <:+ text ∧ Describes fold tokens t := by
  constructor
  · rintro ⟨s, t, rfl, h⟩
    exact ⟨t, List.suffix_append s t, h⟩
  · rintro ⟨t, ⟨s, rfl⟩, h⟩
    exact ⟨s, t, rfl, h⟩

/-- What tokens describe of the end of a text is described from the star on that they reach in the
whole text. -/
theorem describes_behind (h : progress fold tokens text = .star more rest) {t : List Char}
    (ht : t <:+ text) (hdescribes : Describes fold tokens t) :
    Describes fold (.star :: more) rest := by
  obtain ⟨front, left, rfl, hle, hleft⟩ := exists_of_progress_star h ht.length_le hdescribes
  -- both are ends of one text, so the shorter one is an end of the longer one
  have hsuffix : left <:+ rest :=
    List.suffix_of_suffix_length_le ((List.suffix_append front left).trans ht)
      (suffix_of_progress_star h) hle
  obtain ⟨t, htleft, hmore⟩ := describes_star_iff.mp hleft
  exact describes_star_iff.mpr ⟨t, htleft.trans hsuffix, hmore⟩

/-- **The latest star is enough.** Trying only the last star that was reached decides whether the
tokens behind a star describe what is left after some part of a text. -/
theorem matchesBehind_iff :
    matchesBehind fold tokens text = true ↔ Describes fold (.star :: tokens) text := by
  fun_induction matchesBehind fold tokens text with
  | case1 tokens text stars h =>
    obtain ⟨hyes, hno⟩ := describes_of_progress_ended h
    rw [describes_star_iff]
    constructor
    · intro hs
      exact ⟨text, List.suffix_refl text, hyes hs⟩
    · rintro ⟨t, ht, hdescribes⟩
      exact hno t ht.length_le hdescribes
  | case2 tokens text more rest h ih =>
    rw [ih]
    constructor
    · intro hrest
      rw [describes_star_iff]
      exact ⟨text, List.suffix_refl text, describes_of_progress_star h hrest⟩
    · intro hdescribes
      obtain ⟨t, ht, hdescribes⟩ := describes_star_iff.mp hdescribes
      exact describes_behind h ht hdescribes
  | case3 tokens h => simp [progress] at h
  | case4 tokens c rest h ih =>
    rw [ih, describes_star_iff, describes_star_iff]
    constructor
    · rintro ⟨t, ht, hdescribes⟩
      exact ⟨t, ht.trans (List.suffix_cons c rest), hdescribes⟩
    · rintro ⟨t, ht, hdescribes⟩
      rcases List.suffix_cons_iff.mp ht with rfl | ht
      · exact absurd hdescribes (not_describes_of_progress_blocked h)
      · exact ⟨t, ht, hdescribes⟩

/-- **The matcher decides what tokens describe.** -/
theorem matchesTokens_iff :
    matchesTokens fold tokens text = true ↔ Describes fold tokens text := by
  unfold matchesTokens
  cases h : progress fold tokens text with
  | ended stars =>
    obtain ⟨hyes, hno⟩ := describes_of_progress_ended h
    exact ⟨hyes, hno text (Nat.le_refl _)⟩
  | star more rest =>
    simp only [matchesBehind_iff]
    constructor
    · intro hrest
      exact describes_of_progress_star h hrest
    · intro hdescribes
      exact describes_behind h (List.suffix_refl text) hdescribes
  | blocked => simp [not_describes_of_progress_blocked h]

/-! ## Patterns -/

/-- **Matching decides the language of a glob.** A text matches a pattern just if no class of the
pattern is open and the text is in its language, letter case apart. Compiling fails just for an
open class, and what is compiled answers the same. -/
theorem isMatch_iff_language (pattern text : String) :
    (isMatch pattern text = true ↔
      ¬ OpenClass pattern.toList ∧ Language Text.foldChar pattern.toList text.toList) ∧
    (∀ e, Pattern.compile .glob pattern = .error e ↔
      OpenClass pattern.toList ∧ e = .openClass pattern) ∧
    ∀ p, Pattern.compile .glob pattern = .ok p → p.isMatch text = isMatch pattern text := by
  have hopen : read? pattern.toList = none ↔ OpenClass pattern.toList := readFrom?_eq_none_iff
  refine ⟨?_, ?_, fun p hp => Pattern.isMatch_glob hp text⟩
  · rw [language_iff, ← hopen]
    unfold isMatch read?
    cases hread : readFrom? .plain pattern.toList with
    | none => simp
    | some tokens => simp [matchesTokens_iff]
  · intro e
    rw [← hopen]
    cases hread : read? pattern.toList with
    | none =>
      simp only [Pattern.compile, hread, Except.error.injEq, true_and]
      exact eq_comm
    | some tokens => simp [Pattern.compile, hread]

/-- A dash at the end of a class, a range, a class that excludes nothing, an escaped star, and stars
that have to be tried again. -/
theorem isMatch_iff_language_retried :
    ∃ p, Pattern.compile .glob "[Z-]*[x-z][^]\\**b?" = .ok p ∧ p.isMatch "-aYy*B*bÉ" = true ∧
      Language Text.foldChar "[Z-]*[x-z][^]\\**b?".toList "-aYy*B*bÉ".toList := by
  have hmatch : isMatch "[Z-]*[x-z][^]\\**b?" "-aYy*B*bÉ" = true := by cbv
  obtain ⟨hlanguage, herror, hcompiled⟩ :=
    isMatch_iff_language "[Z-]*[x-z][^]\\**b?" "-aYy*B*bÉ"
  obtain ⟨hclosed, htext⟩ := hlanguage.mp hmatch
  cases hp : Pattern.compile .glob "[Z-]*[x-z][^]\\**b?" with
  | error e => exact absurd ((herror e).mp hp).1 hclosed
  | ok p => exact ⟨p, rfl, (hcompiled p hp).trans hmatch, htext⟩

end Testbench.Glob
