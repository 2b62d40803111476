import Testbench.Proofs.Glob.Matching

/-!
# What ignoring letter case loses

A text that a pattern describes with all characters taken as they are should be described all the
more when letter case is ignored. A character and its like stay alike when both are folded, but a
range is folded by its two ends, and a character between them need not stay between them: `[Z-a]`
becomes `[z-a]`, in which there is nothing. Classes that keep their members in folding are all that
is asked for, and nothing less will do.

* `Token.Keeps` : folding loses no character that the token stands for.
* `foldChar_le_foldChar` : where folding keeps the order of characters.
* `keeps_of_blocks` : ranges that keep their members.
* `Describes.mono` : tokens that keep the characters of a text describe it folded.
* `exists_probe` : the shortest texts of a pattern tell what each of its tokens stands for.
* `isMatch_relaxes_iff` : **matching relaxes the case-sensitive reading just if every class keeps
  its members.**
* `isMatch_loses` : a range across the two cases does not.
-/

set_option autoImplicit false

namespace Testbench.Glob

variable {fold fold' : Char → Char} {token : Token} {tokens : List Token} {text : List Char}

/-! ## Tokens that keep their characters -/

/-- Every character that the token stands for as it is written is one that it stands for folded. -/
def Token.Keeps (fold : Char → Char) (token : Token) : Prop :=
  ∀ c, token.accepts id c = true → token.accepts fold c = true

theorem Token.keeps_of_not_oneOf (h : ∀ negated ranges, token ≠ .oneOf negated ranges) :
    token.Keeps fold := by
  intro c hc
  cases token with
  | star => cases hc
  | any => rfl
  | char d =>
    have hd : d = c := by simpa [accepts] using hc
    simp [accepts, hd]
  | oneOf negated ranges => exact absurd rfl (h negated ranges)

theorem accepts_oneOf_iff {ranges : List (Char × Char)} {c : Char} :
    (Token.oneOf false ranges).accepts fold c = true ↔
      ∃ r ∈ ranges, fold r.1 ≤ fold c ∧ fold c ≤ fold r.2 := by
  simp [Token.accepts]

/-- A class keeps its members if each of its ranges does. -/
theorem keeps_of_ranges {ranges : List (Char × Char)}
    (h : ∀ r ∈ ranges, ∀ c, r.1 ≤ c → c ≤ r.2 → fold r.1 ≤ fold c ∧ fold c ≤ fold r.2) :
    (Token.oneOf false ranges).Keeps fold := by
  intro c hc
  obtain ⟨r, hr, hlow, hhigh⟩ := accepts_oneOf_iff.mp hc
  exact accepts_oneOf_iff.mpr ⟨r, hr, h r hr c hlow hhigh⟩

/-- Below 128, folding changes the letters from `A` to `Z` alone. -/
theorem toNat_foldChar {c : Char} (h : c.toNat < 128) :
    (Text.foldChar c).toNat =
      if 65 ≤ c.toNat ∧ c.toNat ≤ 90 then c.toNat + 32 else c.toNat := by
  obtain ⟨runs, hruns, hlater⟩ :
      ∃ runs, Text.lowerRuns = ⟨65, 90, 1, 32⟩ :: runs ∧ ∀ r ∈ runs, 128 ≤ r.first :=
    ⟨_, rfl, by decide +kernel⟩
  have hnone : runs.findSome? (fun r => r.map? c) = none := by
    rw [List.findSome?_eq_none_iff]
    intro r hr
    have hfirst : ¬ r.first ≤ c.toNat := by have := hlater r hr; omega
    simp [Text.CaseRun.map?, Text.CaseRun.covers, hfirst]
  have hdotted : c ≠ '\u0130' := by
    rintro rfl
    exact absurd h (by decide)
  rw [Text.foldChar, if_neg hdotted, Text.mapByRuns, hruns, List.findSome?_cons, hnone]
  by_cases hletter : 65 ≤ c.toNat ∧ c.toNat ≤ 90
  · have hvalid : (c.toNat + 32).isValidChar := .inl (by omega)
    have himage : ((c.toNat : Int) + 32).toNat = c.toNat + 32 := by omega
    simp [Text.CaseRun.map?, Text.CaseRun.covers, Text.CaseRun.image, hletter, Nat.mod_one, himage,
      Char.toNat_ofNat, hvalid]
  · simp [Text.CaseRun.map?, Text.CaseRun.covers, hletter]

/-- Folding keeps the order of characters up to `Z`, and of those behind `Z` that are below 128. -/
theorem foldChar_le_foldChar {c d : Char} (h : c ≤ d)
    (hblock : d ≤ 'Z' ∨ ('Z' < c ∧ d.toNat < 128)) : Text.foldChar c ≤ Text.foldChar d := by
  have hle : c.toNat ≤ d.toNat := h
  show (Text.foldChar c).toNat ≤ (Text.foldChar d).toNat
  rcases hblock with hlast | ⟨hfirst, hascii⟩
  · have hlast : d.toNat ≤ 90 := hlast
    rw [toNat_foldChar (by omega), toNat_foldChar (by omega)]
    split <;> split <;> omega
  · have hfirst : 90 < c.toNat := hfirst
    rw [toNat_foldChar (by omega), toNat_foldChar hascii, if_neg (by omega), if_neg (by omega)]
    exact hle

/-- The members of a range stay in it if it is a single character, if it ends no later than `Z`, or
if it starts behind `Z` and all its characters are below 128. -/
theorem keeps_of_blocks {ranges : List (Char × Char)}
    (h : ∀ r ∈ ranges, r.1 = r.2 ∨ r.2 ≤ 'Z' ∨ ('Z' < r.1 ∧ r.2.toNat < 128)) :
    (Token.oneOf false ranges).Keeps Text.foldChar := by
  apply keeps_of_ranges
  intro r hr c hlow hhigh
  rcases h r hr with heq | hlast | ⟨hfirst, hascii⟩
  · have hc : c = r.1 := Char.le_antisymm (heq ▸ hhigh) hlow
    rw [hc, ← heq]
    exact ⟨Char.le_refl _, Char.le_refl _⟩
  · have hmember : c ≤ 'Z' := Char.le_trans hhigh hlast
    exact ⟨foldChar_le_foldChar hlow (.inl hmember), foldChar_le_foldChar hhigh (.inl hlast)⟩
  · have hmember : c.toNat < 128 := Nat.lt_of_le_of_lt hhigh hascii
    have hstart : 'Z' < c := lt_of_lt_of_le hfirst hlow
    exact ⟨foldChar_le_foldChar hlow (.inr ⟨hfirst, hmember⟩),
      foldChar_le_foldChar hhigh (.inr ⟨hstart, hascii⟩)⟩

/-! ## Texts that stay described -/

/-- Tokens that keep the characters of a text describe it folded if they describe it as it is. -/
theorem Describes.mono (h : Describes fold tokens text)
    (hkeep : ∀ token ∈ tokens, ∀ c ∈ text,
      token.accepts fold c = true → token.accepts fold' c = true) :
    Describes fold' tokens text := by
  induction tokens generalizing text with
  | nil => exact h
  | cons token tokens ih =>
    by_cases hstar : token = .star
    · subst hstar
      obtain ⟨s, t, rfl, ht⟩ := h
      refine ⟨s, t, rfl, ih ht fun other hother c hc => ?_⟩
      exact hkeep other (List.mem_cons_of_mem _ hother) c (List.mem_append_right s hc)
    · rw [describes_cons hstar] at h ⊢
      obtain ⟨c, t, rfl, hc, ht⟩ := h
      refine ⟨c, t, rfl, hkeep token (List.mem_cons_self ..) c (List.mem_cons_self ..) hc, ?_⟩
      exact ih ht fun other hother d hd =>
        hkeep other (List.mem_cons_of_mem _ hother) d (List.mem_cons_of_mem _ hd)

/-! ## Shortest texts -/

/-- The number of characters that the tokens stand for when their stars stand for nothing. -/
def width (tokens : List Token) : Nat := tokens.countP (· != .star)

theorem width_star : width (.star :: tokens) = width tokens := rfl

theorem width_cons (h : token ≠ .star) : width (token :: tokens) = width tokens + 1 := by
  simp [width, h]

theorem Describes.width_le (h : Describes fold tokens text) : width tokens ≤ text.length := by
  induction tokens generalizing text with
  | nil => exact Nat.zero_le _
  | cons token tokens ih =>
    by_cases hstar : token = .star
    · subst hstar
      obtain ⟨s, t, rfl, ht⟩ := h
      rw [width_star, List.length_append]
      exact Nat.le_add_left_of_le (ih ht)
    · obtain ⟨c, t, rfl, -, ht⟩ := (describes_cons hstar).mp h
      rw [width_cons hstar, List.length_cons]
      exact Nat.succ_le_succ (ih ht)

/-- In a shortest text a star stands for nothing. -/
theorem Describes.of_star (h : Describes fold (.star :: tokens) text)
    (hwidth : text.length = width tokens) : Describes fold tokens text := by
  obtain ⟨s, t, rfl, ht⟩ := h
  have hs : s = [] := by
    apply List.eq_nil_of_length_eq_zero
    have hle := ht.width_le
    rw [List.length_append] at hwidth
    omega
  rwa [hs]

/-- Tokens that describe some text describe one in which every star stands for nothing. -/
theorem Describes.exists_shortest (h : Describes fold tokens text) :
    ∃ t, Describes fold tokens t ∧ t.length = width tokens := by
  induction tokens generalizing text with
  | nil => exact ⟨[], rfl, rfl⟩
  | cons token tokens ih =>
    by_cases hstar : token = .star
    · subst hstar
      obtain ⟨s, t, rfl, ht⟩ := h
      obtain ⟨short, hshort, hwidth⟩ := ih ht
      exact ⟨short, ⟨[], short, rfl, hshort⟩, hwidth⟩
    · obtain ⟨c, t, rfl, hc, ht⟩ := (describes_cons hstar).mp h
      obtain ⟨short, hshort, hwidth⟩ := ih ht
      refine ⟨c :: short, (describes_cons hstar).mpr ⟨c, short, rfl, hc, hshort⟩, ?_⟩
      rw [width_cons hstar, List.length_cons, hwidth]

/-- For each character of a token there is a shortest text that tells, under any folding, whether
the token still stands for it. -/
theorem exists_probe (fold' : Char → Char) (h : Describes fold tokens text) (hmem : token ∈ tokens)
    (hstar : token ≠ .star) {c : Char} (hc : token.accepts fold c = true) :
    ∃ t, Describes fold tokens t ∧ t.length = width tokens ∧
      (Describes fold' tokens t → token.accepts fold' c = true) := by
  induction tokens generalizing text with
  | nil => cases hmem
  | cons other tokens ih =>
    by_cases hother : other = .star
    · subst hother
      obtain ⟨s, t, rfl, ht⟩ := h
      obtain ⟨probe, hprobe, hwidth, htell⟩ :=
        ih ht ((List.mem_cons.mp hmem).resolve_left hstar)
      exact ⟨probe, ⟨[], probe, rfl, hprobe⟩, hwidth, fun hfolded => htell (hfolded.of_star hwidth)⟩
    · obtain ⟨d, t, rfl, hd, ht⟩ := (describes_cons hother).mp h
      rcases List.mem_cons.mp hmem with rfl | hmem
      · obtain ⟨short, hshort, hwidth⟩ := ht.exists_shortest
        refine ⟨c :: short, (describes_cons hstar).mpr ⟨c, short, rfl, hc, hshort⟩, ?_, ?_⟩
        · rw [width_cons hstar, List.length_cons, hwidth]
        · intro hfolded
          obtain ⟨c', t', heq, hc', -⟩ := (describes_cons hstar).mp hfolded
          cases heq
          exact hc'
      · obtain ⟨probe, hprobe, hwidth, htell⟩ := ih ht hmem
        refine ⟨d :: probe, (describes_cons hother).mpr ⟨d, probe, rfl, hd, hprobe⟩, ?_, ?_⟩
        · rw [width_cons hother, List.length_cons, hwidth]
        · intro hfolded
          obtain ⟨d', t', heq, -, ht'⟩ := (describes_cons hother).mp hfolded
          cases heq
          exact htell ht'

/-! ## Patterns -/

theorem language_iff_describes {pattern : List Char} (h : read? pattern = some tokens) :
    Language fold pattern text ↔ Describes fold tokens text := by
  rw [language_iff]
  constructor
  · rintro ⟨tokens', hread, htext⟩
    rwa [← Option.some.inj (hread.symm.trans h)]
  · intro htext
    exact ⟨tokens, h, htext⟩

theorem isMatch_iff_describes {pattern text : String} (h : read? pattern.toList = some tokens) :
    isMatch pattern text = true ↔ Describes Text.foldChar tokens text.toList := by
  rw [isMatch, h]
  exact matchesTokens_iff

/-- A text that is described with all characters as they are is matched, if the classes keep its
characters in folding. -/
theorem isMatch_of_kept {pattern text : String} (hread : read? pattern.toList = some tokens)
    (htext : Language id pattern.toList text.toList)
    (hkept : ∀ negated ranges, .oneOf negated ranges ∈ tokens → ∀ c ∈ text.toList,
      (Token.oneOf negated ranges).accepts id c = true →
        (Token.oneOf negated ranges).accepts Text.foldChar c = true) :
    isMatch pattern text = true := by
  rw [language_iff_describes hread] at htext
  rw [isMatch_iff_describes hread]
  apply htext.mono
  intro token htoken c hc haccepts
  by_cases hclass : ∃ negated ranges, token = .oneOf negated ranges
  · obtain ⟨negated, ranges, rfl⟩ := hclass
    exact hkept negated ranges htoken c hc haccepts
  · have hother : token.Keeps Text.foldChar :=
      Token.keeps_of_not_oneOf fun negated ranges h => hclass ⟨negated, ranges, h⟩
    exact hother c haccepts

/-- Where some text is described and all such texts are matched, no class loses a member. -/
theorem keeps_of_isMatch {pattern text : String} (hread : read? pattern.toList = some tokens)
    (htext : Language id pattern.toList text.toList)
    (hall : ∀ text : String, Language id pattern.toList text.toList → isMatch pattern text = true)
    (hmem : token ∈ tokens) (hstar : token ≠ .star) : token.Keeps Text.foldChar := by
  intro c hc
  rw [language_iff_describes hread] at htext
  obtain ⟨probe, hprobe, -, htell⟩ := exists_probe Text.foldChar htext hmem hstar hc
  have hmatch := hall (String.ofList probe)
  rw [language_iff_describes hread, isMatch_iff_describes hread, String.toList_ofList] at hmatch
  exact htell (hmatch hprobe)

/-- **Matching relaxes the case-sensitive reading just if every class keeps its members.** A text
that a pattern describes with all characters taken as they are is matched if no class loses any of
its characters in folding. And all such texts are matched just if there are none, or if no class of
the pattern loses any member. -/
theorem isMatch_relaxes_iff (pattern : String) {tokens : List Token}
    (hread : read? pattern.toList = some tokens) :
    (∀ text : String, Language id pattern.toList text.toList →
      (∀ negated ranges, .oneOf negated ranges ∈ tokens → ∀ c ∈ text.toList,
        (Token.oneOf negated ranges).accepts id c = true →
          (Token.oneOf negated ranges).accepts Text.foldChar c = true) →
      isMatch pattern text = true) ∧
    ((∀ text : String, Language id pattern.toList text.toList → isMatch pattern text = true) ↔
      (∀ text : String, ¬ Language id pattern.toList text.toList) ∨
        ∀ negated ranges, .oneOf negated ranges ∈ tokens →
          (Token.oneOf negated ranges).Keeps Text.foldChar) := by
  refine ⟨fun text htext hkept => isMatch_of_kept hread htext hkept, ?_, ?_⟩
  · intro hall
    by_cases hempty : ∀ text : String, ¬ Language id pattern.toList text.toList
    · exact .inl hempty
    · obtain ⟨text, htext⟩ := not_forall_not.mp hempty
      exact .inr fun negated ranges hmem => keeps_of_isMatch hread htext hall hmem (by simp)
  · rintro (hempty | hkeeps) text htext
    · exact absurd htext (hempty text)
    · exact isMatch_of_kept hread htext fun negated ranges hmem c _ hc =>
        hkeeps negated ranges hmem c hc

/-- Figures and letters up to `Z`, an umlaut and a dash that are listed, and a star that has to be
tried again. -/
theorem isMatch_relaxes_iff_blocks :
    Language id "*[0-ZÄ-]k".toList "zÄkk7k".toList ∧ isMatch "*[0-ZÄ-]k" "zÄkk7k" = true := by
  have hread : read? "*[0-ZÄ-]k".toList =
      some [.star, .oneOf false [('0', 'Z'), ('Ä', 'Ä'), ('-', '-')], .char 'k'] := by
    decide +kernel
  have htext : Language id "*[0-ZÄ-]k".toList "zÄkk7k".toList := by
    rw [language_iff_describes hread, ← matchesTokens_iff]
    cbv
  refine ⟨htext, (isMatch_relaxes_iff "*[0-ZÄ-]k" hread).1 "zÄkk7k" htext ?_⟩
  intro negated ranges hmem c _ hc
  have hclass : negated = false ∧ ranges = [('0', 'Z'), ('Ä', 'Ä'), ('-', '-')] := by
    simpa using hmem
  obtain ⟨rfl, rfl⟩ := hclass
  have hkeeps : (Token.oneOf false [('0', 'Z'), ('Ä', 'Ä'), ('-', '-')]).Keeps Text.foldChar :=
    keeps_of_blocks (by decide)
  exact hkeeps c hc

/-- The range from `Z` to `a` holds `Z`, and nothing when both ends are folded. -/
theorem isMatch_loses :
    Language id "[Z-a]".toList "Z".toList ∧ isMatch "[Z-a]" "Z" = false := by
  have hread : read? "[Z-a]".toList = some [.oneOf false [('Z', 'a')]] := by decide +kernel
  constructor
  · rw [language_iff_describes hread, ← matchesTokens_iff]
    cbv
  · cbv

end Testbench.Glob
