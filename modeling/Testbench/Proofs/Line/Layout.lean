import Testbench.Line.Quoting

/-!
# Quoted tokens read back

A list of tokens can be laid out on a line in many ways: with any gaps between the quoted tokens
and around them, and with a remark at the end.

* `Mode.ofQuote` : where the reading of a line stands when the writing of a token has a span open.
* `foldl_step_quoteToken` : reading a quoted token leaves that token begun and nothing else changed.
* `Layout` : a list of tokens laid out on a line.
* `tokens_line` : a line reads back as the tokens laid out on it.
* `tokenize_line` : the same on strings, with the line that `joinStrings` writes as a case.
-/

set_option autoImplicit false

namespace Testbench.Line

open Scan

/-! ## Characters -/

theorem isGap_iff {c : Char} : isGap c = true ↔ c = ' ' ∨ c = '\t' := by simp [isGap]

theorem isQuote_iff {c : Char} : isQuote c = true ↔ c = '\'' ∨ c = '\"' := by simp [isQuote]

theorem stepBare_gap {c : Char} (h : isGap c = true) (s : Scan) : s.stepBare c = s.close := by
  rcases isGap_iff.mp h with rfl | rfl <;> rfl

theorem stepBare_plain {c : Char} (h : needsQuoting c = false) (s : Scan) :
    s.stepBare c = s.extend c := by
  simp only [needsQuoting, isEscapable, Bool.or_eq_false_iff, beq_eq_false_iff_ne] at h
  simp [stepBare, h]

/-! ## Gaps and plain tokens -/

theorem close_some (mode : Mode) (token : List Char) (done : List (List Char)) :
    close ⟨mode, some token, done⟩ = ⟨mode, none, token.reverse :: done⟩ := rfl

/-- A gap ends the token that was begun, if there is one. -/
theorem foldl_step_gap {gap : List Char} (h : ∀ c ∈ gap, isGap c = true) (token : Option (List Char))
    (done : List (List Char)) :
    gap.foldl step ⟨.bare, token, done⟩ =
      if gap.isEmpty then ⟨.bare, token, done⟩ else close ⟨.bare, token, done⟩ := by
  induction gap generalizing token done with
  | nil => rfl
  | cons c gap ih =>
    have hc : step ⟨.bare, token, done⟩ c = close ⟨.bare, token, done⟩ :=
      stepBare_gap (h c List.mem_cons_self) _
    rw [List.foldl_cons, hc]
    cases token <;> simp [close, ih fun d hd => h d (List.mem_cons_of_mem _ hd)]

/-- The token that was begun, if one was, after the characters `s` more. -/
def grow : Option (List Char) → List Char → Option (List Char)
  | token, [] => token
  | token, c :: s => grow (some (c :: token.getD [])) s

theorem grow_some (token s : List Char) : grow (some token) s = some (s.reverse ++ token) := by
  induction s generalizing token with
  | nil => rfl
  | cons c s ih => simp [grow, ih]

theorem foldl_step_plain {s : List Char} (h : s.any needsQuoting = false)
    (token : Option (List Char)) (done : List (List Char)) :
    s.foldl step ⟨.bare, token, done⟩ = ⟨.bare, grow token s, done⟩ := by
  induction s generalizing token with
  | nil => rfl
  | cons c s ih =>
    simp only [List.any_cons, Bool.or_eq_false_iff] at h
    have hc : step ⟨.bare, token, done⟩ c = ⟨.bare, some (c :: token.getD []), done⟩ :=
      stepBare_plain h.1 _
    rw [List.foldl_cons, hc, ih h.2]
    rfl

/-! ## Spans -/

/-- Where the reading stands when `quote` is the quote of the open span, if one is open. -/
def Mode.ofQuote : Option Char → Mode
  | none => .bare
  | some q => .span q

theorem isQuote_spanQuote (s : List Char) : isQuote (spanQuote s) = true := by
  unfold spanQuote
  split
  · split <;> rfl
  · rfl

/-- The quote of a span is not its first character. -/
theorem spanQuote_ne (c : Char) (s : List Char) : spanQuote (c :: s) ≠ c := by
  by_cases hc : isQuote c = true
  · rcases isQuote_iff.mp hc with rfl | rfl <;> simp [spanQuote, isQuote]
  · intro h
    exact hc (h ▸ isQuote_spanQuote (c :: s))

theorem step_opening {q : Char} (h : isQuote q = true) (token : Option (List Char))
    (done : List (List Char)) :
    step ⟨.bare, token, done⟩ q = ⟨.span q, some (token.getD []), done⟩ := by
  simp [step, stepBare, h]

theorem step_closing (q : Char) (token : Option (List Char)) (done : List (List Char)) :
    step ⟨.span q, token, done⟩ q = ⟨.bare, token, done⟩ := by
  simp [step, stepSpan]

theorem step_inside {q c : Char} (hq : c ≠ q) (hc : c ≠ '\\') (token : Option (List Char))
    (done : List (List Char)) :
    step ⟨.span q, token, done⟩ c = ⟨.span q, some (c :: token.getD []), done⟩ := by
  simp [step, stepSpan, hq, hc, extend]

theorem foldl_step_quote (quote : Option Char) (token : Option (List Char))
    (done : List (List Char)) :
    quote.toList.foldl step ⟨.ofQuote quote, token, done⟩ = ⟨.bare, token, done⟩ := by
  cases quote with
  | none => rfl
  | some q => exact step_closing q token done

/-- Reading follows writing: after the spans of `s` the characters of `s` are in the token. -/
theorem foldl_step_spans (quote : Option Char) (s : List Char) (token : Option (List Char))
    (done : List (List Char)) :
    (spans quote s).foldl step ⟨.ofQuote quote, token, done⟩ = ⟨.bare, grow token s, done⟩ := by
  induction s generalizing quote token with
  | nil => exact foldl_step_quote quote token done
  | cons c rest ih =>
    unfold spans
    by_cases hc : c = '\\'
    · subst hc
      rw [if_pos rfl, List.foldl_append, foldl_step_quote]
      exact ih none _
    · -- a span that opens here takes `c`, since its quote is another character
      have hopen : (spanQuote (c :: rest) :: c :: spans (some (spanQuote (c :: rest))) rest).foldl
          step ⟨.bare, token, done⟩ = ⟨.bare, grow token (c :: rest), done⟩ := by
        rw [List.foldl_cons, step_opening (isQuote_spanQuote _), List.foldl_cons,
          step_inside (spanQuote_ne c rest).symm hc]
        exact ih (some _) _
      rw [if_neg hc]
      cases quote with
      | none => exact hopen
      | some q =>
        by_cases hq : q = c
        · simp only [if_pos hq, Mode.ofQuote]
          rw [List.foldl_cons, step_closing]
          exact hopen
        · simp only [if_neg hq, Mode.ofQuote]
          rw [List.foldl_cons, step_inside (Ne.symm hq) hc]
          exact ih (some q) _

/-- A quoted token, read outside of any token, is that token. -/
theorem foldl_step_quoteToken (token : List Char) (done : List (List Char)) :
    (quoteToken token).foldl step ⟨.bare, none, done⟩ = ⟨.bare, some token.reverse, done⟩ := by
  unfold quoteToken
  cases token with
  | nil => rfl
  | cons c rest =>
    have hgrow : grow none (c :: rest) = some (c :: rest).reverse := by simp [grow, grow_some]
    rw [if_neg (by simp), ← hgrow]
    split
    · rename_i hp
      simp only [isPlain, Bool.and_eq_true, Bool.not_eq_true'] at hp
      exact foldl_step_plain hp.2 none done
    · exact foldl_step_spans none (c :: rest) none done

/-- A quoted token starts neither a gap nor a remark. -/
theorem head_quoteToken (token : List Char) :
    ∃ c rest, quoteToken token = c :: rest ∧ isGap c = false ∧ c ≠ ';' ∧ c ≠ ':' := by
  unfold quoteToken
  cases token with
  | nil => exact ⟨'\'', ['\''], rfl, by decide, by decide, by decide⟩
  | cons c rest =>
    rw [if_neg (by simp)]
    split
    · rename_i hp
      simp only [isPlain, needsQuoting, isEscapable, List.any_cons, Bool.and_eq_true,
        Bool.not_eq_true', Bool.or_eq_false_iff, bne_iff_ne, beq_eq_false_iff_ne] at hp
      exact ⟨c, rest, rfl, hp.2.1.1, hp.2.1.2.1.2, hp.1⟩
    · unfold spans
      split
      · exact ⟨'\\', _, rfl, by decide, by decide, by decide⟩
      · refine ⟨_, _, rfl, ?_⟩
        rcases isQuote_iff.mp (isQuote_spanQuote (c :: rest)) with h | h <;> rw [h] <;> decide

/-! ## Lines -/

/-- A list of tokens laid out on a line: `first` and the tokens of `more`, each of these after a gap
of its own, between two more gaps, and perhaps a remark after a space or a tab. -/
structure Layout where
  lead : List Char
  first : List Char
  more : List (List Char × List Char)
  trail : List Char
  remark : Option (Char × List Char)
  isGap_lead : ∀ c ∈ lead, isGap c = true
  isGap_more : ∀ t ∈ more, t.1 ≠ [] ∧ ∀ c ∈ t.1, isGap c = true
  isGap_trail : ∀ c ∈ trail, isGap c = true
  isGap_remark : ∀ r ∈ remark, isGap r.1 = true

namespace Layout

/-- The tokens that are laid out. -/
def tokens (l : Layout) : List (List Char) := l.first :: l.more.map Prod.snd

/-- The remark as it is written. -/
def remarkText (l : Layout) : List Char :=
  match l.remark with
  | some (gap, text) => gap :: ';' :: text
  | none => []

/-- The line. -/
def line (l : Layout) : List Char :=
  l.lead ++ (quoteToken l.first ++
    (l.more.flatMap (fun t => t.1 ++ quoteToken t.2) ++ (l.trail ++ l.remarkText)))

end Layout

/-- Each gap ends one token and each quoted token begins the next; the last one stays begun. -/
theorem foldl_step_more {more : List (List Char × List Char)}
    (h : ∀ t ∈ more, t.1 ≠ [] ∧ ∀ c ∈ t.1, isGap c = true) (token : List Char)
    (done : List (List Char)) :
    ∃ before last, token :: more.map Prod.snd = before ++ [last] ∧
      (more.flatMap fun t => t.1 ++ quoteToken t.2).foldl step ⟨.bare, some token.reverse, done⟩ =
        ⟨.bare, some last.reverse, before.reverse ++ done⟩ := by
  induction more generalizing token done with
  | nil => exact ⟨[], token, rfl, rfl⟩
  | cons t more ih =>
    obtain ⟨gap, next⟩ := t
    obtain ⟨hne, hgap⟩ := h _ List.mem_cons_self
    have hclose : gap.foldl step ⟨.bare, some token.reverse, done⟩ = ⟨.bare, none, token :: done⟩ := by
      rw [foldl_step_gap hgap, if_neg (by simpa using hne), close_some, List.reverse_reverse]
    obtain ⟨before, last, hlast, hfold⟩ :=
      ih (fun t ht => h t (List.mem_cons_of_mem _ ht)) next (token :: done)
    refine ⟨token :: before, last, by rw [List.map_cons, hlast, List.cons_append], ?_⟩
    rw [List.flatMap_cons, List.foldl_append, List.foldl_append, hclose, foldl_step_quoteToken,
      hfold]
    simp

theorem foldl_step_ended (s : List Char) (token : Option (List Char)) (done : List (List Char)) :
    s.foldl step ⟨.ended, token, done⟩ = ⟨.ended, token, done⟩ := by
  induction s with
  | nil => rfl
  | cons c s ih => exact ih

/-- A gap, with or without a remark behind it, ends the last token. -/
theorem finish_trail (l : Layout) (token : List Char) (done : List (List Char)) :
    ((l.trail ++ l.remarkText).foldl step ⟨.bare, some token.reverse, done⟩).finish =
      (token :: done).reverse := by
  unfold Layout.remarkText
  cases hr : l.remark with
  | none =>
    simp only [List.append_nil]
    rw [foldl_step_gap l.isGap_trail]
    split <;> simp [finish, close]
  | some r =>
    obtain ⟨gap, text⟩ := r
    have hgap : ∀ c ∈ l.trail ++ [gap], isGap c = true := by
      intro c hc
      rcases List.mem_append.mp hc with hc | hc
      · exact l.isGap_trail c hc
      · exact List.mem_singleton.mp hc ▸ l.isGap_remark _ hr
    have hsplit : l.trail ++ gap :: ';' :: text = (l.trail ++ [gap]) ++ (';' :: text) := by simp
    have hend : step ⟨.bare, none, token :: done⟩ ';' = ⟨.ended, none, token :: done⟩ := rfl
    simp only [hsplit]
    rw [List.foldl_append, foldl_step_gap hgap, if_neg (by simp), close_some,
      List.reverse_reverse, List.foldl_cons, hend, foldl_step_ended]
    rfl

/-- A line reads back as the tokens that are laid out on it. -/
theorem tokens_line (l : Layout) : tokens l.line = l.tokens := by
  obtain ⟨c, rest, hq, hgap, hsemi, hcolon⟩ := head_quoteToken l.first
  obtain ⟨before, last, hlast, hfold⟩ := foldl_step_more l.isGap_more l.first []
  have htext : l.line.dropWhile isGap = quoteToken l.first ++
      (l.more.flatMap (fun t => t.1 ++ quoteToken t.2) ++ (l.trail ++ l.remarkText)) := by
    unfold Layout.line
    rw [List.dropWhile_append_of_pos l.isGap_lead, hq, List.cons_append,
      List.dropWhile_cons_of_neg (by simp [hgap])]
  have hfinish : ((l.line.dropWhile isGap).foldl step start).finish = l.tokens := by
    rw [htext, List.foldl_append, List.foldl_append, start, foldl_step_quoteToken, hfold,
      finish_trail, List.append_nil, Layout.tokens, hlast]
    simp
  have hremark : isRemark (l.line.dropWhile isGap) = false := by
    rw [htext, hq]
    simp [isRemark, hsemi, hcolon]
  unfold Line.tokens
  simp only [hremark, hfinish]
  simp [orBlank, Layout.tokens]

/-! ## Strings -/

/-- The line that `joinTokens` writes: one space in each gap and no remark. -/
def Layout.spaced (first : List Char) (rest : List (List Char)) : Layout where
  lead := []
  first := first
  more := rest.map fun token => ([' '], token)
  trail := []
  remark := none
  isGap_lead := by simp
  isGap_more := by
    intro t ht
    obtain ⟨token, -, rfl⟩ := List.mem_map.mp ht
    simp [isGap]
  isGap_trail := by simp
  isGap_remark := by simp

theorem Layout.tokens_spaced (first : List Char) (rest : List (List Char)) :
    (Layout.spaced first rest).tokens = first :: rest := by
  simp [Layout.tokens, Layout.spaced, Function.comp_def]

theorem Layout.line_spaced (first : List Char) (rest : List (List Char)) :
    (Layout.spaced first rest).line = joinTokens (first :: rest) := by
  induction rest generalizing first with
  | nil => simp [Layout.line, Layout.remarkText, Layout.spaced, joinTokens]
  | cons next rest ih =>
    have hnext := ih next
    simp only [Layout.line, Layout.remarkText, Layout.spaced, joinTokens, List.map_cons,
      List.flatMap_cons, List.nil_append, List.append_nil, List.intercalate_cons_cons] at hnext ⊢
    rw [← hnext]
    simp

/-- **Quoting round-trips.** However tokens are laid out on a line, the line is read as these
tokens; `joinStrings` is one way to lay them out. -/
theorem tokenize_line (l : Layout) :
    tokenize (String.ofList l.line) = l.tokens.map String.ofList ∧
      tokenize (joinStrings (l.tokens.map String.ofList)) = l.tokens.map String.ofList := by
  refine ⟨?_, ?_⟩
  · simp only [tokenize, String.toList_ofList, tokens_line]
  · have hjoin : joinTokens l.tokens = (Layout.spaced l.first (l.more.map Prod.snd)).line :=
      (Layout.line_spaced _ _).symm
    simp only [tokenize, joinStrings, List.map_map, Function.comp_def, String.toList_ofList,
      List.map_id', hjoin, tokens_line, Layout.tokens_spaced]
    rfl

end Testbench.Line
