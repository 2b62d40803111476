import Testbench.Proofs.Interpreter.Insertion
import Testbench.Proofs.Line.Layout
import Testbench.Proofs.Text.Numerals

/-!
# Label lines

A label is looked for on lines without their white space, and a line is passed over as a label if
its colon comes right behind spaces and tabs. This file says what becomes of a line that carries a
label when it is reached: behind spaces and tabs it is passed over, and behind any other white space
it is taken for a command, whose verb begins with that white space.

* `Line.tokens_of_plain` : how the first token of a line begins.
* `Placeholder.expandWithin_cons` : a token keeps what comes before its first placeholder.
* `VerbTable.Worded` : no verb has a name that begins with white space.
* `Machine.FindsNoVerb` : a step that reports an unknown verb.
* `Script.step_of_label` : what a step at a label line does.
-/

set_option autoImplicit false

namespace Testbench

/-! ## White space -/

namespace Text

theorem toLower_of_isBlank {c : Char} (h : isBlank c = true) : c.toLower = c := by
  have hpoint : ¬ (65 ≤ c.toNat ∧ c.toNat ≤ 90) := by
    intro hc
    simp only [isBlank, blanks, CharSet.contains, CharSet.covers, Bool.and_eq_true,
      Bool.or_eq_true, decide_eq_true_eq] at h
    omega
  unfold Char.toLower
  exact dif_neg hpoint

end Text

/-! ## The first token -/

namespace Line

/-- White space other than spaces and tabs is part of a token. -/
theorem needsQuoting_of_isBlank {c : Char} (h : Text.isBlank c = true) (hg : isGap c = false) :
    needsQuoting c = false ∧ isRemark [c] = false := by
  have hne : ∀ d, Text.isBlank d = false → c ≠ d := by
    rintro d hd rfl
    rw [h] at hd
    cases hd
  simp [needsQuoting, isEscapable, isQuote, isRemark, hg, hne '\'' rfl, hne '\"' rfl, hne ';' rfl,
    hne '\\' rfl, hne ':' rfl]

namespace Scan

/-- The first token, whether it is complete or not, begins with `c`. -/
def Heads (c : Char) (s : Scan) : Prop :=
  (s.tokens = [] ∧ ∃ t, s.token = some (t ++ [c])) ∨ ∃ ts t, s.tokens = ts ++ [c :: t]

variable {c : Char} {s : Scan}

theorem Heads.extend (h : s.Heads c) (d : Char) : (s.extend d).Heads c := by
  rcases h with ⟨hs, t, ht⟩ | hs
  · exact .inl ⟨hs, d :: t, by simp [Scan.extend, ht]⟩
  · exact .inr hs

theorem Heads.close (h : s.Heads c) : s.close.Heads c := by
  unfold Scan.close
  rcases h with ⟨hs, t, ht⟩ | ⟨ts, t, hs⟩
  · rw [ht, hs]
    exact .inr ⟨[], t.reverse, by simp⟩
  · split
    · rename_i token _
      exact .inr ⟨token.reverse :: ts, t, by rw [hs]; rfl⟩
    · exact .inr ⟨ts, t, hs⟩

theorem Heads.begin (h : s.Heads c) (mode : Mode) :
    Heads c { s with mode := mode, token := some (s.token.getD []) } := by
  rcases h with ⟨hs, t, ht⟩ | hs
  · exact .inl ⟨hs, t, by simp [ht]⟩
  · exact .inr hs

theorem Heads.mode (h : s.Heads c) (mode : Mode) : Heads c { s with mode := mode } := h

theorem Heads.stepBare (h : s.Heads c) (d : Char) : (s.stepBare d).Heads c := by
  unfold Scan.stepBare
  split
  · exact h.begin _
  · split
    · exact h.mode _
    · split
      · exact h.mode _
      · split
        · exact h.close
        · exact h.extend d

theorem Heads.stepSpan (h : s.Heads c) (quote d : Char) : (s.stepSpan quote d).Heads c := by
  unfold Scan.stepSpan
  split
  · exact h.mode _
  · split
    · exact h.mode _
    · exact h.extend d

/-- One character more leaves the beginning of the first token. -/
theorem Heads.step (h : s.Heads c) (d : Char) : (s.step d).Heads c := by
  unfold Scan.step
  split
  · exact h.stepBare d
  · split
    · exact (h.mode _).extend d
    · exact ((h.mode _).extend _).stepBare d
  · exact h.stepSpan _ d
  · split
    · exact h.mode _
    · exact ((h.mode _).extend _).stepSpan _ d
  · exact h

theorem Heads.foldl (h : s.Heads c) (text : List Char) : (text.foldl Scan.step s).Heads c := by
  induction text generalizing s with
  | nil => exact h
  | cons d text ih => exact ih (h.step d)

theorem Heads.finish (h : s.Heads c) : ∃ t ts, s.finish = (c :: t) :: ts := by
  have hclosed : ∀ s' : Scan, s'.Heads c → ∃ t ts, s'.close.tokens.reverse = (c :: t) :: ts := by
    intro s' hs'
    rcases hs'.close with ⟨hn, t, ht⟩ | ⟨ts, t, hts⟩
    · -- a token that was begun is complete now
      unfold Scan.close at hn ht
      split at ht
      · cases ht
      · rename_i hnone
        rw [hnone] at ht
        cases ht
    · exact ⟨t, ts.reverse, by rw [hts, List.reverse_append]; rfl⟩
  unfold Scan.finish
  split
  · exact hclosed _ (h.extend _)
  · exact hclosed _ (h.extend _)
  · exact hclosed _ h

end Scan

/-- The first token of a line begins as the line does behind spaces and tabs, if that is an
ordinary character. -/
theorem tokens_of_plain {line rest : List Char} {c : Char} (h : line.dropWhile isGap = c :: rest)
    (hc : needsQuoting c = false) (hr : isRemark [c] = false) :
    ∃ t ts, tokens line = (c :: t) :: ts := by
  have hbegun : (Scan.start.step c).Heads c := by
    have hstep : Scan.start.step c = Scan.start.extend c := stepBare_plain hc _
    rw [hstep]
    exact .inl ⟨rfl, [], rfl⟩
  obtain ⟨t, ts, hfinish⟩ := (hbegun.foldl rest).finish
  have hremark : isRemark (c :: rest) = false := hr
  refine ⟨t, ts, ?_⟩
  simp only [tokens, h, hremark, Bool.false_eq_true, if_false, List.foldl_cons, hfinish]
  rfl

end Line

namespace Placeholder

variable {σ : Type}

theorem substitute_cons (host : Host σ) {c : Char} (hc : c ≠ '$')
    (expandBody : List Char → σ → List Char × σ) (whole : List Char) (budget : Nat)
    (text : List Char) (s : σ) :
    ∃ t, (substitute host expandBody whole budget (c :: text) s).1 = c :: t := by
  unfold substitute
  rw [next?_char fun h => absurd h hc]
  cases next? text with
  | none => exact ⟨text, rfl⟩
  | some found =>
    cases budget with
    | zero => exact ⟨text, rfl⟩
    | succ budget => exact ⟨_, rfl⟩

/-- A token that begins with no placeholder begins the same when it is expanded. -/
theorem expandWithin_cons (host : Host σ) {c : Char} (hc : c ≠ '$') (room : Nat)
    (text : List Char) (s : σ) : ∃ t, (expandWithin host room (c :: text) s).1 = c :: t := by
  cases room with
  | zero => exact ⟨text, rfl⟩
  | succ room => exact substitute_cons host hc _ _ _ _ s

end Placeholder

/-! ## Verbs with ordinary names -/

namespace VerbTable

/-- No verb has a name that begins with white space. -/
def Worded (verbs : VerbTable) : Prop :=
  ∀ v ∈ verbs.verbs, ∀ name ∈ v.names, ∀ c, name.toList.head? = some c → Text.isBlank c = false

theorem Worded.find?_eq_none {verbs : VerbTable} (hv : verbs.Worded) {c : Char} {t : List Char}
    (hc : Text.isBlank c = true) : verbs.find? (String.ofList (c :: t)) = none := by
  have hlower : (Text.asciiLower (String.ofList (c :: t))).toList.head? = some c := by
    simp [Text.asciiLower, Text.toLower_of_isBlank hc]
  unfold find?
  rw [Option.map_eq_none_iff, List.find?_eq_none]
  intro v hmem hname
  have hblank := hv v hmem _ (List.contains_iff_mem.mp hname) c hlower
  rw [hc] at hblank
  cases hblank

end VerbTable

/-- So it is with the verbs that every interpreter has. -/
theorem Interpreter.worded_ofMachine (m : Machine) : (ofMachine m).verbs.Worded := by
  have hcore : (Verb.core.all fun verb => verb.1.all fun name =>
      !(((Text.asciiLower name).toList.head?).any Text.isBlank)) = true := by decide +kernel
  intro v hv name hname c hc
  rw [verbs_ofMachine] at hv
  obtain ⟨verb, hverb, rfl⟩ := List.mem_map.mp hv
  obtain ⟨word, hword, rfl⟩ := List.mem_map.mp hname
  have hb := List.all_eq_true.mp (List.all_eq_true.mp hcore verb hverb) word hword
  simpa [hc] using hb

/-! ## Steps at label lines -/

namespace Machine

/-- A step at the line reports, last of all, that a verb is unknown, and goes on at the next one. -/
def FindsNoVerb (verbs : VerbTable) (line : String) (m : Machine) : Prop :=
  ∃ lines verb, Diagnosed m.turn.place lines ∧
    m.step verbs line = (false, (m.logged (lines ++ [.diagnostic
      (placed m.turn.place (RunError.unknownVerb verb).message)])).advance)

/-- No verb is found for a line whose first token begins with white space. -/
theorem findsNoVerb_of_tokens {line : String} {c : Char} {t : List Char} {ts : List (List Char)}
    (ht : Line.tokens line.toList = (c :: t) :: ts) (hc : Text.isBlank c = true)
    {verbs : VerbTable} (hv : verbs.Worded) (m : Machine) : m.FindsNoVerb verbs line := by
  have hcd : c ≠ '$' := by
    rintro rfl
    cases hc
  have htokens : Line.tokenize line = String.ofList (c :: t) :: ts.map String.ofList := by
    rw [Line.tokenize, ht, List.map_cons]
  have hblank : isBlank line = false := by
    rw [isBlank, htokens]
    simp
  obtain ⟨t', hverb⟩ : ∃ t', (m.prepare line).1.headD "" = String.ofList (c :: t') := by
    obtain ⟨t', ht'⟩ := Placeholder.expandWithin_cons host hcd Placeholder.maxNesting t m
    refine ⟨t', ?_⟩
    rw [← ht', prepare, htokens, Placeholder.expandAll, Placeholder.expand, String.toList_ofList]
    rfl
  have hfind : verbs.find? ((m.prepare line).1.headD "") = none := by
    rw [hverb]
    exact hv.find?_eq_none hc
  obtain ⟨lines, hd, hcommand⟩ := command_of_unknown hblank hfind
  have hgoing : (m.command verbs line).2.2 = false := by rw [hcommand]
  refine ⟨lines, (m.prepare line).1.headD "", hd, ?_⟩
  rw [step_of_going hgoing, hcommand]
  rfl

end Machine

namespace Script

/-- The line of a label: the label and its colon, and white space around them. -/
theorem line_of_findLabel? {s : Script} {label : String} {index : Nat}
    (h : s.findLabel? label = some index) :
    ∃ line margin after, s.lines[index]? = some line ∧
      line.toList = margin ++ (':' :: label.toList ++ after) ∧
      ∀ c ∈ margin ++ after, Text.isBlank c = true := by
  obtain ⟨hlt, hline, -⟩ := Array.findIdx?_eq_some_iff_getElem.mp h
  obtain ⟨margin, after, htext, hblank⟩ := Text.exists_trim s.lines[index].toList
  rw [beq_iff_eq.mp hline] at htext
  exact ⟨s.lines[index], margin, after, Array.getElem?_eq_getElem hlt, htext, hblank⟩

/-- Behind white space that is not all spaces and tabs, a label line is taken for a command. -/
theorem findsNoVerb_of_margin {line : String} {margin rest : List Char}
    (htext : line.toList = margin ++ rest) (hblank : ∀ c ∈ margin, Text.isBlank c = true)
    (hm : ∃ c ∈ margin, Line.isGap c = false) {verbs : VerbTable} (hv : verbs.Worded)
    (m : Machine) : m.FindsNoVerb verbs line := by
  obtain ⟨d, hd, hdgap⟩ := hm
  -- the first character of the margin that is neither a space nor a tab begins a token
  cases hdrop : margin.dropWhile Line.isGap with
  | nil =>
    have hall : margin.takeWhile Line.isGap = margin := by
      have hsplit := @List.takeWhile_append_dropWhile _ Line.isGap margin
      rwa [hdrop, List.append_nil] at hsplit
    rw [← hall] at hd
    rw [List.all_eq_true.mp List.all_takeWhile d hd] at hdgap
    cases hdgap
  | cons c behind =>
    have hc : c ∈ margin := (List.dropWhile_suffix Line.isGap).subset (by simp [hdrop])
    have hcgap : Line.isGap c = false := by
      have hfirst := List.head?_dropWhile_not Line.isGap margin
      rw [hdrop] at hfirst
      simpa using hfirst
    have hline : line.toList.dropWhile Line.isGap = c :: (behind ++ rest) := by
      rw [htext, List.dropWhile_append, hdrop]
      rfl
    obtain ⟨hplain, hremark⟩ := Line.needsQuoting_of_isBlank (hblank c hc) hcgap
    obtain ⟨t, ts, htokens⟩ := Line.tokens_of_plain hline hplain hremark
    exact m.findsNoVerb_of_tokens htokens (hblank c hc) hv

/-- **A label line is passed over exactly if spaces and tabs are all that is in front of its
colon.** A line that is found for a label is the label, its colon and white space around them. If
the white space in front holds spaces and tabs only, a step at the line does nothing but go on at
the next one, whatever the machine and its verbs. If it holds any other, the line is taken for a
command, and as long as no verb has a name that begins with white space, a diagnostic says that its
verb is unknown. -/
theorem step_of_label {s : Script} {label : String} {index : Nat}
    (h : s.findLabel? label = some index) :
    ∃ line margin after, s.lines[index]? = some line ∧
      line.toList = margin ++ (':' :: label.toList ++ after) ∧
      (∀ c ∈ margin ++ after, Text.isBlank c = true) ∧
      ((∀ (verbs : VerbTable) (m : Machine), m.step verbs line = (false, m.advance)) ↔
        ∀ c ∈ margin, Line.isGap c = true) ∧
      ((∃ c ∈ margin, Line.isGap c = false) →
        ∀ (verbs : VerbTable) (m : Machine), verbs.Worded → m.FindsNoVerb verbs line) := by
  obtain ⟨line, margin, after, hline, htext, hblank⟩ := line_of_findLabel? h
  have hmargin : ∀ c ∈ margin, Text.isBlank c = true := fun c hc =>
    hblank c (List.mem_append_left _ hc)
  refine ⟨line, margin, after, hline, htext, hblank, ⟨fun hstep c hc => ?_, fun hgaps => ?_⟩,
    fun hm verbs m hv => findsNoVerb_of_margin htext hmargin hm hv m⟩
  · cases hgap : Line.isGap c with
    | true => rfl
    | false =>
      -- without any verb, a step that reports one as unknown is not the one that passes over it
      have hnone : VerbTable.Worded {} := fun v hv => nomatch hv
      obtain ⟨lines, verb, -, hreported⟩ :=
        findsNoVerb_of_margin htext hmargin ⟨c, hc, hgap⟩ hnone (.ofArgs [])
      rw [hstep] at hreported
      have hlog := congrArg (fun r : Bool × Machine => r.2.log.toList.length) hreported
      simp [Machine.advance, Machine.modifyTop, Machine.logged] at hlog
  · intro verbs m
    apply Machine.step_of_isBlank
    apply Machine.isBlank_of_tokens
    have hdrop : line.toList.dropWhile Line.isGap = ':' :: label.toList ++ after := by
      rw [htext, List.dropWhile_append_of_pos hgaps]
      exact List.dropWhile_cons_of_neg (by decide)
    unfold Line.tokens
    rw [hdrop]
    rfl

/-- Behind a space a label is passed over. -/
theorem step_of_label_indented :
    let s : Script := ⟨"s", #["echo a", " :l"]⟩
    s.findLabel? "l" = some 1 ∧
      ∀ (verbs : VerbTable) (m : Machine), m.step verbs " :l" = (false, m.advance) := by
  intro s
  have hfind : s.findLabel? "l" = some 1 := by decide +kernel
  obtain ⟨line, margin, after, hline, htext, hblank, hpassed, -⟩ := step_of_label hfind
  obtain rfl : " :l" = line := Option.some.inj hline
  refine ⟨hfind, hpassed.mpr fun c hc => ?_⟩
  have hmem : c ∈ [' ', ':', 'l'] := by
    have hline : " :l".toList = [' ', ':', 'l'] := rfl
    rw [← hline, htext]
    exact List.mem_append_left _ hc
  have hcblank := hblank c (List.mem_append_left _ hc)
  simp only [List.mem_cons, List.not_mem_nil, or_false] at hmem
  rcases hmem with rfl | rfl | rfl
  · rfl
  · cases hcblank
  · cases hcblank

/-- Behind a no-break space a label is found, and taken for a command. -/
theorem step_of_label_carried_out :
    let s : Script := ⟨"s", #["\u00a0:l"]⟩
    s.findLabel? "l" = some 0 ∧
      (((Interpreter.ofArgs ["sh"]).runScript 5 s []).map fun r => r.2.machine.log) =
        some #[.diagnostic "s:1: unrecognized command '\u00a0:l'"] := by
  constructor <;> decide +kernel

end Script

end Testbench
