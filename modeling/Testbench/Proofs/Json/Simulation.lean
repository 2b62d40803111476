import Testbench.Proofs.Json.Automaton
import Testbench.Proofs.Json.Building

/-!
# The reader and the automaton

Whatever the reader of strict texts reads, the automaton runs over; and where the reader stops with
an error, the automaton has run up to that place and cannot go on.

* `Automaton.Alike` : states that are the same as to what is next.
* `Automaton.Leads`, `Automaton.Blames`, `Automaton.Fails` : a run up to a place, a state that an
  error is about, and a run up to such a state.
* `Automaton.Follows` : what a reader tells about the automaton, by its answer.
* `Automaton.follows_readValue` : **the reader of values is followed by the automaton**, and so is
  each of its parts.
-/

set_option autoImplicit false

namespace Testbench.Json.Automaton

open Text Grammar
open Arena (readItems readEnclosed readObject_eq readArray_eq)
open Cursor (Spans Avoids)

variable {q q' q'' : State} {a b : Cursor} {e : Error}

/-! ## Runs -/

/-- At a place, two states are the same as to the end, the containers and the next character. -/
structure Alike (q q' : State) (a : Cursor) : Prop where
  stack_eq : q.stack = q'.stack
  final_eq : q.final = q'.final
  step?_eq : ∀ c, a.rest.head? = some c → q.step? c = q'.step? c

theorem Alike.refl (q : State) (a : Cursor) : Alike q q a := ⟨rfl, rfl, fun _ _ => rfl⟩

theorem Alike.trans (h : Alike q q' a) (h' : Alike q' q'' a) : Alike q q'' a :=
  ⟨h.stack_eq.trans h'.stack_eq, h.final_eq.trans h'.final_eq,
    fun c hc => (h.step?_eq c hc).trans (h'.step?_eq c hc)⟩

/-- The automaton runs from one place to another, to a state that is there like `q'`. -/
def Leads (q : State) (a : Cursor) (q' : State) (b : Cursor) : Prop :=
  ∃ s r, Spans s a b ∧ q.run? s = some r ∧ Alike r q' b

/-- There is no next character that the state can take, and a text may not end here either. -/
def Stuck (q : State) (a : Cursor) : Prop :=
  match a.rest with
  | [] => q.final = false
  | c :: _ => q.step? c = none

/-- The error is about this place, at which the state cannot go on. -/
structure Blames (q : State) (a : Cursor) (e : Error) : Prop where
  offset_eq : e.offset = a.offset
  stuck : Stuck q a
  unexpectedEnd : e.kind = .unexpectedEnd → a.rest = []
  tooDeep : e.kind = .tooDeep → q.stack.length = maxNesting ∧ a.Starts opensContainer

/-- The automaton runs up to what the error is about. -/
def Fails (q : State) (a : Cursor) (e : Error) : Prop :=
  ∃ s p r, Spans s a p ∧ q.run? s = some r ∧ Blames r p e

theorem Leads.of_alike (h : Alike q q' a) : Leads q a q' a := ⟨[], q, .nil a, rfl, h⟩

theorem Leads.refl (q : State) (a : Cursor) : Leads q a q a := .of_alike (.refl q a)

/-- States that are alike run alike over a text that is not empty. -/
theorem Alike.run?_eq (h : Alike q q' a) {c : Char} {s : List Char} (hs : Spans (c :: s) a b) :
    q.run? (c :: s) = q'.run? (c :: s) := by
  rw [State.run?, State.run?, h.step?_eq c (by rw [hs.1]; rfl)]

theorem Leads.trans {c : Cursor} (h : Leads q a q' b) (h' : Leads q' b q'' c) :
    Leads q a q'' c := by
  obtain ⟨s, r, hs, hrun, halike⟩ := h
  obtain ⟨s', r', hs', hrun', halike'⟩ := h'
  cases s' with
  | nil =>
    obtain rfl := hs'.unique (.nil b)
    cases hrun'
    exact ⟨s, r, hs, hrun, halike.trans halike'⟩
  | cons d s' =>
    refine ⟨s ++ d :: s', r', hs.trans hs', ?_, halike'⟩
    rw [State.run?_append, hrun, Option.bind_some, halike.run?_eq hs', hrun']

theorem stuck_of (hf : q.final = false)
    (hstep : ∀ c rest, a.rest = c :: rest → q.step? c = none) : Stuck q a := by
  unfold Stuck
  split
  · exact hf
  · rename_i c rest hr
    exact hstep c rest hr

theorem Alike.stuck (h : Alike q q' a) (hs : Stuck q' a) : Stuck q a := by
  unfold Stuck at hs ⊢
  split
  · rename_i hr
    rw [hr] at hs
    exact h.final_eq.trans hs
  · rename_i c rest hr
    rw [hr] at hs
    exact (h.step?_eq c (by rw [hr]; rfl)).trans hs

theorem Fails.of_leads (h : Leads q a q' b) (he : Fails q' b e) : Fails q a e := by
  obtain ⟨s, r, hs, hrun, halike⟩ := h
  obtain ⟨s', p, r', hs', hrun', hblames⟩ := he
  cases s' with
  | nil =>
    obtain rfl := hs'.unique (.nil b)
    cases hrun'
    refine ⟨s, p, r, hs, hrun, hblames.offset_eq, halike.stuck hblames.stuck,
      hblames.unexpectedEnd, fun hkind => ?_⟩
    rw [halike.stack_eq]
    exact hblames.tooDeep hkind
  | cons d s' =>
    refine ⟨s ++ d :: s', p, r', hs.trans hs', ?_, hblames⟩
    rw [State.run?_append, hrun, Option.bind_some, halike.run?_eq hs', hrun']

theorem Leads.length_le (h : Leads q a q' b) : b.rest.length ≤ a.rest.length := by
  obtain ⟨s, -, hs, -⟩ := h
  rw [hs.length_eq]
  omega

theorem Leads.of_spans {c : Char} (h : Spans [c] a b) (hq : q.step? c = some q') :
    Leads q a q' b := by
  refine ⟨[c], q', h, ?_, .refl q' b⟩
  rw [State.run?, hq]
  rfl

/-- A character of one byte, as readers pass it. -/
theorem Leads.step {c : Char} {rest : List Char} (hr : a.rest = c :: rest) (hc : c.utf8Size = 1)
    (hq : q.step? c = some q') : Leads q a q' ⟨a.offset + 1, rest⟩ :=
  .of_spans ((Cursor.spans_ascii hc).mpr ⟨hr, rfl⟩) hq

theorem run?_loop {s : List Char} (h : ∀ c ∈ s, q.step? c = some q) : q.run? s = some q := by
  induction s with
  | nil => rfl
  | cons c s ih =>
    rw [State.run?, h c List.mem_cons_self]
    exact ih fun d hd => h d (List.mem_cons_of_mem _ hd)

theorem Leads.skipSpace (hq : q.phase.idle = true) (a : Cursor) : Leads q a q a.skipSpace := by
  refine ⟨(a.run isSpace).1, q, Cursor.spans_run isSpace a, run?_loop fun c hc => ?_, .refl q _⟩
  rw [State.step?, hq, Cursor.mem_run hc]
  rfl

theorem Fails.here (h : Stuck q a) {kind : ErrorKind}
    (hend : kind = .unexpectedEnd → a.rest = []) (hdeep : kind ≠ .tooDeep) :
    Fails q a ⟨kind, a.offset⟩ :=
  ⟨[], a, q, .nil a, rfl, rfl, h, hend, fun hkind => absurd hkind hdeep⟩

theorem Fails.fail (h : Stuck q a) : Fails q a (a.fail .unexpectedChar) := by
  unfold Cursor.fail
  split
  · rename_i hr
    exact .here h (fun _ => List.isEmpty_iff.mp hr) (by decide)
  · exact .here h (fun hkind => nomatch hkind) (by decide)

/-! ## What a reader tells -/

/-- Where the reader goes on, the automaton runs to `q'`; where it stops, so does the automaton. -/
def Follows {α : Type} (place : α → Cursor) (q : State) (a : Cursor) (q' : State) :
    Except Error α → Prop
  | .ok r => Leads q a q' (place r)
  | .error e => Fails q a e

variable {α β : Type} {place : α → Cursor} {place' : β → Cursor} {x : Except Error α}

theorem Follows.of_leads (h : Leads q a q' b) (hx : Follows place q' b q'' x) :
    Follows place q a q'' x := by
  cases x with
  | ok r => exact h.trans hx
  | error e => exact .of_leads h hx

theorem Follows.bind {f : α → Except Error β} (hx : Follows place q a q' x)
    (hf : ∀ r, Leads q a q' (place r) → Follows place' q' (place r) q'' (f r)) :
    Follows place' q a q'' (x >>= f) := by
  cases x with
  | ok r => exact .of_leads hx (hf r hx)
  | error e => exact hx

theorem Follows.of_alike (hx : Follows place q a q' x) (h : ∀ b, Alike q' q'' b) :
    Follows place q a q'' x := by
  cases x with
  | ok r => exact Leads.trans hx (.of_alike (h (place r)))
  | error e => exact hx

theorem Follows.map {f : α → β} (hx : Follows place q a q' x)
    (hf : ∀ r, place' (f r) = place r) : Follows place' q a q' (x.map f) := by
  cases x with
  | ok r =>
    have hleads : Leads q a q' (place r) := hx
    rw [← hf r] at hleads
    exact hleads
  | error e => exact hx

/-! ## Strings and literals -/

theorem follows_readStringFrom (stack : List Opened) (name : Bool) (state : StringState)
    (offset : Nat) (rest : List Char) :
    Follows Prod.snd ⟨stack, .string name state⟩ ⟨offset, rest⟩
      ⟨stack, if name then .colon else .after⟩
      (readStringFrom .strict ⟨'\"', false⟩ state offset rest) := by
  -- a character that the string goes on with
  have hstep : ∀ {state state' : StringState} {offset : Nat} {c : Char} {rest : List Char}
      {x : Except Error (Nat × Cursor)},
      State.spell? ⟨stack, .string name state⟩ name state c = some ⟨stack, .string name state'⟩ →
      Follows Prod.snd ⟨stack, .string name state'⟩ ⟨offset + c.utf8Size, rest⟩
        ⟨stack, if name then .colon else .after⟩ x →
      Follows Prod.snd ⟨stack, .string name state⟩ ⟨offset, c :: rest⟩
        ⟨stack, if name then .colon else .after⟩ x :=
    fun hspell hx => .of_leads (.of_spans (Cursor.spans_singleton.mpr ⟨rfl, rfl⟩) hspell) hx
  -- a character that it cannot go on with
  have hstuck : ∀ {state : StringState} {offset : Nat} {c : Char} {rest : List Char}
      {kind : ErrorKind}, State.spell? ⟨stack, .string name state⟩ name state c = none →
      kind ≠ .unexpectedEnd → kind ≠ .tooDeep →
      Fails ⟨stack, .string name state⟩ ⟨offset, c :: rest⟩ ⟨kind, offset⟩ := by
    intro state offset c rest kind hspell hend hdeep
    have hs : Stuck ⟨stack, .string name state⟩ ⟨offset, c :: rest⟩ := hspell
    exact .here hs (fun hkind => absurd hkind hend) hdeep
  have hhex : ∀ {c : Char}, (hexValue? c).isSome = true → c.utf8Size = 1 :=
    fun hc => utf8Size_of_isHexDigit (isHexDigit_iff.mp hc)
  fun_induction readStringFrom .strict ⟨'\"', false⟩ state offset rest with
  | case1 state offset =>
    have hfinal : Stuck ⟨stack, .string name state⟩ ⟨offset, []⟩ := Bool.and_false _
    exact .here hfinal (fun _ => rfl) (by decide)
  | case2 offset c rest hc =>
    have hspell : State.spell? ⟨stack, .string name .plain⟩ name .plain c =
        some ⟨stack, if name then .colon else .after⟩ := if_pos hc.1
    exact .of_spans (Cursor.spans_singleton.mpr ⟨rfl, rfl⟩) hspell
  | case3 offset rest hc ih => exact hstep (by simp [State.spell?, State.toPhase]) ih
  | case4 offset c rest hq hb h20 =>
    exact hstuck (by simp_all [State.spell?]) (by decide) (by decide)
  | case5 offset c rest hq hb h20 ih => exact hstep (by simp_all [State.spell?, State.toPhase]) ih
  | case6 offset c rest hc => exact absurd hc.2 (by decide)
  | case7 offset c rest hq hc ih => exact hstep (by simp [State.spell?, State.toPhase, hc]) ih
  | case8 offset rest hq hc ih => exact hstep (by simp [State.spell?, State.toPhase, hc]) ih
  | case9 offset c rest hq hc hu =>
    exact hstuck (by simp [State.spell?, hc, hu]) (by decide) (by decide)
  | case10 offset c rest hc ih =>
    have hspell : State.spell? ⟨stack, .string name (.digits 0)⟩ name (.digits 0) c =
        some ⟨stack, .string name .plain⟩ := if_pos hc
    refine hstep hspell ?_
    rw [hhex hc]
    exact ih
  | case11 offset c rest hc more ih =>
    have hspell :
        State.spell? ⟨stack, .string name (.digits (more + 1))⟩ name (.digits (more + 1)) c =
          some ⟨stack, .string name (.digits more)⟩ := if_pos hc
    refine hstep hspell ?_
    rw [hhex hc]
    exact ih
  | case12 more offset c rest hc =>
    exact hstuck (by simp [State.spell?, hc]) (by decide) (by decide)

/-- Without a quote there is no strict string. -/
theorem readString?_strict (h : ∀ rest, a.rest ≠ '\"' :: rest) : readString? .strict a = none := by
  unfold readString?
  split
  · rename_i hr; exact absurd hr (h _)
  · rename_i hmode _; cases hmode
  · rename_i hmode _; cases hmode
  · rename_i hmode _; cases hmode
  · rfl

/-- A string behind its opening quote. -/
theorem follows_readString {stack : List Opened} {name : Bool} {rest : List Char}
    (hr : a.rest = '\"' :: rest) (hq : q.step? '\"' = some ⟨stack, .string name .plain⟩) :
    ∃ reading, readString? .strict a = some reading ∧
      Follows Prod.snd q a ⟨stack, if name then .colon else .after⟩ reading := by
  refine ⟨readStringAfter .strict ⟨'\"', false⟩ .double (a.offset + 1) rest, ?_, ?_⟩
  · simp only [readString?, hr]
  · refine .of_leads (.step hr rfl hq) ?_
    have hread := follows_readStringFrom stack name .plain (a.offset + 1) rest
    exact hread.bind fun r hleads => .refl _ _

theorem follows_readWord (stack : List Opened) {word : List Char}
    (hw : ∀ c ∈ word, c.utf8Size = 1) :
    Follows id ⟨stack, .spelling word⟩ a ⟨stack, .after⟩ (readWord word a) := by
  induction word generalizing a with
  | nil => exact Leads.refl _ a
  | cons w word ih =>
    have hstep : ∀ c, State.step? ⟨stack, .word w word⟩ c =
        if c = w then some ⟨stack, .spelling word⟩ else none := fun _ => rfl
    unfold readWord
    split
    · rename_i c rest hr
      split
      · rename_i hc
        subst hc
        refine .of_leads (.step hr (hw c List.mem_cons_self) ((hstep c).trans (if_pos rfl))) ?_
        exact ih fun d hd => hw d (List.mem_cons_of_mem _ hd)
      · rename_i hc
        have hstuck : Stuck ⟨stack, .word w word⟩ a := by
          refine stuck_of (Bool.and_false _) fun d rest' hd => ?_
          rw [hr] at hd
          cases hd
          exact (hstep c).trans (if_neg hc)
        exact .here hstuck (fun hkind => by cases hkind) (by decide)
    · rename_i hr
      have hstuck : Stuck ⟨stack, .word w word⟩ a :=
        stuck_of (Bool.and_false _) fun d rest hd => nomatch hr.symm.trans hd
      exact .here hstuck (fun _ => hr) (by decide)

theorem follows_readLiteral {stack : List Opened} {c : Char} {word rest : List Char}
    (hr : a.rest = c :: rest) (hw : ∀ d ∈ c :: word, d.utf8Size = 1) (kind : ScalarKind)
    (hq : q.step? c = some ⟨stack, .spelling word⟩) :
    Follows Prod.snd q a ⟨stack, .after⟩ (readLiteral kind (c :: word) a) := by
  have hread : readWord (c :: word) a = readWord word ⟨a.offset + 1, rest⟩ := by
    rw [readWord]
    simp only [hr, if_true]
  have hword : Follows id ⟨stack, .spelling word⟩ ⟨a.offset + 1, rest⟩ ⟨stack, .after⟩
      (readWord word ⟨a.offset + 1, rest⟩) :=
    follows_readWord stack fun d hd => hw d (List.mem_cons_of_mem _ hd)
  rw [readLiteral, hread]
  exact .of_leads (.step hr (hw c List.mem_cons_self) hq) (hword.map fun _ => rfl)

/-! ## Numbers -/

variable {stack : List Opened}

/-- Behind digits, no digit comes. -/
theorem alike_figures (ha : a.Avoids Char.isDigit) (point exponent : Bool) :
    Alike ⟨stack, .figures true point exponent⟩ ⟨stack, .figures false point exponent⟩ a := by
  refine ⟨rfl, rfl, fun c hc => ?_⟩
  simp [State.step?, Phase.idle, ha c hc, State.toPhase, State.resume?, State.leave]

theorem follows_readDigits {point exponent : Bool} (hq : q.final = false)
    (hdigit : ∀ c, a.rest.head? = some c → c.isDigit = true →
      q.step? c = some ⟨stack, .figures true point exponent⟩)
    (hother : ∀ c, c.isDigit = false → q.step? c = none) :
    Follows id q a ⟨stack, .figures false point exponent⟩ (readDigits a) := by
  unfold readDigits
  have hspans := Cursor.spans_run Char.isDigit a
  have hall : ∀ c ∈ (a.run Char.isDigit).1, c.isDigit = true := fun _ => Cursor.mem_run
  have hend := Cursor.avoids_run Char.isDigit a
  generalize a.run Char.isDigit = digits at hspans hall hend
  obtain ⟨text, after⟩ := digits
  simp only at hspans hall hend ⊢
  split
  · rename_i hempty
    obtain rfl := List.isEmpty_iff.mp hempty
    obtain rfl := hspans.unique (.nil a)
    refine .here (stuck_of hq fun c rest hr => hother c ?_) (fun hkind => nomatch hkind) (by decide)
    exact hend c (by rw [hr]; rfl)
  · rename_i hne
    cases text with
    | nil => exact absurd rfl hne
    | cons c text =>
      have hfirst := hdigit c (by rw [hspans.1]; rfl) (hall c List.mem_cons_self)
      have hloop : ∀ d ∈ text, State.step? ⟨stack, .figures true point exponent⟩ d =
          some ⟨stack, .figures true point exponent⟩ := by
        intro d hd
        simp [State.step?, Phase.idle, hall d (List.mem_cons_of_mem _ hd)]
      refine ⟨c :: text, _, hspans, ?_, alike_figures hend point exponent⟩
      rw [State.run?, hfirst]
      exact run?_loop hloop

theorem follows_readWhole :
    Follows id ⟨stack, .sign⟩ a ⟨stack, .figures false true true⟩ (readWhole a) := by
  have hstep : ∀ c, State.step? ⟨stack, .sign⟩ c = State.whole? ⟨stack, .sign⟩ c := fun _ => rfl
  unfold readWhole
  split
  · rename_i after hnext
    obtain ⟨c, hc, hs⟩ := Cursor.next?_eq_some_iff.mp hnext
    obtain rfl := beq_iff_eq.mp hc
    exact Leads.of_spans hs rfl
  · rename_i hnext
    have hzero := Cursor.next?_eq_none_iff.mp hnext
    refine follows_readDigits (Bool.and_false _) (fun c hc hd => ?_) fun c hd => ?_
    · have hne : c ≠ '0' := by simpa using hzero c hc
      rw [hstep, State.whole?, if_neg hne, if_pos hd]
      rfl
    · have hne : c ≠ '0' := by
        rintro rfl
        cases hd
      rw [hstep, State.whole?, if_neg hne, if_neg (by simp [hd])]

theorem follows_readFraction :
    Follows id ⟨stack, .figures false true true⟩ a ⟨stack, .figures false false true⟩
      (readFraction a) := by
  unfold readFraction
  split
  · rename_i after hnext
    obtain ⟨c, hc, hs⟩ := Cursor.next?_eq_some_iff.mp hnext
    obtain rfl := beq_iff_eq.mp hc
    have hpoint : Leads ⟨stack, .figures false true true⟩ a ⟨stack, .point⟩ after :=
      .of_spans hs rfl
    have hstep : ∀ c, State.step? ⟨stack, .point⟩ c = State.digit? ⟨stack, .point⟩ true c :=
      fun _ => rfl
    refine .of_leads hpoint (follows_readDigits (Bool.and_false _) ?_ ?_)
    · exact fun c _ hd => (hstep c).trans (if_pos hd)
    · exact fun c hd => (hstep c).trans (if_neg (by simp [hd]))
  · rename_i hnext
    have hpoint := Cursor.next?_eq_none_iff.mp hnext
    refine Leads.of_alike ⟨rfl, rfl, fun c hc => ?_⟩
    have hne : (c == '.') = false := hpoint c hc
    simp [State.step?, Phase.idle, hne, State.toPhase, State.resume?, State.leave]

theorem step?_after (c : Char) :
    State.step? ⟨stack, .after⟩ c = State.resume? ⟨stack, .after⟩ c := by
  unfold State.step?
  split
  · rename_i hc
    rw [State.resume?, if_pos (Bool.and_eq_true_iff.mp hc).2]
    rfl
  · rfl

theorem follows_readExponent :
    Follows id ⟨stack, .figures false false true⟩ a ⟨stack, .after⟩ (readExponent a) := by
  -- what stands behind a number is what stands behind a value
  have hresume : ∀ {a : Cursor} (exponent : Bool),
      (∀ c, a.rest.head? = some c → (exponent && (c == 'e' || c == 'E')) = false) →
      Alike ⟨stack, .figures false false exponent⟩ ⟨stack, .after⟩ a := by
    intro a exponent hnone
    refine ⟨rfl, rfl, fun c hc => ?_⟩
    rw [step?_after]
    simp only [State.step?, Phase.idle, Bool.false_and, Bool.false_eq_true, if_false, hnone c hc]
    rfl
  unfold readExponent
  split
  · rename_i after hnext
    obtain ⟨c, hc, hs⟩ := Cursor.next?_eq_some_iff.mp hnext
    have hletter : Leads ⟨stack, .figures false false true⟩ a ⟨stack, .exponent⟩ after :=
      .of_spans hs (by simp [State.step?, Phase.idle, hc, State.toPhase])
    have hsign : Leads ⟨stack, .exponent⟩ after ⟨stack, .exponentSign⟩
        ((after.next? fun c => c == '+' || c == '-').getD after) := by
      cases hnext : after.next? fun c => c == '+' || c == '-' with
      | some p =>
        obtain ⟨d, hd, hp⟩ := Cursor.next?_eq_some_iff.mp hnext
        exact .of_spans hp (if_pos hd)
      | none =>
        have hnone := Cursor.next?_eq_none_iff.mp hnext
        refine .of_alike ⟨rfl, rfl, fun d hd => ?_⟩
        have hne : (d == '+' || d == '-') = false := hnone d hd
        simp [State.step?, Phase.idle, State.digit?, hne, State.toPhase]
    have hstep : ∀ c,
        State.step? ⟨stack, .exponentSign⟩ c = State.digit? ⟨stack, .exponentSign⟩ false c :=
      fun _ => rfl
    have hdigits : Follows id ⟨stack, .exponentSign⟩
        ((after.next? fun c => c == '+' || c == '-').getD after) ⟨stack, .figures false false false⟩
        (readDigits ((after.next? fun c => c == '+' || c == '-').getD after)) :=
      follows_readDigits (Bool.and_false _) (fun c _ hd => (hstep c).trans (if_pos hd)) fun c hd =>
        (hstep c).trans (if_neg (by simp [hd]))
    have hafter := hdigits.of_alike fun _ => hresume false fun _ _ => rfl
    exact .of_leads hletter (.of_leads hsign hafter)
  · rename_i hnext
    exact Leads.of_alike (hresume true (Cursor.next?_eq_none_iff.mp hnext))

/-- A digit begins a number as it does behind a sign. -/
theorem begin?_digit {c : Char} (hc : c.isDigit = true) : q.begin? c = q.whole? c := by
  have hne : ∀ d : Char, d.isDigit = false → c ≠ d := by
    rintro d hd rfl
    rw [hc] at hd
    cases hd
  simp only [State.begin?, hne '\x7b' rfl, hne '[' rfl, hne '\"' rfl, hne 't' rfl, hne 'f' rfl,
    hne 'n' rfl, hne '-' rfl, if_false]

/-- What is no white space begins a value, where one comes next. -/
theorem step?_value {c : Char} (hc : isSpace c = false) :
    State.step? ⟨stack, .value⟩ c = State.begin? ⟨stack, .value⟩ c := by
  rw [State.step?, hc]
  rfl

theorem isSpace_of_startsNumber {c : Char} (hc : startsNumber c = true) : isSpace c = false := by
  cases hs : isSpace c with
  | false => rfl
  | true =>
    rw [apart_of_isSpace (p := startsNumber) rfl hs] at hc
    cases hc

theorem follows_readNumber (ha : a.Starts startsNumber) :
    Follows Prod.snd ⟨stack, .value⟩ a ⟨stack, .after⟩ (readNumber a) := by
  have hsign : Leads ⟨stack, .value⟩ a ⟨stack, .sign⟩ ((a.next? (· == '-')).getD a) := by
    cases hnext : a.next? (· == '-') with
    | some p =>
      obtain ⟨c, hc, hp⟩ := Cursor.next?_eq_some_iff.mp hnext
      obtain rfl := beq_iff_eq.mp hc
      exact .of_spans hp rfl
    | none =>
      obtain ⟨c, rest, hr, hc⟩ := ha
      have hminus := Cursor.next?_eq_none_iff.mp hnext c (by rw [hr]; rfl)
      have hdigit : c.isDigit = true := by
        rw [startsNumber, hminus] at hc
        exact hc
      refine .of_alike ⟨rfl, rfl, fun d hd => ?_⟩
      rw [hr] at hd
      cases hd
      rw [step?_value (isSpace_of_startsNumber hc), begin?_digit hdigit]
      rfl
  refine .of_leads hsign (Follows.bind follows_readWhole fun after _ => ?_)
  refine Follows.bind follows_readFraction fun after' _ => ?_
  refine Follows.bind follows_readExponent fun after'' _ => ?_
  exact Leads.refl _ _

/-! ## Scalars and names -/

theorem follows_readScalar (hspace : a.Avoids isSpace) (hopens : a.Avoids opensContainer) :
    Follows Prod.snd ⟨stack, .value⟩ a ⟨stack, .after⟩ (readScalar .strict a) := by
  have hbegin : ∀ {c rest}, a.rest = c :: rest →
      State.step? ⟨stack, .value⟩ c = State.begin? ⟨stack, .value⟩ c :=
    fun hr => step?_value (hspace _ (by rw [hr]; rfl))
  have hascii : ∀ {word : List Char}, (word.all fun c => c.utf8Size == 1) = true →
      ∀ c ∈ word, c.utf8Size = 1 :=
    fun hw c hc => beq_iff_eq.mp (List.all_eq_true.mp hw c hc)
  by_cases hquote : ∃ rest, a.rest = '\"' :: rest
  · obtain ⟨rest, hr⟩ := hquote
    have hstep : State.step? ⟨stack, .value⟩ '\"' = some ⟨stack, .string false .plain⟩ :=
      (hbegin hr).trans rfl
    obtain ⟨reading, hreading, hfollows⟩ := follows_readString hr hstep
    simp only [readScalar, hreading]
    exact hfollows.map fun _ => rfl
  · rw [not_exists] at hquote
    simp only [readScalar, readString?_strict hquote]
    split
    · rename_i rest hr
      exact follows_readLiteral hr (hascii rfl) .boolean (hbegin hr)
    · rename_i rest hr
      exact follows_readLiteral hr (hascii rfl) .boolean (hbegin hr)
    · rename_i rest hr
      exact follows_readLiteral hr (hascii rfl) .null (hbegin hr)
    · rename_i c rest ht hf hn hr
      split
      · rename_i hc
        exact follows_readNumber ⟨c, rest, hr, hc⟩
      · rename_i hc
        have hother : State.begin? ⟨stack, .value⟩ c = none := by
          have hword : c ≠ 't' ∧ c ≠ 'f' ∧ c ≠ 'n' := ⟨ht, hf, hn⟩
          have hbracket := hopens c (by rw [hr]; rfl)
          have hne : c ≠ '\"' := fun h => hquote rest (h ▸ hr)
          simp only [opensContainer, Bool.or_eq_false_iff, beq_eq_false_iff_ne] at hbracket
          simp only [Bool.or_eq_true, beq_iff_eq, not_or, Bool.not_eq_true] at hc
          have hzero : c ≠ '0' := by
            rintro rfl
            cases hc.2
          simp [State.begin?, hbracket, hne, hword, hc, State.whole?, hzero]
        have hstuck : Stuck ⟨stack, .value⟩ a := by
          refine stuck_of (Bool.and_false _) fun d rest' hd => ?_
          rw [hbegin hd]
          cases hr.symm.trans hd
          exact hother
        exact .here hstuck (fun hkind => by cases hkind) (by decide)
    · rename_i hr
      have hstuck : Stuck ⟨stack, .value⟩ a :=
        stuck_of (Bool.and_false _) fun c rest hc => by cases hr.symm.trans hc
      exact .here hstuck (fun _ => hr) (by decide)

theorem follows_readName (hspace : a.Avoids isSpace) :
    Follows Prod.snd ⟨stack, .member⟩ a ⟨stack, .colon⟩ (readName .strict a) := by
  have hstep : ∀ {c rest}, a.rest = c :: rest →
      State.step? ⟨stack, .member⟩ c = State.name? ⟨stack, .member⟩ c := by
    intro c rest hr
    rw [State.step?, hspace c (by rw [hr]; rfl)]
    rfl
  by_cases hquote : ∃ rest, a.rest = '\"' :: rest
  · obtain ⟨rest, hr⟩ := hquote
    have hopen : State.step? ⟨stack, .member⟩ '\"' = some ⟨stack, .string true .plain⟩ := hstep hr
    obtain ⟨reading, hreading, hfollows⟩ := follows_readString hr hopen
    simp only [readName, hreading]
    exact hfollows.map fun _ => rfl
  · rw [not_exists] at hquote
    have hstuck : Stuck ⟨stack, .member⟩ a := by
      refine stuck_of (Bool.and_false _) fun c rest hr => ?_
      rw [hstep hr]
      have hne : c ≠ '\"' := fun hc => hquote rest (hc ▸ hr)
      exact if_neg hne
    simp only [readName, readString?_strict hquote, Mode.isRelaxed, Bool.false_and,
      Bool.false_eq_true, if_false]
    exact Fails.fail hstuck

/-! ## Containers -/

section Containers

variable {value : Reader Node} {item : Reader α} {limit : Nat} {o : Opened}

/-- The automaton follows a reader of values. -/
def FollowsValue (value : Reader Node) (limit : Nat) (stack : List Opened) : Prop :=
  ∀ a : Cursor, a.Avoids isSpace → a.rest.length < limit →
    Follows Prod.snd ⟨stack, .value⟩ a ⟨stack, .after⟩ (value a)

/-- The automaton follows a reader of what a container has between its commas. -/
def FollowsItem (item : Reader α) (limit : Nat) (o : Opened) (stack : List Opened) : Prop :=
  ∀ a : Cursor, a.rest.length < limit →
    Follows Prod.snd ⟨o :: stack, o.item⟩ a ⟨o :: stack, .after⟩ (item a)

theorem followsItem_element (hvalue : FollowsValue value limit (.array :: stack)) :
    FollowsItem (fun cur => value cur.skipSpace) limit .array stack := by
  intro a hlen
  have hskip := Leads.skipSpace (q := ⟨.array :: stack, .value⟩) rfl a
  have hle := hskip.length_le
  exact .of_leads hskip (hvalue _ (avoids_skipSpace a) (by omega))

theorem followsItem_member (hvalue : FollowsValue value limit (.object :: stack)) :
    FollowsItem (readMember .strict value) limit .object stack := by
  intro a hlen
  have hskip := Leads.skipSpace (q := ⟨.object :: stack, .member⟩) rfl a
  have hle := hskip.length_le
  refine .of_leads hskip (Follows.bind (follows_readName (avoids_skipSpace a)) fun r hr => ?_)
  obtain ⟨name, b⟩ := r
  have hb : b.rest.length ≤ a.skipSpace.rest.length := hr.length_le
  have hskip' := Leads.skipSpace (q := ⟨.object :: stack, .colon⟩) rfl b
  have hle' := hskip'.length_le
  refine .of_leads hskip' ?_
  simp only
  split
  · rename_i rest hrest
    have hcolon : Leads ⟨.object :: stack, .colon⟩ b.skipSpace ⟨.object :: stack, .value⟩
        ⟨b.skipSpace.offset + 1, rest⟩ := .step hrest rfl rfl
    have hskip'' := hcolon.trans (Leads.skipSpace rfl _)
    have hle'' := hskip''.length_le
    refine .of_leads hskip'' (Follows.bind (hvalue _ (avoids_skipSpace _) (by omega)) fun r _ => ?_)
    exact Leads.refl _ _
  · rename_i hcolon
    refine Fails.fail (stuck_of rfl fun c rest hr => ?_)
    have hc : isSpace c = false := avoids_skipSpace b c (by rw [hr]; rfl)
    have hne : c ≠ ':' := fun h => hcolon rest (h ▸ hr)
    simp [State.step?, hc, hne]

theorem utf8Size_closer (o : Opened) : o.closer.utf8Size = 1 := by cases o <;> rfl

theorem follows_readItems (hitem : FollowsItem item limit o stack) {fuel : Nat}
    (hfuel : fuel ≤ limit) (hlen : a.rest.length < fuel) :
    Follows Prod.snd ⟨o :: stack, o.item⟩ a ⟨stack, .after⟩
      (readItems o.closer item fuel a) := by
  induction fuel generalizing a with
  | zero => cases hlen
  | succ fuel ih =>
    refine Follows.bind (hitem a (by omega)) fun r hr => ?_
    obtain ⟨x, b⟩ := r
    have hb : b.rest.length ≤ a.rest.length := hr.length_le
    have hskip := Leads.skipSpace (q := ⟨o :: stack, .after⟩) rfl b
    have hle := hskip.length_le
    have hstep : ∀ {c rest}, b.skipSpace.rest = c :: rest →
        State.step? ⟨o :: stack, .after⟩ c =
          if c = ',' then some ⟨o :: stack, o.item⟩
          else if c = o.closer then some ⟨stack, .after⟩ else none := by
      intro c rest hr
      rw [step?_after, State.resume?, avoids_skipSpace b c (by rw [hr]; rfl)]
      rfl
    refine .of_leads hskip ?_
    simp only
    split
    · rename_i c rest hrest
      have hstep := hstep hrest
      rw [hrest, List.length_cons] at hle
      split
      · rename_i hc
        subst hc
        refine .of_leads (.step hrest rfl (hstep.trans (if_pos rfl))) ?_
        exact Follows.bind (ih (by omega) (by simp only; omega)) fun r _ => Leads.refl _ _
      rename_i hcomma
      split
      · rename_i hc
        subst hc
        exact Leads.step hrest (utf8Size_closer o) (by rw [hstep, if_neg hcomma, if_pos rfl])
      · rename_i hcloser
        refine Fails.fail (stuck_of rfl fun d rest' hd => ?_)
        cases hrest.symm.trans hd
        rw [hstep, if_neg hcomma, if_neg hcloser]
    · rename_i hrest
      exact Fails.fail (stuck_of rfl fun d rest hd => by cases hrest.symm.trans hd)

theorem follows_readEnclosed (hitem : FollowsItem item limit o stack)
    {container : Slice → List α → Node} {rest : List Char} (hr : a.rest = o.opener :: rest)
    (hlen : a.rest.length ≤ limit) (hroom : stack.length < maxNesting) :
    Follows Prod.snd ⟨stack, .value⟩ a ⟨stack, .after⟩
      (readEnclosed o.closer item container limit a rest) := by
  have hopen : State.step? ⟨stack, .value⟩ o.opener = some ⟨o :: stack, .first o⟩ := by
    cases o <;> exact if_pos hroom
  have hsize : o.opener.utf8Size = 1 := by cases o <;> rfl
  have hskip := Leads.skipSpace (q := ⟨o :: stack, .first o⟩) rfl ⟨a.offset + 1, rest⟩
  have hle : (Cursor.skipSpace ⟨a.offset + 1, rest⟩).rest.length ≤ rest.length := hskip.length_le
  have hspace := avoids_skipSpace ⟨a.offset + 1, rest⟩
  rw [hr, List.length_cons] at hlen
  unfold readEnclosed
  refine .of_leads ((Leads.step hr hsize hopen).trans hskip) ?_
  simp only
  generalize Cursor.skipSpace ⟨a.offset + 1, rest⟩ = inside at hle hspace
  split
  · rename_i hc
    obtain ⟨rest', hrest⟩ := List.head?_eq_some_iff.mp hc
    have hnext : State.step? ⟨o :: stack, .first o⟩ o.closer = some ⟨stack, .after⟩ := by
      cases o <;> rfl
    rw [hrest]
    exact Leads.step hrest (utf8Size_closer o) hnext
  · rename_i hcloser
    -- what is not the closing bracket is the first item
    have halike : Alike ⟨o :: stack, .first o⟩ ⟨o :: stack, o.item⟩ inside := by
      refine ⟨rfl, by cases o <;> rfl, fun c hc => ?_⟩
      have hne : c ≠ o.closer := fun h => hcloser (h ▸ hc)
      have hs := hspace c hc
      cases o with
      | object => simp [State.step?, hs, hne, State.item?, Opened.item, State.name?, State.toPhase]
      | array =>
        simp [State.step?, hs, hne, State.item?, Opened.item, State.begin?, State.enter?,
          State.whole?, State.toPhase]
    refine .of_leads (.of_alike halike) ?_
    exact Follows.bind (follows_readItems hitem (Nat.le_refl _) (by omega)) fun r _ =>
      Leads.refl _ _

end Containers

/-! ## Values and documents -/

theorem avoids_opensContainer (hobject : ∀ rest, a.rest ≠ '\x7b' :: rest)
    (harray : ∀ rest, a.rest ≠ '[' :: rest) : a.Avoids opensContainer := by
  have hhead : ∀ d, (∀ rest, a.rest ≠ d :: rest) → a.rest.head? ≠ some d := by
    intro d hd h
    obtain ⟨rest, hr⟩ := List.head?_eq_some_iff.mp h
    exact hd rest hr
  exact Arena.avoids_opensContainer (hhead _ hobject) (hhead _ harray)

/-- **The automaton follows the reader of values.** -/
theorem follows_readValue {limit room : Nat} (hroom : stack.length + room = maxNesting) :
    FollowsValue (readValue .strict limit room) limit stack := by
  induction room generalizing stack with
  | zero =>
    intro a hspace hlen
    have hdeep : ∀ c rest, a.rest = c :: rest → opensContainer c = true →
        Fails ⟨stack, .value⟩ a ⟨.tooDeep, a.offset⟩ := by
      intro c rest hr hc
      have hfull : ¬stack.length < maxNesting := by omega
      have hstuck : Stuck ⟨stack, .value⟩ a := by
        refine stuck_of (Bool.and_false _) fun d rest' hd => ?_
        cases hr.symm.trans hd
        rw [step?_value (hspace c (by rw [hr]; rfl))]
        rcases Bool.or_eq_true_iff.mp hc with hc | hc
        · simp [beq_iff_eq.mp hc, State.begin?, State.enter?, hfull]
        · simp [beq_iff_eq.mp hc, State.begin?, State.enter?, hfull]
      exact ⟨[], a, _, .nil a, rfl, rfl, hstuck, (fun hkind => by cases hkind),
        fun _ => ⟨hroom, c, rest, hr, hc⟩⟩
    unfold readValue
    split
    · rename_i rest hr
      exact hdeep _ rest hr rfl
    · rename_i rest hr
      exact hdeep _ rest hr rfl
    · rename_i hobject harray
      exact follows_readScalar hspace (avoids_opensContainer hobject harray)
  | succ room ih =>
    intro a hspace hlen
    have hless : stack.length < maxNesting := by omega
    have hinner : ∀ o : Opened, (o :: stack).length + room = maxNesting := by
      intro o
      rw [List.length_cons]
      omega
    unfold readValue
    split
    · rename_i rest hr
      have hmember := followsItem_member (ih (hinner .object))
      rw [readObject_eq]
      exact follows_readEnclosed hmember hr (Nat.le_of_lt hlen) hless
    · rename_i rest hr
      have helement := followsItem_element (ih (hinner .array))
      rw [readArray_eq]
      exact follows_readEnclosed helement hr (Nat.le_of_lt hlen) hless
    · rename_i hobject harray
      exact follows_readScalar hspace (avoids_opensContainer hobject harray)

/-- The automaton follows the reader of documents up to the end of the text. -/
theorem follows_read (source : List Char) :
    Follows (fun _ => ⟨byteLength source, []⟩) .start ⟨0, source⟩ ⟨[], .after⟩
      (read .strict source) := by
  have hskip := Leads.skipSpace (q := .start) rfl ⟨0, source⟩
  have hle : (Cursor.skipSpace ⟨0, source⟩).rest.length ≤ source.length := hskip.length_le
  have hvalue : FollowsValue (readValue .strict (source.length + 1) maxNesting) (source.length + 1)
      [] := follows_readValue (Nat.zero_add _)
  refine .of_leads hskip (Follows.bind (hvalue _ (avoids_skipSpace _) (by omega)) fun r hr => ?_)
  obtain ⟨root, b⟩ := r
  have hskip' := Leads.skipSpace (q := ⟨[], .after⟩) rfl b
  refine .of_leads hskip' ?_
  simp only
  split
  · rename_i hend
    obtain ⟨s, -, ⟨hs, ho⟩, -⟩ := (hskip.trans hr).trans hskip'
    have hlast : b.skipSpace.rest = [] := List.isEmpty_iff.mp hend
    rw [hlast, List.append_nil] at hs
    have hplace : b.skipSpace = ⟨byteLength source, []⟩ := by
      rw [← hs, Nat.zero_add] at ho
      rw [← ho, ← hlast]
    rw [Follows, hplace]
    exact Leads.refl _ _
  · rename_i hend
    have hstuck : Stuck ⟨[], .after⟩ b.skipSpace := by
      unfold Stuck
      split
      · rename_i hr
        exact absurd (List.isEmpty_iff.mpr hr) hend
      · rename_i c rest hr
        have hc : isSpace c = false := avoids_skipSpace b c (by rw [hr]; rfl)
        rw [step?_after, State.resume?, hc]
        rfl
    exact .here hstuck (fun hkind => by cases hkind) (by decide)

end Testbench.Json.Automaton
