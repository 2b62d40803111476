import Mathlib
import Testbench.Proofs.Placeholder.Closing

/-!
# Expansion computes the value of a text

Expansion replaces one placeholder after the other and looks at the text again. The value of a
text is defined by its structure instead: what stands outside of closed placeholders is kept, and a
closed placeholder is worth what its source answers for the value of its body.

* `eval` : the value of a text; `queries` : what it asks, a query for each closed placeholder.
* `recorder` : a host that answers by a fixed resolver and notes all that it is asked and told.
* `expandWithin_agrees` : when no bound is reached, what is written in place of a text is its value
  and its queries were made, in order.
* `expand_eq_eval` : the same for a token.

Answers must be free of `$`, since they are read again; with that they may hold any brace.
-/

set_option autoImplicit false

namespace Testbench.Placeholder

open Text

/-- A source's answer for an argument. -/
abbrev Resolver := (source argument : String) → Option String

/-- No answer contains a `$`. -/
def Resolver.NoDollar (f : Resolver) : Prop :=
  ∀ source argument answer, f source argument = some answer → '$' ∉ answer.toList

/-- Source and argument. -/
structure Query where
  source : String
  argument : String
  deriving DecidableEq, Repr

/-- The query of a placeholder whose body is worth `body`. -/
def Query.ofBody (body : List Char) : Query :=
  match cut? ':' body with
  | some (source, argument) => ⟨String.ofList source, String.ofList argument⟩
  | none => ⟨String.ofList body, ""⟩

/-- What a query is answered, nothing if it is not. -/
def Resolver.answer (f : Resolver) (q : Query) : List Char :=
  ((f q.source q.argument).getD "").toList

theorem Resolver.NoDollar.answer {f : Resolver} (hf : f.NoDollar) (q : Query) :
    '$' ∉ f.answer q := by
  unfold Resolver.answer
  cases h : f q.source q.argument with
  | none => exact List.not_mem_nil
  | some answer => exact hf _ _ _ h

/-! ## The value of a text -/

/-- The value of a text. -/
def eval (f : Resolver) : List Char → List Char
  | [] => []
  | '$' :: '\x7b' :: rest =>
    match _h : body? 0 rest with
    | some (body, after) => f.answer (.ofBody (eval f body)) ++ eval f after
    | none => '$' :: '\x7b' :: eval f rest
  | c :: rest => c :: eval f rest
termination_by s => s.length
decreasing_by
  · have := length_of_body? _h
    simp only [List.length_cons]
    omega
  · have := length_of_body? _h
    simp only [List.length_cons]
    omega
  · simp only [List.length_cons]
    omega
  · simp only [List.length_cons]
    omega

/-- The queries of the closed placeholders of a text, by their closing braces. -/
def queries (f : Resolver) (text : List Char) : List Query :=
  (placeholders text).map fun p => .ofBody (eval f p.body)

variable {f : Resolver}

@[simp] theorem eval_nil : eval f [] = [] := by rw [eval]

theorem eval_closed {body : List Char} (h : Closes 0 body) (after : List Char) :
    eval f ('$' :: '\x7b' :: (body ++ '\x7d' :: after)) =
      f.answer (.ofBody (eval f body)) ++ eval f after := by
  have hb := h.body?_append after
  rw [eval]
  split <;> simp_all

theorem eval_unclosed {rest : List Char} (h : body? 0 rest = none) :
    eval f ('$' :: '\x7b' :: rest) = '$' :: '\x7b' :: eval f rest := by
  rw [eval]
  split <;> simp_all

theorem eval_char {c : Char} {s : List Char} (h : c = '$' → s.head? ≠ some '\x7b') :
    eval f (c :: s) = c :: eval f s := by
  rw [eval]
  rintro rest rfl rfl
  exact h rfl rfl

@[simp] theorem queries_nil : queries f [] = [] := by simp [queries, placeholders]

theorem queries_closed {body : List Char} (h : Closes 0 body) (after : List Char) :
    queries f ('$' :: '\x7b' :: (body ++ '\x7d' :: after)) =
      queries f body ++ .ofBody (eval f body) :: queries f after := by
  simp [queries, placeholders_closed h, Found.precede, Found.follow, Function.comp_def]

theorem queries_unclosed {rest : List Char} (h : body? 0 rest = none) :
    queries f ('$' :: '\x7b' :: rest) = queries f rest := by
  simp [queries, placeholders_unclosed h, Found.precede, Function.comp_def]

theorem queries_char {c : Char} {s : List Char} (h : c = '$' → s.head? ≠ some '\x7b') :
    queries f (c :: s) = queries f s := by
  simp [queries, placeholders_char h, Found.precede, Function.comp_def]

/-- A text without `$` in front of another one keeps its place in the value. -/
theorem eval_append {s : List Char} (h : '$' ∉ s) (t : List Char) :
    eval f (s ++ t) = s ++ eval f t ∧ queries f (s ++ t) = queries f t := by
  induction s with
  | nil => exact ⟨rfl, rfl⟩
  | cons c s ih =>
    simp only [List.mem_cons, not_or] at h
    have ho : c = '$' → (s ++ t).head? ≠ some '\x7b' := fun hc => absurd hc.symm h.1
    obtain ⟨ht, hq⟩ := ih h.2
    rw [List.cons_append, eval_char ho, queries_char ho, ht, hq]
    exact ⟨rfl, rfl⟩

/-! ## The value by the first closed placeholder -/

theorem next?_closed {body : List Char} (h : Closes 0 body) (after : List Char) :
    next? ('$' :: '\x7b' :: (body ++ '\x7d' :: after)) = some ⟨[], body, after⟩ := by
  rw [next?, h.body?_append]

theorem next?_char {c : Char} {s : List Char} (h : c = '$' → s.head? ≠ some '\x7b') :
    next? (c :: s) = (next? s).map (Found.precede [c]) := by
  rw [next?]
  rintro rest rfl rfl
  exact h rfl rfl

theorem eval_of_next?_none {text : List Char} (h : next? text = none) :
    eval f text = text ∧ queries f text = [] := by
  induction text using textInduction with
  | nil => exact ⟨eval_nil, queries_nil⟩
  | closed body after hb _ _ =>
    rw [next?_closed hb] at h
    cases h
  | unclosed rest hn ih =>
    rw [next?_open hn, Option.map_eq_none_iff] at h
    rw [eval_unclosed hn, queries_unclosed hn, (ih h).1, (ih h).2]
    exact ⟨rfl, rfl⟩
  | char c rest ho ih =>
    rw [next?_char ho, Option.map_eq_none_iff] at h
    rw [eval_char ho, queries_char ho, (ih h).1, (ih h).2]
    exact ⟨rfl, rfl⟩

theorem eval_of_next?_some {text : List Char} {p : Found} (h : next? text = some p) :
    eval f text = p.before ++ (f.answer (.ofBody (eval f p.body)) ++ eval f p.after) ∧
      queries f text = queries f p.body ++ .ofBody (eval f p.body) :: queries f p.after := by
  induction text using textInduction generalizing p with
  | nil => cases h
  | closed body after hb _ _ =>
    rw [next?_closed hb] at h
    cases h
    exact ⟨eval_closed hb after, queries_closed hb after⟩
  | unclosed rest hn ih =>
    rw [next?_open hn, Option.map_eq_some_iff] at h
    obtain ⟨q, hq, rfl⟩ := h
    rw [eval_unclosed hn, queries_unclosed hn, (ih hq).1, (ih hq).2]
    exact ⟨rfl, rfl⟩
  | char c rest ho ih =>
    rw [next?_char ho, Option.map_eq_some_iff] at h
    obtain ⟨q, hq, rfl⟩ := h
    rw [eval_char ho, queries_char ho, (ih hq).1, (ih hq).2]
    exact ⟨rfl, rfl⟩

/-! ## One round -/

/-- A value is an answer, or nothing if there is none. -/
theorem Host.value_cases {σ : Type} (host : Host σ) (body : List Char) (s : σ) :
    (host.value body s).1 = [] ∨ ∃ source argument answer,
      (host.resolve source argument s).1 = some answer ∧ (host.value body s).1 = answer.toList := by
  unfold Host.value
  generalize (cut? ':' body).getD (body, []) = query
  obtain ⟨source, argument⟩ := query
  cases hr : (host.resolve (String.ofList source) (String.ofList argument) s).1 with
  | none => simp [hr]
  | some answer => exact .inr ⟨_, _, answer, hr, by simp [hr]⟩

section Round

variable {σ : Type} (host : Host σ) (expandBody : List Char → σ → List Char × σ)
  (whole : List Char) (s : σ)

theorem substitute_of_next?_none {text : List Char} (h : next? text = none) (budget : Nat) :
    substitute host expandBody whole budget text s = (text, s) := by
  unfold substitute
  rw [h]

theorem substitute_zero {text : List Char} {p : Found} (h : next? text = some p) :
    substitute host expandBody whole 0 text s =
      (text, host.report (.substitutions (String.ofList whole)) s) := by
  unfold substitute
  rw [h]

/-- A round expands the body, asks for its value and goes on from where that begins. -/
theorem substitute_succ {text : List Char} {p : Found} (h : next? text = some p) (budget : Nat) :
    substitute host expandBody whole (budget + 1) text s =
      let body := expandBody p.body s
      let value := host.value body.1 body.2
      let rest := substitute host expandBody whole budget (value.1 ++ p.after) value.2
      (p.before ++ rest.1, rest.2) := by
  rw [substitute, h]

end Round

/-! ## Expansion under a recording host -/

/-- What a host is asked and told. -/
inductive Event where
  | query (q : Query)
  | report (limit : Limit)
  deriving DecidableEq, Repr

/-- No bound was reported. -/
def Quiet (events : List Event) : Prop := ∀ limit, Event.report limit ∉ events

/-- The host that answers by `f` and notes every event. -/
def recorder (f : Resolver) : Host (List Event) where
  resolve source argument events := (f source argument, events ++ [.query ⟨source, argument⟩])
  report limit events := events ++ [.report limit]

theorem recorder_value (body : List Char) (log : List Event) :
    (recorder f).value body log = (f.answer (.ofBody body), log ++ [.query (.ofBody body)]) := by
  unfold Host.value Query.ofBody
  cases cut? ':' body <;> rfl

/-- What an expansion of `text` that started after the events `log` gives: more events, and, if
they are quiet, the value of the text with its queries as the events. -/
def Agrees (f : Resolver) (text : List Char) (log : List Event)
    (result : List Char × List Event) : Prop :=
  ∃ events, result.2 = log ++ events ∧
    (Quiet events → result.1 = eval f text ∧ events = (queries f text).map .query)

theorem Quiet.append {a b : List Event} (h : Quiet (a ++ b)) : Quiet a ∧ Quiet b :=
  ⟨fun limit hl => h limit (List.mem_append_left _ hl),
    fun limit hl => h limit (List.mem_append_right _ hl)⟩

theorem not_quiet_report (limit : Limit) : ¬ Quiet [.report limit] :=
  fun h => h limit (List.mem_singleton.mpr rfl)

theorem agrees_of_next?_none {text : List Char} (h : next? text = none) (log : List Event) :
    Agrees f text log (text, log) := by
  obtain ⟨ht, hq⟩ := eval_of_next?_none (f := f) h
  exact ⟨[], by simp, fun _ => ⟨ht.symm, by rw [hq]; rfl⟩⟩

/-- Every round replaces the first closed placeholder by its value, which is not touched again. -/
theorem substitute_agrees (hf : f.NoDollar)
    {expandBody : List Char → List Event → List Char × List Event}
    (hbody : ∀ body log, Agrees f body log (expandBody body log)) (whole : List Char) (budget : Nat)
    (text : List Char) (log : List Event) :
    Agrees f text log (substitute (recorder f) expandBody whole budget text log) := by
  fun_induction substitute (recorder f) expandBody whole budget text log with
  | case1 budget text log hn => exact agrees_of_next?_none hn log
  | case2 text log p hn => exact ⟨[_], rfl, fun hq => absurd hq (not_quiet_report _)⟩
  | case3 text log p hn budget body log₁ hb value log₂ hv rest log₃ hr ih =>
    obtain ⟨inner, hinner, hagree⟩ := hbody p.body log
    obtain ⟨outer, houter, hrest⟩ := ih
    rw [recorder_value, Prod.mk.injEq] at hv
    obtain ⟨rfl, rfl⟩ := hv
    rw [hb] at hinner hagree
    rw [hr] at houter hrest
    obtain rfl := hinner
    obtain rfl := houter
    refine ⟨inner ++ .query (.ofBody body) :: outer, by simp, fun hq => ?_⟩
    obtain ⟨hqi, hqo⟩ := hq.append
    obtain ⟨rfl, rfl⟩ := hagree hqi
    obtain ⟨rfl, rfl⟩ := hrest fun limit hl => hqo limit (List.mem_cons_of_mem _ hl)
    obtain ⟨htext, hqueries⟩ := eval_append (f := f) (hf.answer (.ofBody (eval f p.body))) p.after
    obtain ⟨het, heq⟩ := eval_of_next?_some (f := f) hn
    rw [htext, hqueries, het, heq]
    simp

theorem expandWithin_agrees (hf : f.NoDollar) (room : Nat) (text : List Char) (log : List Event) :
    Agrees f text log (expandWithin (recorder f) room text log) := by
  induction room generalizing text log with
  | zero => exact ⟨[_], rfl, fun hq => absurd hq (not_quiet_report _)⟩
  | succ room ih => exact substitute_agrees hf ih text maxSubstitutions text log

/-! ## Tokens -/

/-- Of two placeholders of a text, whether the first has its closing brace further left. -/
def Found.ClosesBefore (p q : Found) : Prop := q.after.length < p.after.length

/-- **Expansion is evaluation.** Unless a bound is reported, a token becomes its value, and each
closed placeholder is asked for exactly once, in the order of the closing braces: after the
placeholders inside it and before those that open behind it. -/
theorem expand_eq_eval (hf : f.NoDollar) {token : String}
    (hq : Quiet (expand (recorder f) token []).2) :
    (expand (recorder f) token []).1 = String.ofList (eval f token.toList) ∧
      ∃ ps : List Found, (∀ p, p ∈ ps ↔ p.IsIn token.toList) ∧ ps.Pairwise Found.ClosesBefore ∧
        (expand (recorder f) token []).2 = ps.map fun p => .query (.ofBody (eval f p.body)) := by
  obtain ⟨events, he, hagree⟩ := expandWithin_agrees hf maxNesting token.toList []
  have hlog : (expand (recorder f) token []).2 = events := he
  rw [hlog] at hq ⊢
  obtain ⟨htext, rfl⟩ := hagree hq
  refine ⟨congrArg String.ofList htext, placeholders token.toList,
    fun _ => mem_placeholders_iff, pairwise_placeholders token.toList, ?_⟩
  simp [queries]

/-- Braces in an answer neither open nor close anything, and the last `${` stays. -/
theorem expand_eq_eval_braces :
    let f : Resolver := fun source _ => if source = "open" then some "\x7b:\x7d" else none
    let token := "$$\x7bopen\x7d\x7b$\x7bx$\x7bopen\x7d\x7d $\x7b"
    (expand (recorder f) token []).1 = String.ofList (eval f token.toList) ∧
      ∃ ps : List Found, (∀ p, p ∈ ps ↔ p.IsIn token.toList) ∧ ps.Pairwise Found.ClosesBefore ∧
        (expand (recorder f) token []).2 = ps.map fun p => .query (.ofBody (eval f p.body)) := by
  intro f token
  have hlog : (expand (recorder f) token []).2 =
      [.query ⟨"open", ""⟩, .query ⟨"open", ""⟩, .query ⟨"x\x7b", "\x7d"⟩] := by cbv
  refine expand_eq_eval ?_ ?_
  · intro source argument answer h
    by_cases hs : source = "open" <;> simp [f, hs] at h
    subst h
    decide
  · rw [hlog]
    intro limit
    simp

end Testbench.Placeholder
