import Testbench.Proofs.Placeholder.Hosts

/-!
# What expansion leaves behind

The scan for placeholders never goes back: a `${` that nothing closes is left behind as it stands,
and after a replacement the scan goes on where the value begins. So a value can complete a
placeholder further left, with a brace that closes an old `${` or behind a `$` that stands right in
front of it. This file shows that nothing else can.

* `free` : the closing braces of a text that a `${` in front of it could use.
* `Apart` : an answer that can complete nothing in front of it.
* `substitute_settled` : between such answers, what is left behind stays incomplete.
* `expand_settled` : then an expanded token holds no closed placeholder, and is expanded to itself.
* `expand_leaves_closed` : each part of `Apart` is needed, and so is the condition on the token.
-/

set_option autoImplicit false

namespace Testbench.Placeholder

/-! ## Free braces -/

/-- The number of closing braces that are free for a `${` in front of the text. -/
def free (s : List Char) : Nat := (survey s).1

@[simp] theorem free_nil : free [] = 0 := rfl

@[simp] theorem free_opening (s : List Char) : free ('$' :: '\x7b' :: s) = free s - 1 := by
  unfold free
  rw [survey]
  split <;> simp_all

@[simp] theorem free_closing (s : List Char) : free ('\x7d' :: s) = free s + 1 := by
  unfold free
  rw [survey.eq_3 '\x7d' s (fun _ h => absurd h (by decide))]
  rfl

theorem free_char {c : Char} {s : List Char} (hc : c ≠ '\x7d')
    (ho : c = '$' → s.head? ≠ some '\x7b') : free (c :: s) = free s := by
  unfold free
  rw [survey.eq_3 c s (fun rest h hs => ho h (by rw [hs]; rfl))]
  exact if_neg hc

theorem body?_eq_none_iff {depth : Nat} {s : List Char} : body? depth s = none ↔ free s ≤ depth := by
  rw [← Option.not_isSome_iff_eq_none, isSome_body?, decide_eq_true_eq, Nat.not_lt]
  rfl

/-- A text is empty, or starts with a `${`, a closing brace or a character that is neither. -/
theorem braceInduction {motive : List Char → Prop} (nil : motive [])
    (opening : ∀ s, motive s → motive ('$' :: '\x7b' :: s))
    (closing : ∀ s, motive s → motive ('\x7d' :: s))
    (char : ∀ c s, c ≠ '\x7d' → (c = '$' → s.head? ≠ some '\x7b') → motive s → motive (c :: s))
    (s : List Char) : motive s := by
  fun_induction survey s with
  | case1 => exact nil
  | case2 rest _ _ ih => exact opening rest ih
  | case3 rest _ _ _ ih => exact opening rest ih
  | case4 c rest h _ _ _ ih =>
    by_cases hc : c = '\x7d'
    · exact hc ▸ closing rest ih
    · refine char c rest hc (fun hd hh => ?_) ih
      obtain ⟨rest, rfl⟩ := List.head?_eq_some_iff.mp hh
      exact h rest hd rfl

/-- A text in front of another one has no more free braces before it than both have alone: where
they meet, a `${` may come about but no brace. -/
theorem free_append_le (s t : List Char) : free (s ++ t) ≤ free s + free t := by
  induction s using braceInduction with
  | nil => simp
  | opening s ih =>
    simp only [List.cons_append, free_opening]
    omega
  | closing s ih =>
    simp only [List.cons_append, free_closing]
    omega
  | char c s hc ho ih =>
    rw [List.cons_append, free_char hc ho]
    by_cases hmeet : c = '$' ∧ (s ++ t).head? = some '\x7b'
    · -- the text ends in `$`, and the other one starts with the brace of the new `${`
      obtain ⟨rfl, hh⟩ := hmeet
      cases s with
      | cons d s => exact absurd hh (ho rfl)
      | nil =>
        obtain ⟨t, rfl⟩ := List.head?_eq_some_iff.mp hh
        rw [List.nil_append, free_opening, free_char (by decide) (fun h => absurd h (by decide))]
        omega
    · rw [free_char hc fun hd hh => hmeet ⟨hd, hh⟩]
      exact ih

/-- What stands in front of a text has the more free braces before it the more the text has. -/
theorem free_append_mono {s : List Char} (hs : ¬ ['$'] <:+ s) {t u : List Char}
    (h : free t ≤ free u) : free (s ++ t) ≤ free (s ++ u) := by
  induction s using braceInduction with
  | nil => exact h
  | opening s ih =>
    simp only [List.cons_append, free_opening]
    have := ih fun hl => hs (hl.trans ((List.suffix_cons _ _).trans (List.suffix_cons _ _)))
    omega
  | closing s ih =>
    simp only [List.cons_append, free_closing]
    have := ih fun hl => hs (hl.trans (List.suffix_cons _ _))
    omega
  | char c s hc ho ih =>
    have hmeet : ∀ v : List Char, c = '$' → (s ++ v).head? ≠ some '\x7b' := by
      rintro v rfl
      cases s with
      | nil => exact absurd (List.suffix_refl _) hs
      | cons d s => exact ho rfl
    rw [List.cons_append, List.cons_append, free_char hc (hmeet t), free_char hc (hmeet u)]
    exact ih fun hl => hs (hl.trans (List.suffix_cons _ _))

/-- A body with its closing brace gives one free brace. -/
theorem Closes.free_append {depth : Nat} {s : List Char} (h : Closes depth s) (after : List Char) :
    free (s ++ '\x7d' :: after) = depth + free after + 1 := by
  induction h with
  | nil => simp
  | opening _ ih =>
    simp only [List.cons_append, free_opening, ih]
    omega
  | closing _ ih =>
    simp only [List.cons_append, free_closing, ih]
    omega
  | @char depth c s hc ho _ ih =>
    rw [List.cons_append, free_char hc, ih]
    intro hd
    cases s with
    | nil => simp
    | cons d s => exact ho hd

/-! ## What the scan passes over -/

/-- The text holds no closed placeholder. -/
def Settled (text : List Char) : Prop := ∀ p : Found, ¬ p.IsIn text

theorem settled_iff {text : List Char} :
    Settled text ↔ ∀ before inside, text = before ++ '$' :: '\x7b' :: inside → free inside = 0 := by
  constructor
  · rintro h before inside rfl
    rw [← Nat.le_zero, ← body?_eq_none_iff]
    cases hb : body? 0 inside with
    | none => rfl
    | some p =>
      obtain ⟨hi, hc⟩ := eq_of_body? hb
      exact absurd ⟨by rw [hi], hc⟩ (h ⟨before, p.1, p.2⟩)
  · rintro h p ⟨ht, hc⟩
    have hf := hc.free_append p.after
    have := h _ _ ht
    omega

theorem next?_eq_none_iff {text : List Char} : next? text = none ↔ Settled text := by
  induction text using textInduction with
  | nil => simp [next?, Settled, Found.IsIn]
  | closed body after hb _ _ =>
    rw [next?_closed hb]
    constructor
    · intro h
      cases h
    · intro h
      exact absurd ⟨rfl, hb⟩ (h ⟨[], body, after⟩)
  | unclosed rest hn ih =>
    rw [next?_open hn, Option.map_eq_none_iff, ih]
    simp only [Settled, isIn_opening, hn]
    constructor
    · rintro h p (⟨-, hp⟩ | ⟨q, hq, -⟩)
      · cases hp
      · exact h q hq
    · intro h q hq
      exact h _ (.inr ⟨q, hq, rfl⟩)
  | char c rest ho ih =>
    rw [next?_char ho, Option.map_eq_none_iff, ih]
    simp only [Settled, isIn_char ho]
    constructor
    · rintro h p ⟨q, hq, -⟩
      exact h q hq
    · intro h q hq
      exact h _ ⟨q, hq, rfl⟩

/-- The first closed placeholder is in the text, and every `${` before it lacks its brace. -/
theorem eq_of_next? {text : List Char} {p : Found} (h : next? text = some p) :
    p.IsIn text ∧ ∀ a b, p.before = a ++ '$' :: '\x7b' :: b →
      free (b ++ '$' :: '\x7b' :: (p.body ++ '\x7d' :: p.after)) = 0 := by
  induction text using textInduction generalizing p with
  | nil => cases h
  | closed body after hb _ _ =>
    rw [next?_closed hb] at h
    cases h
    exact ⟨⟨rfl, hb⟩, fun a b he => by simp at he⟩
  | unclosed rest hn ih =>
    rw [next?_open hn, Option.map_eq_some_iff] at h
    obtain ⟨q, hq, rfl⟩ := h
    obtain ⟨hin, hopen⟩ := ih hq
    refine ⟨isIn_opening.mpr (.inr ⟨q, hin, rfl⟩), fun a b he => ?_⟩
    match a with
    | [] =>
      cases he
      rw [body?_eq_none_iff, Nat.le_zero, hin.1] at hn
      exact hn
    | [_] => simp [Found.precede] at he
    | _ :: _ :: a =>
      simp only [Found.precede, List.cons_append, List.nil_append, List.cons.injEq] at he
      exact hopen a b he.2.2
  | char c rest ho ih =>
    rw [next?_char ho, Option.map_eq_some_iff] at h
    obtain ⟨q, hq, rfl⟩ := h
    obtain ⟨hin, hopen⟩ := ih hq
    refine ⟨(isIn_char ho).mpr ⟨q, hin, rfl⟩, fun a b he => ?_⟩
    cases a with
    | nil =>
      simp only [Found.precede, List.cons_append, List.nil_append, List.cons.injEq] at he
      rw [hin.1, he.2] at ho
      exact absurd rfl (ho he.1)
    | cons _ a =>
      simp only [Found.precede, List.cons_append, List.nil_append, List.cons.injEq] at he
      exact hopen a b he.2

/-! ## Texts that complete nothing -/

/-- A `$` right in front of a `${`. -/
def doubled : List Char := ['$', '$', '\x7b']

/-- The text completes nothing in front of it and nothing behind: its closing braces close what it
opens itself, and no `$` in it or at its end stands right in front of a `${`. -/
structure Apart (s : List Char) : Prop where
  closes : body? 0 s = none
  last : ¬ ['$'] <:+ s
  single : ¬ doubled <:+: s

theorem Apart.nil : Apart [] := ⟨rfl, by simp, by simp [doubled]⟩

/-- An infix is in one of two parts or reaches over the place where they meet. -/
theorem Apart.not_doubled_append {s t : List Char} (hs : Apart s) (ht : ¬ doubled <:+: t) :
    ¬ doubled <:+: s ++ t := by
  rintro ⟨a, b, he⟩
  rw [List.append_assoc] at he
  rcases List.append_eq_append_iff.mp he with ⟨gap, rfl, hg⟩ | ⟨gap, rfl, hg⟩
  · match gap with
    | [] => exact ht ⟨[], b, hg⟩
    | [_] =>
      cases hg
      exact hs.last (List.suffix_append ..)
    | [_, _] =>
      cases hg
      exact hs.last ⟨a ++ ['$'], by simp⟩
    | _ :: _ :: _ :: gap =>
      cases hg
      exact hs.single ⟨a, gap, by simp [doubled]⟩
  · exact ht ⟨gap, b, by rw [hg, List.append_assoc]⟩

theorem Found.IsIn.not_doubled_after {text : List Char} {p : Found} (h : p.IsIn text)
    (hd : ¬ doubled <:+: text) : ¬ doubled <:+: p.after := by
  intro hi
  have hsuffix : p.after <:+ text := ⟨p.before ++ '$' :: '\x7b' :: (p.body ++ ['\x7d']), by
    rw [h.1]
    simp⟩
  exact hd (hi.trans hsuffix.isInfix)

theorem Found.IsIn.before_last {text : List Char} {p : Found} (h : p.IsIn text)
    (hd : ¬ doubled <:+: text) : ¬ ['$'] <:+ p.before := by
  rintro ⟨before, hb⟩
  refine hd ⟨before, p.body ++ '\x7d' :: p.after, ?_⟩
  rw [h.1, ← hb]
  simp [doubled]

/-! ## Rounds -/

variable {σ : Type}

/-- All answers of the host are apart. -/
def Host.AnswersApart (host : Host σ) : Prop :=
  ∀ source argument s answer, (host.resolve source argument s).1 = some answer →
    Apart answer.toList

theorem Host.AnswersApart.value {host : Host σ} (h : host.AnswersApart) (body : List Char) (s : σ) :
    Apart (host.value body s).1 := by
  obtain hv | ⟨source, argument, answer, hr, hv⟩ := host.value_cases body s
  · rw [hv]
    exact .nil
  · rw [hv]
    exact h _ _ _ _ hr

/-- What is left behind stays incomplete when the text behind it gives way to a settled one that has
no more free braces. -/
theorem settled_append {before rest behind : List Char} (hb : ¬ ['$'] <:+ before)
    (hopen : ∀ a b, before = a ++ '$' :: '\x7b' :: b → free (b ++ behind) = 0)
    (hrest : Settled rest) (hfree : free rest ≤ free behind) : Settled (before ++ rest) := by
  rw [settled_iff] at hrest ⊢
  intro a inside he
  rcases List.append_eq_append_iff.mp he with ⟨gap, ha, hr⟩ | ⟨gap, ha, hr⟩
  · exact hrest gap inside hr
  · match gap with
    | [] => exact hrest [] inside hr.symm
    | [_] =>
      -- the `$` is the last character before the place
      cases hr
      exact absurd ⟨a, ha.symm⟩ hb
    | _ :: _ :: gap =>
      cases hr
      have hgap : ¬ ['$'] <:+ gap := fun hl => hb (hl.trans ⟨a ++ ['$', '\x7b'], by simp [ha]⟩)
      have hle := free_append_mono hgap hfree
      rw [hopen a gap ha] at hle
      exact Nat.le_zero.mp hle

/-- As long as nothing is reported, rounds leave no closed placeholder and free no brace. -/
theorem substitute_settled {host : Host σ} {Q : σ → Prop} (hh : host.AnswersApart)
    (hQ : ∀ limit s, ¬ Q (host.report limit s))
    (expandBody : List Char → σ → List Char × σ) (whole : List Char) (budget : Nat)
    {text : List Char} {s : σ} (hd : ¬ doubled <:+: text)
    (hq : Q (substitute host expandBody whole budget text s).2) :
    Settled (substitute host expandBody whole budget text s).1 ∧
      free (substitute host expandBody whole budget text s).1 ≤ free text := by
  fun_induction substitute host expandBody whole budget text s with
  | case1 budget text s hn => exact ⟨next?_eq_none_iff.mp hn, Nat.le_refl _⟩
  | case2 text s p hn => exact absurd hq (hQ _ _)
  | case3 text s p hn budget body s₁ hb value s₂ hv rest s₃ hr ih =>
    obtain ⟨hin, hopen⟩ := eq_of_next? hn
    have hlast := hin.before_last hd
    have hvalue := hh.value body s₁
    rw [hv] at hvalue
    rw [hr] at ih
    obtain ⟨hrest, hfree⟩ := ih (hvalue.not_doubled_append (hin.not_doubled_after hd)) hq
    have hbehind : free ('$' :: '\x7b' :: (p.body ++ '\x7d' :: p.after)) = free p.after := by
      have := hin.2.free_append p.after
      rw [free_opening]
      omega
    have happend := free_append_le value p.after
    have hclosed := body?_eq_none_iff.mp hvalue.closes
    have hle : free rest ≤ free ('$' :: '\x7b' :: (p.body ++ '\x7d' :: p.after)) := by
      dsimp only at hfree hclosed
      omega
    refine ⟨settled_append hlast hopen hrest hle, ?_⟩
    rw [hin.1]
    exact free_append_mono hlast hle

/-! ## A host that notes its events -/

/-- The same host, which notes every event. -/
def Host.recording (host : Host σ) : Host (σ × List Event) where
  resolve source argument s :=
    let (answer, state) := host.resolve source argument s.1
    (answer, state, s.2 ++ [.query ⟨source, argument⟩])
  report limit s := (host.report limit s.1, s.2 ++ [.report limit])

theorem Host.recording_value (host : Host σ) (body : List Char) (s : σ × List Event) :
    host.recording.value body s =
      ((host.value body s.1).1, (host.value body s.1).2, s.2 ++ [.query (.ofBody body)]) := by
  unfold Host.value Query.ofBody
  cases Text.cut? ':' body <;> rfl

theorem Host.recording_extends (host : Host σ) : host.recording.Extends Prod.fst host :=
  ⟨fun _ _ _ => rfl, fun _ _ => rfl⟩

/-! ## Tokens -/

theorem expandWithin_settled {host : Host σ} (hh : host.AnswersApart) {room : Nat}
    {text : List Char} (hd : ¬ doubled <:+: text) {s : σ × List Event}
    (hq : Quiet (expandWithin host.recording room text s).2.2) :
    Settled (expandWithin host room text s.1).1 := by
  have hout : (expandWithin host.recording room text s).1 = (expandWithin host room text s.1).1 :=
    congrArg Prod.fst (host.recording_extends.expandWithin room text s)
  have hreport : ∀ limit (s : σ × List Event), ¬ Quiet (host.recording.report limit s).2 :=
    fun limit s h => h limit (List.mem_append_right _ (List.mem_singleton.mpr rfl))
  cases room with
  | zero => exact absurd hq (hreport _ _)
  | succ room =>
    have hrecording : host.recording.AnswersApart := fun source argument s answer h =>
      hh source argument s.1 answer h
    rw [← hout]
    exact (substitute_settled (Q := fun s => Quiet s.2) hrecording hreport _ _ _ hd hq).1

theorem expand_of_settled {token : String} (h : Settled token.toList) (host : Host σ) (s : σ) :
    expand host token s = (token, s) := by
  have hround : expandWithin host maxNesting token.toList s = (token.toList, s) := by
    rw [maxNesting, expandWithin, substitute, next?_eq_none_iff.mpr h]
  simp only [expand, hround, String.ofList_toList]

/-- **Expansion is complete if the answers are apart.** If nothing is reported, the token that comes
out holds no closed placeholder, so that any further expansion leaves it as it is and asks for
nothing. -/
theorem expand_settled {host : Host σ} (hh : host.AnswersApart) {token : String}
    (hd : ¬ doubled <:+: token.toList) {s : σ}
    (hq : Quiet (expand host.recording token (s, [])).2.2) :
    Settled (expand host token s).1.toList ∧
      ∀ (τ : Type) (other : Host τ) (t : τ),
        expand other (expand host token s).1 t = ((expand host token s).1, t) := by
  have hsettled : Settled (expand host token s).1.toList := by
    have hquiet : Quiet (expandWithin host.recording maxNesting token.toList (s, [])).2.2 := hq
    simp only [expand, String.toList_ofList]
    exact expandWithin_settled hh hd hquiet
  exact ⟨hsettled, fun τ other t => expand_of_settled hsettled other t⟩

/-- A `${` that nothing closes, a placeholder in a body, and one in an answer. -/
theorem expand_settled_nested :
    let host : Host Unit :=
      ⟨fun source _ s => (some (if source = "p" then "x$\x7bq\x7d" else "v\x7b"), s), fun _ s => s⟩
    let token := "$\x7ba $\x7bp:$\x7bq\x7d\x7d-"
    Settled (expand host token ()).1.toList ∧
      ∀ (τ : Type) (other : Host τ) (t : τ),
        expand other (expand host token ()).1 t = ((expand host token ()).1, t) := by
  intro host token
  have hlog : (expand host.recording token ((), [])).2.2 =
      [.query ⟨"q", ""⟩, .query ⟨"p", "v\x7b"⟩, .query ⟨"q", ""⟩] := by cbv
  have hanswers : host.AnswersApart := by
    intro source argument s answer h
    have happ : Apart (if source = "p" then "x$\x7bq\x7d" else "v\x7b").toList := by
      split
      · exact ⟨rfl, by simp [List.suffix_cons_iff], by simp [doubled, List.infix_cons_iff]⟩
      · exact ⟨rfl, by simp [List.suffix_cons_iff], by simp [doubled, List.infix_cons_iff]⟩
    rw [← Option.some.inj h]
    exact happ
  have hsingle : ¬ doubled <:+: token.toList := by simp [token, doubled, List.infix_cons_iff]
  refine expand_settled hanswers hsingle ?_
  rw [hlog]
  intro limit
  simp

/-- Nothing is reported, and yet a closed placeholder is left. -/
def LeavesClosed (f : Resolver) (token : String) : Prop :=
  Quiet (expand (recorder f) token []).2 ∧
    ∃ p : Found, p.IsIn (expand (recorder f) token []).1.toList

/-- Expansion is not complete in general. A brace in an answer closes a `${` that was left behind;
a `$` in the token right in front of a placeholder meets a brace behind it, and so does one at the
end of an answer or inside it. -/
theorem expand_leaves_closed :
    LeavesClosed (fun source _ => if source = "t" then some "\x7d" else none)
      "$\x7ba$\x7bt:x\x7d" ∧
    LeavesClosed (fun _ _ => none) "$$\x7bx\x7d\x7bb\x7d" ∧
    LeavesClosed (fun source _ => if source = "d" then some "$" else none)
      "$\x7bd\x7d$\x7bx\x7d\x7bb\x7d" ∧
    LeavesClosed (fun source _ => if source = "d" then some "$$\x7bx\x7d\x7bb\x7d" else none)
      "$\x7bd\x7d" := by
  have hquiet : ∀ queries : List Query, Quiet (queries.map .query) := by
    intro queries limit h
    simp at h
  have hleft : ∀ (f : Resolver) (token : String) (queries : List Query) (body : List Char),
      expand (recorder f) token [] =
        (String.ofList ('$' :: '\x7b' :: (body ++ ['\x7d'])), queries.map .query) →
      Closes 0 body → LeavesClosed f token := by
    intro f token queries body he hb
    refine ⟨by rw [he]; exact hquiet queries, ⟨[], body, []⟩, ?_, hb⟩
    rw [he, String.toList_ofList]
    rfl
  have hbody : ∀ c : Char, c ≠ '\x7d' → Closes 0 [c] :=
    fun c hc => .char hc (by simp) .nil
  refine ⟨?_, ?_, ?_, ?_⟩
  · exact hleft _ _ [⟨"t", "x"⟩] ['a'] (by cbv) (hbody 'a' (by decide))
  · exact hleft _ _ [⟨"x", ""⟩] ['b'] (by cbv) (hbody 'b' (by decide))
  · exact hleft _ _ [⟨"d", ""⟩, ⟨"x", ""⟩] ['b'] (by cbv) (hbody 'b' (by decide))
  · exact hleft _ _ [⟨"d", ""⟩, ⟨"x", ""⟩] ['b'] (by cbv) (hbody 'b' (by decide))

end Testbench.Placeholder
