import Testbench.Placeholder

/-!
# The closed placeholders of a text

`body?` counts braces; this file says what the count means.

* `Closes depth s` : every `${` of `s` is closed in it, and `depth` braces more are.
* `body?_eq_some_iff` : the body that `body?` finds is the one way to write the text as something
  that closes, a brace, and a rest.
* `Found.IsIn` : a closed placeholder of a text; `mem_placeholders_iff` : `placeholders` lists
  exactly these.
* `pairwise_placeholders` : they are listed by their closing braces, so that a placeholder comes
  after those inside it and before those that open later.
-/

set_option autoImplicit false

namespace Testbench.Placeholder

/-! ## Closing braces -/

/-- Every `${` of the text is closed in it, and `depth` braces more are closed. -/
inductive Closes : (depth : Nat) → List Char → Prop where
  | nil : Closes 0 []
  | opening {depth : Nat} {s : List Char} : Closes (depth + 1) s → Closes depth ('$' :: '\x7b' :: s)
  | closing {depth : Nat} {s : List Char} : Closes depth s → Closes (depth + 1) ('\x7d' :: s)
  | char {depth : Nat} {c : Char} {s : List Char} :
      c ≠ '\x7d' → (c = '$' → s.head? ≠ some '\x7b') → Closes depth s → Closes depth (c :: s)

theorem body?_char {depth : Nat} {c : Char} {s : List Char} (hc : c ≠ '\x7d')
    (ho : c = '$' → s.head? ≠ some '\x7b') :
    body? depth (c :: s) = (body? depth s).map fun p => (c :: p.1, p.2) := by
  rw [body?.eq_5]
  · rintro rest rfl rfl
    exact ho rfl rfl
  · rintro - rfl
    exact hc rfl
  · rintro - - rfl
    exact hc rfl

theorem eq_of_body? {depth : Nat} {s body after : List Char}
    (h : body? depth s = some (body, after)) : s = body ++ '\x7d' :: after ∧ Closes depth body := by
  fun_induction body? depth s generalizing body after with
  | case1 => cases h
  | case2 depth rest ih =>
    simp only [Option.map_eq_some_iff, Prod.mk.injEq] at h
    obtain ⟨⟨b, a⟩, hb, rfl, rfl⟩ := h
    obtain ⟨rfl, hc⟩ := ih hb
    exact ⟨rfl, .opening hc⟩
  | case3 rest =>
    cases h
    exact ⟨rfl, .nil⟩
  | case4 depth rest ih =>
    simp only [Option.map_eq_some_iff, Prod.mk.injEq] at h
    obtain ⟨⟨b, a⟩, hb, rfl, rfl⟩ := h
    obtain ⟨rfl, hc⟩ := ih hb
    exact ⟨rfl, .closing hc⟩
  | case5 depth c rest h1 h2 h3 ih =>
    simp only [Option.map_eq_some_iff, Prod.mk.injEq] at h
    obtain ⟨⟨b, a⟩, hb, rfl, rfl⟩ := h
    obtain ⟨rfl, hc⟩ := ih hb
    refine ⟨rfl, .char ?_ ?_ hc⟩
    · rintro rfl
      cases depth with
      | zero => exact h2 rfl rfl
      | succ depth => exact h3 depth rfl rfl
    · rintro rfl hh
      cases b with
      | nil => cases hh
      | cons d b =>
        cases hh
        exact h1 _ rfl rfl

theorem Closes.body?_append {depth : Nat} {body : List Char} (h : Closes depth body)
    (after : List Char) : body? depth (body ++ '\x7d' :: after) = some (body, after) := by
  induction h with
  | nil => rfl
  | opening _ ih => simp [body?, ih]
  | closing _ ih => simp [body?, ih]
  | @char depth c s hc ho _ ih =>
    rw [List.cons_append, body?_char hc, ih]
    · rfl
    · intro hd
      cases s with
      | nil => simp
      | cons d s => simpa using ho hd

/-- What `body?` finds is the one way to split the text at a brace behind what closes. -/
theorem body?_eq_some_iff {depth : Nat} {s body after : List Char} :
    body? depth s = some (body, after) ↔ s = body ++ '\x7d' :: after ∧ Closes depth body :=
  ⟨eq_of_body?, fun ⟨hs, hc⟩ => hs ▸ hc.body?_append after⟩

theorem length_of_body? {depth : Nat} {s body after : List Char}
    (h : body? depth s = some (body, after)) : s.length = body.length + after.length + 1 := by
  rw [(eq_of_body? h).1, List.length_append, List.length_cons]
  omega

/-- Among more closing braces than `inner + 1`, one comes when only `inner` are missing. -/
theorem Closes.split {depth : Nat} {s : List Char} (h : Closes depth s) :
    ∀ inner outer, depth = inner + outer + 1 →
      ∃ a b, s = a ++ '\x7d' :: b ∧ Closes inner a ∧ Closes outer b := by
  induction h with
  | nil => intro inner outer hd; omega
  | opening _ ih =>
    intro inner outer hd
    obtain ⟨a, b, rfl, ha, hb⟩ := ih (inner + 1) outer (by omega)
    exact ⟨'$' :: '\x7b' :: a, b, rfl, .opening ha, hb⟩
  | @closing depth s hs ih =>
    intro inner outer hd
    cases inner with
    | zero =>
      obtain rfl : depth = outer := by omega
      exact ⟨[], s, rfl, .nil, hs⟩
    | succ inner =>
      obtain ⟨a, b, rfl, ha, hb⟩ := ih inner outer (by omega)
      exact ⟨'\x7d' :: a, b, rfl, .closing ha, hb⟩
  | @char depth c s hc ho _ ih =>
    intro inner outer hd
    obtain ⟨a, b, rfl, ha, hb⟩ := ih inner outer hd
    refine ⟨c :: a, b, rfl, .char hc (fun h => ?_) ha, hb⟩
    cases a with
    | nil => simp
    | cons d a => simpa using ho h

/-- What follows a `${` of a text that closes closes one brace at least. -/
theorem Closes.after_opening {depth : Nat} {s : List Char} (h : Closes depth s) :
    ∀ before inside, s = before ++ '$' :: '\x7b' :: inside → ∃ more, Closes (more + 1) inside := by
  induction h with
  | nil => intro before inside hs; simp at hs
  | @opening depth s h ih =>
    intro before inside hs
    match before with
    | [] =>
      cases hs
      exact ⟨depth, h⟩
    | [_] => simp at hs
    | _ :: _ :: before =>
      simp only [List.cons_append, List.cons.injEq] at hs
      exact ih before inside hs.2.2
  | closing _ ih =>
    intro before inside hs
    cases before with
    | nil => simp at hs
    | cons _ before =>
      simp only [List.cons_append, List.cons.injEq] at hs
      exact ih before inside hs.2
  | char _ ho _ ih =>
    intro before inside hs
    cases before with
    | nil =>
      cases hs
      exact absurd rfl (ho rfl)
    | cons _ before =>
      simp only [List.cons_append, List.cons.injEq] at hs
      exact ih before inside hs.2

/-- Every `${` inside a text that closes is closed inside it. -/
theorem Closes.closed_inside {depth : Nat} {before inside : List Char}
    (h : Closes depth (before ++ '$' :: '\x7b' :: inside)) :
    ∃ body after, inside = body ++ '\x7d' :: after ∧ Closes 0 body := by
  obtain ⟨more, hm⟩ := h.after_opening before inside rfl
  obtain ⟨body, after, hi, hb, -⟩ := hm.split 0 more (by omega)
  exact ⟨body, after, hi, hb⟩

/-- Only one brace closes. -/
theorem Closes.unique {depth : Nat} {a a' b b' : List Char} (h : Closes depth a)
    (h' : Closes depth a') (he : a ++ '\x7d' :: b = a' ++ '\x7d' :: b') : a = a' ∧ b = b' := by
  have hb := h.body?_append b
  rw [he, h'.body?_append b', Option.some.injEq, Prod.mk.injEq] at hb
  exact ⟨hb.1.symm, hb.2.symm⟩

/-! ## Closed placeholders -/

/-- The placeholder stands in the text, and the brace behind its body is the one that closes it. -/
def Found.IsIn (text : List Char) (p : Found) : Prop :=
  text = p.before ++ '$' :: '\x7b' :: (p.body ++ '\x7d' :: p.after) ∧ Closes 0 p.body

/-- The same placeholder with more text behind. -/
def Found.follow (s : List Char) (p : Found) : Found := { p with after := p.after ++ s }

/-- The closed placeholders of a text, those inside others too, by their closing braces. -/
def placeholders : List Char → List Found
  | [] => []
  | '$' :: '\x7b' :: rest =>
    match _h : body? 0 rest with
    | some (body, after) =>
      (placeholders body).map (fun p => (p.follow ('\x7d' :: after)).precede ['$', '\x7b']) ++
        ⟨[], body, after⟩ ::
          (placeholders after).map (Found.precede ('$' :: '\x7b' :: (body ++ ['\x7d'])))
    | none => (placeholders rest).map (Found.precede ['$', '\x7b'])
  | c :: rest => (placeholders rest).map (Found.precede [c])
termination_by s => s.length
decreasing_by
  · have := length_of_body? _h
    simp only [List.length_cons]
    omega
  · have := length_of_body? _h
    simp only [List.length_cons]
    omega
  · simp only [List.length_cons]
    omega
  · simp only [List.length_cons]
    omega

/-- A text is empty, or starts with a closed placeholder, a `${` that nothing closes or a character
that opens nothing. -/
theorem textInduction {motive : List Char → Prop} (nil : motive [])
    (closed : ∀ body after, Closes 0 body → motive body → motive after →
      motive ('$' :: '\x7b' :: (body ++ '\x7d' :: after)))
    (unclosed : ∀ rest, body? 0 rest = none → motive rest → motive ('$' :: '\x7b' :: rest))
    (char : ∀ c rest, (c = '$' → rest.head? ≠ some '\x7b') → motive rest → motive (c :: rest))
    (s : List Char) : motive s := by
  fun_induction placeholders s with
  | case1 => exact nil
  | case2 rest body after h ihb iha =>
    obtain ⟨rfl, hc⟩ := eq_of_body? h
    exact closed body after hc ihb iha
  | case3 rest h ih => exact unclosed rest h ih
  | case4 c rest h ih =>
    refine char c rest (fun hc hh => ?_) ih
    cases rest with
    | nil => cases hh
    | cons d rest =>
      cases hh
      exact h rest hc rfl

theorem placeholders_closed {body : List Char} (h : Closes 0 body) (after : List Char) :
    placeholders ('$' :: '\x7b' :: (body ++ '\x7d' :: after)) =
      (placeholders body).map (fun p => (p.follow ('\x7d' :: after)).precede ['$', '\x7b']) ++
        ⟨[], body, after⟩ ::
          (placeholders after).map (Found.precede ('$' :: '\x7b' :: (body ++ ['\x7d']))) := by
  have hb := h.body?_append after
  rw [placeholders]
  split <;> simp_all

theorem placeholders_unclosed {rest : List Char} (h : body? 0 rest = none) :
    placeholders ('$' :: '\x7b' :: rest) =
      (placeholders rest).map (Found.precede ['$', '\x7b']) := by
  rw [placeholders]
  split <;> simp_all

theorem placeholders_char {c : Char} {s : List Char} (h : c = '$' → s.head? ≠ some '\x7b') :
    placeholders (c :: s) = (placeholders s).map (Found.precede [c]) := by
  rw [placeholders]
  rintro rest rfl rfl
  exact h rfl rfl

/-! ## `placeholders` lists the closed placeholders -/

theorem isIn_char {c : Char} {s : List Char} (h : c = '$' → s.head? ≠ some '\x7b') {p : Found} :
    p.IsIn (c :: s) ↔ ∃ q : Found, q.IsIn s ∧ q.precede [c] = p := by
  constructor
  · rintro ⟨hs, hc⟩
    obtain ⟨before, body, after⟩ := p
    cases before with
    | nil =>
      cases hs
      exact absurd rfl (h rfl)
    | cons d before =>
      simp only [List.cons_append, List.cons.injEq] at hs
      obtain ⟨rfl, rfl⟩ := hs
      exact ⟨⟨before, body, after⟩, ⟨rfl, hc⟩, rfl⟩
  · rintro ⟨q, ⟨rfl, hc⟩, rfl⟩
    exact ⟨rfl, hc⟩

theorem isIn_opening {rest : List Char} {p : Found} :
    p.IsIn ('$' :: '\x7b' :: rest) ↔
      (p.before = [] ∧ body? 0 rest = some (p.body, p.after)) ∨
        ∃ q : Found, q.IsIn rest ∧ q.precede ['$', '\x7b'] = p := by
  obtain ⟨before, body, after⟩ := p
  constructor
  · rintro ⟨hs, hc⟩
    match before with
    | [] =>
      cases hs
      exact .inl ⟨rfl, hc.body?_append after⟩
    | [_] => simp at hs
    | c :: d :: before =>
      simp only [List.cons_append, List.cons.injEq] at hs
      obtain ⟨rfl, rfl, rfl⟩ := hs
      exact .inr ⟨⟨before, body, after⟩, ⟨rfl, hc⟩, rfl⟩
  · rintro (⟨rfl, hb⟩ | ⟨q, ⟨rfl, hc⟩, hq⟩)
    · obtain ⟨rfl, hc⟩ := eq_of_body? hb
      exact ⟨rfl, hc⟩
    · cases hq
      exact ⟨rfl, hc⟩

/-- A closed placeholder stands before or behind a closing brace, not across it. -/
theorem isIn_append_closing {body after : List Char} (h : Closes 0 body) {p : Found} :
    p.IsIn (body ++ '\x7d' :: after) ↔
      (∃ q : Found, q.IsIn body ∧ q.follow ('\x7d' :: after) = p) ∨
        ∃ q : Found, q.IsIn after ∧ q.precede (body ++ ['\x7d']) = p := by
  obtain ⟨before, inner, behind⟩ := p
  constructor
  · rintro ⟨hs, hc⟩
    rcases List.append_eq_append_iff.mp hs with ⟨gap, hg, ha⟩ | ⟨gap, hg, ha⟩
    · cases gap with
      | nil => simp at ha
      | cons c gap =>
        simp only [List.cons_append, List.cons.injEq] at ha
        obtain ⟨rfl, rfl⟩ := ha
        exact .inr ⟨⟨gap, inner, behind⟩, ⟨rfl, hc⟩, by simp_all [Found.precede]⟩
    · rcases gap with - | ⟨c, - | ⟨d, gap⟩⟩
      · simp at ha
      · simp at ha
      · simp only [List.cons_append, List.cons.injEq] at ha
        obtain ⟨rfl, rfl, ha⟩ := ha
        subst hg
        obtain ⟨b, a, rfl, hb⟩ := h.closed_inside
        rw [List.append_assoc] at ha
        obtain ⟨rfl, rfl⟩ := hc.unique hb ha
        exact .inl ⟨⟨before, inner, a⟩, ⟨rfl, hb⟩, by simp [Found.follow]⟩
  · rintro (⟨q, ⟨rfl, hc⟩, hq⟩ | ⟨q, ⟨rfl, hc⟩, hq⟩)
    · cases hq
      exact ⟨by simp, hc⟩
    · cases hq
      exact ⟨by simp, hc⟩

/-- `placeholders` lists the closed placeholders of the text. -/
theorem mem_placeholders_iff {text : List Char} {p : Found} :
    p ∈ placeholders text ↔ p.IsIn text := by
  induction text using textInduction generalizing p with
  | nil => simp [placeholders, Found.IsIn]
  | closed body after hb ihb iha =>
    rw [placeholders_closed hb, isIn_opening, hb.body?_append]
    simp only [isIn_append_closing hb, List.mem_append, List.mem_cons, List.mem_map, ihb, iha]
    constructor
    · rintro (⟨q, hq, rfl⟩ | rfl | ⟨q, hq, rfl⟩)
      · exact .inr ⟨_, .inl ⟨q, hq, rfl⟩, rfl⟩
      · exact .inl ⟨rfl, rfl⟩
      · exact .inr ⟨_, .inr ⟨q, hq, rfl⟩, rfl⟩
    · rintro (⟨hn, he⟩ | ⟨-, ⟨q, hq, rfl⟩ | ⟨q, hq, rfl⟩, rfl⟩)
      · obtain ⟨before, inner, behind⟩ := p
        cases hn
        cases he
        exact .inr (.inl rfl)
      · exact .inl ⟨q, hq, rfl⟩
      · exact .inr (.inr ⟨q, hq, rfl⟩)
  | unclosed rest h ih =>
    rw [placeholders_unclosed h, isIn_opening, h]
    simp [ih]
  | char c rest h ih =>
    rw [placeholders_char h, isIn_char h]
    simp [ih]

theorem Found.IsIn.length_after_lt {text : List Char} {p : Found} (h : p.IsIn text) :
    p.after.length < text.length := by
  rw [h.1]
  simp only [List.length_append, List.length_cons]
  omega

/-- Each placeholder of the list closes before all later ones. -/
theorem pairwise_placeholders (text : List Char) :
    (placeholders text).Pairwise fun p q => q.after.length < p.after.length := by
  induction text using textInduction with
  | nil => simp [placeholders]
  | closed body after hb ihb iha =>
    rw [placeholders_closed hb, List.pairwise_append, List.pairwise_cons]
    have hlater : ∀ q ∈ placeholders after, q.after.length < after.length :=
      fun q hq => (mem_placeholders_iff.mp hq).length_after_lt
    refine ⟨?_, ⟨?_, ?_⟩, ?_⟩
    · rw [List.pairwise_map]
      exact ihb.imp fun h => by simp only [Found.follow, Found.precede, List.length_append]; omega
    · intro q hq
      obtain ⟨r, hr, rfl⟩ := List.mem_map.mp hq
      exact hlater r hr
    · rw [List.pairwise_map]
      exact iha
    · intro p hp q hq
      obtain ⟨p, -, rfl⟩ := List.mem_map.mp hp
      have hq : q.after.length ≤ after.length := by
        rcases List.mem_cons.mp hq with rfl | hq
        · exact Nat.le_refl _
        · obtain ⟨r, hr, rfl⟩ := List.mem_map.mp hq
          exact Nat.le_of_lt (hlater r hr)
      simp only [Found.follow, Found.precede, List.length_append, List.length_cons]
      omega
  | unclosed rest h ih =>
    rw [placeholders_unclosed h, List.pairwise_map]
    exact ih
  | char c rest h ih =>
    rw [placeholders_char h, List.pairwise_map]
    exact ih

end Testbench.Placeholder
