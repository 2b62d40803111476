import Testbench.Proofs.Placeholder.Levels

/-!
# How often a host is asked

The number of replacements is bounded for each text alone, the token or a body. The bounds of the
texts in each other multiply, so the bound for a token with all its bodies is far higher.

* `asked` : the number of queries among events.
* `asked_substitute_le`, `asked_substitute_eq` : every round asks once, and what its body asks.
* `expandOwn` : an expansion that notes what is asked for the placeholders of the text itself.
* `mostAsked` : the most queries of a text with all bodies in it.
* `answering` : the host under which the towers among the texts ask that much.
* `expand_asks_at_most` : the bounds, for one text and for a token.
* `expand_asks_more` : a token with its bodies asks more than the bound for one text.
-/

set_option autoImplicit false

namespace Testbench.Placeholder

/-! ## Numbers of queries -/

def Event.isQuery : Event → Bool
  | .query _ => true
  | .report _ => false

/-- The number of queries among the events. -/
def asked (events : List Event) : Nat := events.countP Event.isQuery

@[simp] theorem asked_nil : asked [] = 0 := rfl

section Recording

variable {σ : Type} (host : Host σ) (s : σ × List Event)

@[simp] theorem asked_recording_resolve (source argument : String) :
    asked (host.recording.resolve source argument s).2.2 = asked s.2 + 1 := by
  simp [Host.recording, asked, Event.isQuery]

@[simp] theorem asked_recording_value (body : List Char) :
    asked (host.recording.value body s).2.2 = asked s.2 + 1 :=
  asked_recording_resolve host s _ _

@[simp] theorem asked_recording_report (limit : Limit) :
    asked (host.recording.report limit s).2 = asked s.2 := by
  simp [Host.recording, asked, Event.isQuery]

end Recording

/-- Events are never taken back. -/
theorem keeps_asked {σ : Type} (host : Host σ) (n : Nat) :
    host.recording.Keeps (n ≤ asked ·.2) where
  resolve source argument s hs := by
    rw [asked_recording_resolve]
    exact Nat.le_succ_of_le hs
  report limit s hs := by
    rw [asked_recording_report]
    exact hs

variable {σ : Type} {host : Host σ}

/-! ## One text -/

/-- The budget bounds the rounds, and a round asks once besides what its body asks. -/
theorem asked_substitute_le {n : Nat}
    {expandBody : List Char → σ × List Event → List Char × (σ × List Event)}
    (hbody : ∀ body s, asked (expandBody body s).2.2 ≤ asked s.2 + n) (whole : List Char)
    (budget : Nat) (text : List Char) (s : σ × List Event) :
    asked (substitute host.recording expandBody whole budget text s).2.2 ≤
      asked s.2 + budget * (n + 1) := by
  fun_induction substitute host.recording expandBody whole budget text s with
  | case1 budget text s hn => exact Nat.le_add_right _ _
  | case2 text s p hn =>
    rw [asked_recording_report]
    exact Nat.le_add_right _ _
  | case3 text s p hn budget body s₁ hb value s₂ hv rest s₃ hr ih =>
    have hinner : asked s₁.2 ≤ asked s.2 + n := by simpa only [hb] using hbody p.body s
    have hvalue : asked s₂.2 = asked s₁.2 + 1 := by
      simpa only [hv] using asked_recording_value host s₁ body
    have hrest : asked s₃.2 ≤ asked s₂.2 + budget * (n + 1) := by simpa only [hr] using ih
    calc asked s₃.2
        ≤ asked s.2 + (budget * (n + 1) + (n + 1)) := by omega
      _ = asked s.2 + (budget + 1) * (n + 1) := by rw [Nat.succ_mul]

/-- The budget is used up by texts of one placeholder each, if the values are such texts again. -/
theorem asked_substitute_eq {n : Nat} {P : List Char → Prop}
    {expandBody : List Char → σ × List Event → List Char × (σ × List Event)}
    (hbody : ∀ text s, P text → ∃ body, next? text = some ⟨[], body, []⟩ ∧
      asked (expandBody body s).2.2 = asked s.2 + n ∧
        P (host.recording.value (expandBody body s).1 (expandBody body s).2).1)
    (whole : List Char) (budget : Nat) {text : List Char} (ht : P text) (s : σ × List Event) :
    asked (substitute host.recording expandBody whole budget text s).2.2 =
      asked s.2 + budget * (n + 1) := by
  induction budget generalizing text s with
  | zero =>
    obtain ⟨body, hn, -⟩ := hbody text s ht
    rw [substitute_zero _ _ _ _ hn, asked_recording_report, Nat.zero_mul, Nat.add_zero]
  | succ budget ih =>
    obtain ⟨body, hn, hinner, hvalue⟩ := hbody text s ht
    rw [substitute_succ _ _ _ _ hn, Nat.succ_mul]
    dsimp only
    rw [List.append_nil, ih hvalue, asked_recording_value, hinner]
    omega

/-! ## The placeholders of the text itself -/

/-- The expansion of a body with the notes laid aside. -/
def unnoted (expandBody : List Char → σ → List Char × σ) (body : List Char)
    (s : σ × List Event) : List Char × (σ × List Event) :=
  let (text, state) := expandBody body s.1
  (text, state, s.2)

/-- A text inside at most `room + 1` more placeholders is expanded, and only what is asked and told
for its own placeholders is noted, not what their bodies ask and tell. -/
def expandOwn (host : Host σ) (room : Nat) (text : List Char) (s : σ) :
    List Char × (σ × List Event) :=
  substitute host.recording (unnoted (expandWithin host room)) text maxSubstitutions text (s, [])

theorem expandOwn_eq (host : Host σ) (room : Nat) (text : List Char) (s : σ) :
    Prod.map id Prod.fst (expandOwn host room text s) = expandWithin host (room + 1) text s :=
  host.recording_extends.substitute (fun _ _ => rfl) text maxSubstitutions text (s, [])

theorem asked_expandOwn_le (host : Host σ) (room : Nat) (text : List Char) (s : σ) :
    asked (expandOwn host room text s).2.2 ≤ maxSubstitutions := by
  have hbody : ∀ body (s : σ × List Event),
      asked (unnoted (expandWithin host room) body s).2.2 ≤ asked s.2 + 0 :=
    fun _ _ => Nat.le_refl _
  have h := @asked_substitute_le σ host 0 _ hbody text maxSubstitutions text (s, [])
  rwa [asked_nil, Nat.zero_add, Nat.zero_add, Nat.mul_one] at h

/-! ## All bodies -/

/-- The most queries of a text inside at most `room` more placeholders, with all bodies in it. -/
def mostAsked : (room : Nat) → Nat
  | 0 => 0
  | room + 1 => mostAsked room + maxSubstitutions ^ (room + 1)

theorem mostAsked_succ (room : Nat) :
    mostAsked (room + 1) = maxSubstitutions * (mostAsked room + 1) := by
  induction room with
  | zero => rfl
  | succ room ih =>
    calc mostAsked (room + 2)
        = maxSubstitutions * (mostAsked room + 1) +
            maxSubstitutions * maxSubstitutions ^ (room + 1) := by
          rw [mostAsked, ih, Nat.pow_succ, Nat.mul_comm (_ ^ _)]
      _ = maxSubstitutions * (mostAsked room + maxSubstitutions ^ (room + 1) + 1) := by
          rw [← Nat.mul_add, Nat.add_right_comm]

theorem asked_expandWithin_le (host : Host σ) (room : Nat) (text : List Char) (s : σ × List Event) :
    asked (expandWithin host.recording room text s).2.2 ≤ asked s.2 + mostAsked room := by
  induction room generalizing text s with
  | zero => exact Nat.le_of_eq (asked_recording_report host s _)
  | succ room ih =>
    rw [mostAsked_succ]
    exact asked_substitute_le ih text maxSubstitutions text s

theorem expand_state (host : Host σ) (token : String) (s : σ) :
    (expand host token s).2 = (expandWithin host maxNesting token.toList s).2 := rfl

theorem asked_expand_le (host : Host σ) (token : String) (s : σ) :
    asked (expand host.recording token (s, [])).2.2 ≤ mostAsked maxNesting := by
  have h := asked_expandWithin_le host maxNesting token.toList (s, [])
  rwa [asked_nil, Nat.zero_add] at h

/-- A text asks more than the body of its first placeholder does. -/
theorem asked_body_lt {text : List Char} {p : Found} (hn : next? text = some p) (room : Nat)
    (s : σ × List Event) :
    asked (expandWithin host.recording room p.body s).2.2 <
      asked (expandWithin host.recording (room + 1) text s).2.2 := by
  have hpos : maxSubstitutions = (maxSubstitutions - 1) + 1 := rfl
  rw [expandWithin, hpos, substitute_succ _ _ _ _ hn]
  refine substitute_keeps (keeps_asked host _)
    (fun body s hs => expandWithin_keeps (keeps_asked host _) room body hs) _ _ _ ?_
  exact Nat.le_of_eq (asked_recording_value host _ _).symm

/-- A placeholder that is its own value is asked for until the budget is used up. -/
theorem asked_expandWithin_self {text body : List Char} (hn : next? text = some ⟨[], body, []⟩)
    (hb : next? body = none) (hv : ∀ s, (host.value body s).1 = text) (room : Nat)
    (s : σ × List Event) :
    asked (expandWithin host.recording (room + 2) text s).2.2 = asked s.2 + maxSubstitutions := by
  have hbody : ∀ s, expandWithin host.recording (room + 1) body s = (body, s) :=
    fun s => substitute_of_next?_none _ _ _ _ hb _
  have h := @asked_substitute_eq σ host 0 (· = text) (expandWithin host.recording (room + 1))
    (fun t s ht => ⟨body, ht ▸ hn, by rw [hbody]; rfl, by rw [hbody]; exact hv _⟩)
    text maxSubstitutions text rfl s
  rwa [Nat.zero_add, Nat.mul_one] at h

/-- The host whose answer is always the same text. -/
def answering (text : List Char) : Host Unit where
  resolve _ _ s := (some (String.ofList text), s)
  report _ s := s

theorem answering_value (text body : List Char) (s : Unit × List Event) :
    ((answering text).recording.value body s).1 = text := String.toList_ofList

theorem next?_tower (n : Nat) : next? (tower (n + 1)) = some ⟨[], tower n, []⟩ :=
  next?_closed (closes_tower n) []

/-- Towers too high for the room they have, with such towers as values, use up all budgets. -/
theorem asked_expandWithin_tower {height room : Nat} (hroom : room ≤ height) {n : Nat}
    (hn : room ≤ n) (s : Unit × List Event) :
    asked (expandWithin (answering (tower height)).recording room (tower n) s).2.2 =
      asked s.2 + mostAsked room := by
  induction room generalizing n s with
  | zero => exact asked_recording_report _ s _
  | succ room ih =>
    have hle := Nat.le_of_succ_le hroom
    obtain ⟨high, rfl⟩ : ∃ high, height = high + 1 := Nat.exists_eq_add_one_of_ne_zero (by omega)
    obtain ⟨m, rfl⟩ : ∃ m, n = m + 1 := Nat.exists_eq_add_one_of_ne_zero (by omega)
    rw [mostAsked_succ]
    -- the tower is replaced as a whole, so each round starts on the answer, a tower again
    refine asked_substitute_eq (P := fun text => ∃ m, room ≤ m ∧ text = tower (m + 1)) ?_ _
      maxSubstitutions ⟨m, Nat.le_of_succ_le_succ hn, rfl⟩ s
    rintro _ s ⟨m, hm, rfl⟩
    exact ⟨tower m, next?_tower m, ih hle hm s,
      high, Nat.le_of_succ_le_succ hroom, answering_value _ _ _⟩

/-! ## Tokens -/

/-- **A text asks at most once for each replacement of its own.** The host is asked at most
`maxSubstitutions` times for the placeholders of one text, be it a token or a body, not counting
what is asked for their bodies. Counting that as well it is asked at most `mostAsked maxNesting`
times for a token, and this can happen. -/
theorem expand_asks_at_most (host : Host σ) :
    (∀ room text s,
      Prod.map id Prod.fst (expandOwn host room text s) = expandWithin host (room + 1) text s ∧
        asked (expandOwn host room text s).2.2 ≤ maxSubstitutions) ∧
    (∀ token s, asked (expand host.recording token (s, [])).2.2 ≤ mostAsked maxNesting) ∧
    ∃ (other : Host Unit) (token : String),
      asked (expand other.recording token ((), [])).2.2 = mostAsked maxNesting := by
  refine ⟨fun room text s => ⟨expandOwn_eq host room text s, asked_expandOwn_le host room text s⟩,
    asked_expand_le host, answering (tower maxNesting), String.ofList (tower maxNesting), ?_⟩
  have h := @asked_expandWithin_tower maxNesting maxNesting (Nat.le_refl _) maxNesting
    (Nat.le_refl _) ((), [])
  rw [asked_nil, Nat.zero_add] at h
  rwa [expand_state, String.toList_ofList]

/-- A body with a value that is this body again uses up its budget, and the token asks once more. -/
theorem expand_asks_more :
    let host : Host Unit :=
      ⟨fun source _ s => (if source = "l" then some "$\x7bl\x7d" else none, s), fun _ s => s⟩
    maxSubstitutions < asked (expand host.recording "$\x7b$\x7bl\x7d\x7d" ((), [])).2.2 := by
  intro host
  obtain ⟨room, hroom⟩ : ∃ room, maxNesting = room + 2 + 1 := ⟨29, rfl⟩
  have hself := @asked_expandWithin_self Unit host "$\x7bl\x7d".toList ['l'] rfl rfl
    (fun _ => by cbv) room ((), [])
  have hround := @asked_body_lt Unit host "$\x7b$\x7bl\x7d\x7d".toList
    ⟨[], "$\x7bl\x7d".toList, []⟩ rfl (room + 2) ((), [])
  rw [asked_nil, Nat.zero_add] at hself
  dsimp only at hround
  rw [hself] at hround
  rw [expand_state, hroom]
  exact hround

end Testbench.Placeholder
