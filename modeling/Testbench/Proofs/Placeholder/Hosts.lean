import Testbench.Proofs.Placeholder.Evaluation

/-!
# Hosts of expansion

What expansion does to the state of its host, and how expansions under two hosts compare.

* `Host.Keeps`, `expandAll_keeps` : expansion keeps what its host keeps.
* `Host.Extends`, `Host.Extends.expandAll` : a host that answers by a part of its state.
* `Differs`, `expandAll_recorder` : only the answers to what is asked matter.
-/

set_option autoImplicit false

namespace Testbench.Placeholder

/-! ## What a host keeps -/

section Keeps

variable {σ : Type} {host : Host σ} {P : σ → Prop}

/-- Neither answering nor noting a bound ends the property. -/
structure Host.Keeps (host : Host σ) (P : σ → Prop) : Prop where
  resolve : ∀ source argument s, P s → P (host.resolve source argument s).2
  report : ∀ limit s, P s → P (host.report limit s)

theorem Host.Keeps.value (hk : host.Keeps P) (body : List Char) {s : σ} (hs : P s) :
    P (host.value body s).2 :=
  hk.resolve _ _ _ hs

theorem substitute_keeps (hk : host.Keeps P) {expandBody : List Char → σ → List Char × σ}
    (hbody : ∀ body s, P s → P (expandBody body s).2) (whole : List Char) (budget : Nat)
    (text : List Char) {s : σ} (hs : P s) :
    P (substitute host expandBody whole budget text s).2 := by
  fun_induction substitute host expandBody whole budget text s with
  | case1 budget text s hn => exact hs
  | case2 text s p hn => exact hk.report _ _ hs
  | case3 text s p hn budget body s₁ hb value s₂ hv rest s₃ hr ih =>
    have hinner := hbody p.body s hs
    rw [hb] at hinner
    have hvalue := hk.value body hinner
    rw [hv] at hvalue
    rw [hr] at ih
    exact ih hvalue

theorem expandWithin_keeps (hk : host.Keeps P) (room : Nat) (text : List Char) {s : σ} (hs : P s) :
    P (expandWithin host room text s).2 := by
  induction room generalizing text s with
  | zero => exact hk.report _ _ hs
  | succ room ih => exact substitute_keeps hk (fun body s hs => ih body hs) _ _ _ hs

/-- What the host keeps, the expansion of tokens keeps. -/
theorem expandAll_keeps (hk : host.Keeps P) (tokens : List String) {s : σ} (hs : P s) :
    P (expandAll host tokens s).2 := by
  induction tokens generalizing s with
  | nil => exact hs
  | cons token rest ih => exact ih (expandWithin_keeps hk maxNesting token.toList hs)

end Keeps

/-! ## The host's own state -/

variable {σ τ : Type}

/-- The host answers as another one does that sees only a part of its state. -/
structure Host.Extends (host : Host τ) (part : τ → σ) (core : Host σ) : Prop where
  resolve : ∀ source argument t,
    Prod.map id part (host.resolve source argument t) = core.resolve source argument (part t)
  report : ∀ limit t, part (host.report limit t) = core.report limit (part t)

section Extends

variable {host : Host τ} {part : τ → σ} {core : Host σ}

theorem Host.Extends.value (h : host.Extends part core) (body : List Char) (t : τ) :
    Prod.map id part (host.value body t) = core.value body (part t) := by
  unfold Host.value
  simp only [← h.resolve]
  rfl

theorem Host.Extends.substitute (h : host.Extends part core)
    {expandBody : List Char → τ → List Char × τ} {expandBody' : List Char → σ → List Char × σ}
    (hbody : ∀ body t, Prod.map id part (expandBody body t) = expandBody' body (part t))
    (whole : List Char) (budget : Nat) (text : List Char) (t : τ) :
    Prod.map id part (Placeholder.substitute host expandBody whole budget text t) =
      Placeholder.substitute core expandBody' whole budget text (part t) := by
  induction budget generalizing text t with
  | zero =>
    unfold Placeholder.substitute
    cases next? text with
    | none => rfl
    | some p => exact Prod.ext rfl (h.report _ _)
  | succ budget ih =>
    unfold Placeholder.substitute
    cases next? text with
    | none => rfl
    | some p =>
      simp only [← hbody, ← h.value, ← ih, Prod.map_fst, Prod.map_snd, id]
      rfl

theorem Host.Extends.expandWithin (h : host.Extends part core) (room : Nat) (text : List Char)
    (t : τ) :
    Prod.map id part (Placeholder.expandWithin host room text t) =
      Placeholder.expandWithin core room text (part t) := by
  induction room generalizing text t with
  | zero => exact Prod.ext rfl (h.report _ _)
  | succ room ih => exact h.substitute ih text maxSubstitutions text t

/-- The tokens are expanded alike. -/
theorem Host.Extends.expandAll (h : host.Extends part core) (tokens : List String) (t : τ) :
    Prod.map id part (Placeholder.expandAll host tokens t) =
      Placeholder.expandAll core tokens (part t) := by
  induction tokens generalizing t with
  | nil => rfl
  | cons token rest ih =>
    have hwithin := h.expandWithin maxNesting token.toList t
    simp only [Placeholder.expandAll, Placeholder.expand, ← hwithin]
    generalize Placeholder.expandWithin host maxNesting token.toList t = expanded
    simp only [Prod.map_fst, Prod.map_snd, id, ← ih]
    rfl

end Extends

/-! ## Other answers -/

/-- Among the events there is a query that the two resolvers answer differently. -/
def Differs (f g : Resolver) (events : List Event) : Prop :=
  ∃ q, .query q ∈ events ∧ g q.source q.argument ≠ f q.source q.argument

section Differs

variable {f g : Resolver}

theorem differs_keeps (f g : Resolver) : (recorder f).Keeps (Differs f g) := by
  constructor
  · rintro source argument events ⟨q, hq, hne⟩
    exact ⟨q, List.mem_append_left _ hq, hne⟩
  · rintro limit events ⟨q, hq, hne⟩
    exact ⟨q, List.mem_append_left _ hq, hne⟩

theorem recorder_value_congr {body : List Char} {events : List Event}
    (h : ¬ Differs f g ((recorder f).value body events).2) :
    (recorder g).value body events = (recorder f).value body events := by
  have hanswer : g (Query.ofBody body).source (Query.ofBody body).argument =
      f (Query.ofBody body).source (Query.ofBody body).argument := by
    apply Decidable.byContradiction
    intro hne
    rw [recorder_value] at h
    exact h ⟨.ofBody body, by simp, hne⟩
  rw [recorder_value, recorder_value]
  unfold Resolver.answer
  rw [hanswer]

/-- What comes of a text is the same under resolvers that answer alike whatever is asked. -/
theorem substitute_recorder {bodyF bodyG : List Char → List Event → List Char × List Event}
    (hkeeps : ∀ body events, Differs f g events → Differs f g (bodyF body events).2)
    (hbody : ∀ body events, ¬ Differs f g (bodyF body events).2 →
      bodyG body events = bodyF body events)
    (whole : List Char) (budget : Nat) (text : List Char) {events : List Event}
    (h : ¬ Differs f g (substitute (recorder f) bodyF whole budget text events).2) :
    substitute (recorder g) bodyG whole budget text events =
      substitute (recorder f) bodyF whole budget text events := by
  induction budget generalizing text events with
  | zero =>
    unfold substitute
    cases next? text <;> rfl
  | succ budget ih =>
    unfold substitute at h ⊢
    cases hn : next? text with
    | none => rfl
    | some found =>
      simp only [hn] at h ⊢
      have hk := differs_keeps f g
      -- events are never taken back, so what differs at no later point did not differ before
      have hvalue : ¬ Differs f g ((recorder f).value (bodyF found.body events).1
          (bodyF found.body events).2).2 :=
        fun hd => h (substitute_keeps hk hkeeps _ _ _ hd)
      have hinner : ¬ Differs f g (bodyF found.body events).2 :=
        fun hd => hvalue (hk.value _ hd)
      rw [hbody found.body events hinner, recorder_value_congr hvalue, ih _ h]

theorem expandWithin_recorder (room : Nat) (text : List Char) {events : List Event}
    (h : ¬ Differs f g (expandWithin (recorder f) room text events).2) :
    expandWithin (recorder g) room text events = expandWithin (recorder f) room text events := by
  induction room generalizing text events with
  | zero => rfl
  | succ room ih =>
    exact substitute_recorder (fun body _ => expandWithin_keeps (differs_keeps f g) room body)
      (fun body _ => ih body) _ _ _ h

theorem expandAll_recorder (tokens : List String) {events : List Event}
    (h : ¬ Differs f g (expandAll (recorder f) tokens events).2) :
    expandAll (recorder g) tokens events = expandAll (recorder f) tokens events := by
  induction tokens generalizing events with
  | nil => rfl
  | cons token rest ih =>
    simp only [expandAll, expand] at h ⊢
    have hfirst : ¬ Differs f g (expandWithin (recorder f) maxNesting token.toList events).2 :=
      fun hd => h (expandAll_keeps (differs_keeps f g) rest hd)
    rw [expandWithin_recorder maxNesting token.toList hfirst]
    generalize expandWithin (recorder f) maxNesting token.toList events = expanded at h ⊢
    rw [ih h]

end Differs

end Testbench.Placeholder
