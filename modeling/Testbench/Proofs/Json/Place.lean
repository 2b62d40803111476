import Testbench.Proofs.Json.Grammar

/-!
# Places in a source

* `Cursor.Spans.trans`, `Cursor.Spans.split` : pieces are joined and cut at a place.
* `Cursor.Spans.unique` : a text ends at one place only.
* `Cursor.Avoids`, `Cursor.Starts` : the next character is not, or is, of a class.
* `Cursor.run_eq`, `Cursor.spans_run` : the longest run of a class is the one that a character
  outside of the class follows.
* `Grammar.gap_skipSpace`, `Grammar.Gap.skipSpace_eq` : so it is with white space.
-/

set_option autoImplicit false

namespace Testbench.Json

theorem byteLength_append (s t : List Char) :
    byteLength (s ++ t) = byteLength s + byteLength t := by
  induction s with
  | nil => simp [byteLength]
  | cons c s ih => simp only [List.cons_append, byteLength, ih, Nat.add_assoc]

namespace Cursor

/-! ## Pieces -/

theorem Spans.nil (a : Cursor) : Spans [] a a := ⟨rfl, rfl⟩

theorem Spans.trans {s t : List Char} {a b c : Cursor} (hs : Spans s a b) (ht : Spans t b c) :
    Spans (s ++ t) a c := by
  obtain ⟨hs₁, hs₂⟩ := hs
  obtain ⟨ht₁, ht₂⟩ := ht
  exact ⟨by rw [hs₁, ht₁, List.append_assoc], by rw [ht₂, hs₂, byteLength_append, Nat.add_assoc]⟩

theorem Spans.split {s t : List Char} {a c : Cursor} (h : Spans (s ++ t) a c) :
    ∃ b, Spans s a b ∧ Spans t b c := by
  obtain ⟨h₁, h₂⟩ := h
  refine ⟨⟨a.offset + byteLength s, t ++ c.rest⟩, ⟨by rw [h₁, List.append_assoc], rfl⟩, rfl, ?_⟩
  rw [h₂, byteLength_append, Nat.add_assoc]

theorem Spans.unique {s : List Char} {a b b' : Cursor} (h : Spans s a b) (h' : Spans s a b') :
    b = b' := by
  obtain ⟨h₁, h₂⟩ := h
  obtain ⟨h₁', h₂'⟩ := h'
  obtain ⟨o, r⟩ := b
  obtain ⟨o', r'⟩ := b'
  rw [h₁] at h₁'
  simp only at h₁' h₂ h₂'
  rw [List.append_cancel_left h₁', h₂, h₂']

theorem Spans.length_eq {s : List Char} {a b : Cursor} (h : Spans s a b) :
    a.rest.length = s.length + b.rest.length := by
  rw [h.1, List.length_append]

/-- The slice between the two ends of a text holds that text. -/
theorem Spans.text_sliceTo {s : List Char} {a b : Cursor} (h : Spans s a b) :
    (a.sliceTo b).text = s := by
  unfold sliceTo
  rw [h.1, h.2]
  exact Slice.text_of_append a.offset s b.rest

theorem spans_singleton {c : Char} {a b : Cursor} :
    Spans [c] a b ↔ a.rest = c :: b.rest ∧ b.offset = a.offset + c.utf8Size := by
  simp [Spans, byteLength]

/-- The place after a character of one byte, as readers build it. -/
theorem Spans.after_eq {c : Char} (hc : c.utf8Size = 1) {a b : Cursor} (h : Spans [c] a b) :
    Cursor.mk (a.offset + 1) b.rest = b := by
  obtain ⟨-, ho⟩ := h
  rw [byteLength, byteLength, hc] at ho
  rw [← ho]

theorem spans_ascii {c : Char} (hc : c.utf8Size = 1) {a b : Cursor} :
    Spans [c] a b ↔ a.rest = c :: b.rest ∧ b.offset = a.offset + 1 := by
  rw [spans_singleton, hc]

/-! ## The next character -/

/-- The next character is not in `p`, or there is none. -/
def Avoids (p : Char → Bool) (a : Cursor) : Prop := ∀ c, a.rest.head? = some c → p c = false

theorem avoids_of_cons {p : Char → Bool} {a : Cursor} {c : Char} {rest : List Char}
    (h : a.rest = c :: rest) (hc : p c = false) : a.Avoids p := by
  intro d hd
  rw [h] at hd
  cases hd
  exact hc

theorem avoids_of_nil {p : Char → Bool} {a : Cursor} (h : a.rest = []) : a.Avoids p := by
  intro c hc
  rw [h] at hc
  cases hc

theorem Spans.avoids {p : Char → Bool} {c : Char} {s : List Char} {a b : Cursor}
    (h : Spans (c :: s) a b) (hc : p c = false) : a.Avoids p :=
  avoids_of_cons h.1 hc

theorem Avoids.rest_ne {p : Char → Bool} {a : Cursor} (h : a.Avoids p) {c : Char}
    (hc : p c = true) (rest : List Char) : a.rest ≠ c :: rest := by
  intro hr
  have hp := h c (by rw [hr]; rfl)
  rw [hc] at hp
  cases hp

theorem Avoids.mono {p q : Char → Bool} {a : Cursor} (h : a.Avoids p)
    (hpq : ∀ c, q c = true → p c = true) : a.Avoids q := by
  intro c hc
  have hp := h c hc
  cases hq : q c with
  | false => rfl
  | true => rw [hpq c hq] at hp; cases hp

theorem next?_eq_some_iff {p : Char → Bool} {a b : Cursor} :
    a.next? p = some b ↔ ∃ c, p c = true ∧ Spans [c] a b := by
  unfold next?
  obtain ⟨o, r⟩ := b
  split
  · rename_i d rest hr
    constructor
    · intro h
      split at h
      · rename_i hd
        cases h
        exact ⟨d, hd, hr, rfl⟩
      · cases h
    · rintro ⟨c, hc, hc₁, hc₂⟩
      rw [hr, List.singleton_append, List.cons.injEq] at hc₁
      obtain ⟨rfl, rfl⟩ := hc₁
      simp only at hc₂
      rw [if_pos hc, hc₂]
      rfl
  · rename_i hr
    constructor
    · intro h; cases h
    · rintro ⟨c, -, hc, -⟩
      rw [hr] at hc
      cases hc

theorem next?_eq_none_iff {p : Char → Bool} {a : Cursor} : a.next? p = none ↔ a.Avoids p := by
  unfold next? Avoids
  cases a.rest <;> simp

/-- The next character is in `p`. -/
def Starts (p : Char → Bool) (a : Cursor) : Prop := ∃ c rest, a.rest = c :: rest ∧ p c = true

theorem Spans.starts {p : Char → Bool} {c : Char} {s : List Char} {a b : Cursor}
    (h : Spans (c :: s) a b) (hc : p c = true) : a.Starts p :=
  ⟨c, s ++ b.rest, h.1, hc⟩

theorem Starts.mono {p q : Char → Bool} {a : Cursor} (h : a.Starts p)
    (hpq : ∀ c, p c = true → q c = true) : a.Starts q := by
  obtain ⟨c, rest, hr, hc⟩ := h
  exact ⟨c, rest, hr, hpq c hc⟩

/-- Where a character of one class is next, none of a class apart from it is. -/
theorem Starts.avoids {p q : Char → Bool} {a : Cursor} (h : a.Starts p)
    (hqp : ∀ c, q c = true → p c = false) : a.Avoids q := by
  obtain ⟨c, rest, hr, hp⟩ := h
  refine avoids_of_cons hr ?_
  cases hc : q c with
  | false => rfl
  | true => rw [hqp c hc] at hp; cases hp

theorem Starts.avoids_char {p : Char → Bool} {a : Cursor} (h : a.Starts p) {d : Char}
    (hd : p d = false) : a.Avoids (· == d) :=
  h.avoids fun _ hc => beq_iff_eq.mp hc ▸ hd

/-! ## Runs -/

theorem spans_run (p : Char → Bool) (a : Cursor) : Spans (a.run p).1 a (a.run p).2 :=
  ⟨List.takeWhile_append_dropWhile.symm, rfl⟩

theorem mem_run {p : Char → Bool} {a : Cursor} {c : Char} (h : c ∈ (a.run p).1) : p c = true :=
  List.all_eq_true.mp List.all_takeWhile c h

theorem avoids_run (p : Char → Bool) (a : Cursor) : (a.run p).2.Avoids p := by
  intro c hc
  have h := List.head?_dropWhile_not p a.rest
  simp only [run] at hc
  rw [hc] at h
  simpa using h

theorem run_eq {p : Char → Bool} {s : List Char} {a b : Cursor} (hs : ∀ c ∈ s, p c = true)
    (h : Spans s a b) (hb : b.Avoids p) : a.run p = (s, b) := by
  have htake : a.rest.takeWhile p = s := by
    rw [h.1, List.takeWhile_append_of_pos hs]
    cases hr : b.rest with
    | nil => simp
    | cons c r => simp [hb c (by rw [hr]; rfl)]
  have hspan := spans_run p a
  have hfst : (a.run p).1 = s := htake
  rw [hfst] at hspan
  exact Prod.ext hfst (hspan.unique h)

end Cursor

namespace Grammar

open Cursor (Spans Avoids)

/-! ## White space -/

theorem isSpace_iff {c : Char} : isSpace c = true ↔ c ∈ [' ', '\t', '\n', '\r'] := by
  simp [isSpace, or_assoc]

theorem gap_skipSpace (a : Cursor) : Gap a a.skipSpace :=
  ⟨(a.run isSpace).1, fun _ hc => isSpace_iff.mp (Cursor.mem_run hc), Cursor.spans_run isSpace a⟩

theorem Gap.skipSpace_eq {a b : Cursor} (h : Gap a b) (hb : b.Avoids isSpace) :
    a.skipSpace = b := by
  obtain ⟨s, hs, hab⟩ := h
  exact congrArg Prod.snd (Cursor.run_eq (fun c hc => isSpace_iff.mpr (hs c hc)) hab hb)

theorem Gap.refl (a : Cursor) : Gap a a := ⟨[], by simp, .nil a⟩

theorem Gap.length_le {a b : Cursor} (h : Gap a b) : b.rest.length ≤ a.rest.length := by
  obtain ⟨s, -, hs⟩ := h
  rw [hs.length_eq]
  omega

theorem avoids_skipSpace (a : Cursor) : a.skipSpace.Avoids isSpace :=
  Cursor.avoids_run isSpace a

/-- White space is apart from a class that the four characters are not in. -/
theorem apart_of_isSpace {p : Char → Bool}
    (hp : ([' ', '\t', '\n', '\r'].all fun c => !p c) = true) {c : Char} (h : isSpace c = true) :
    p c = false := by
  have hc := List.all_eq_true.mp hp c (isSpace_iff.mp h)
  simpa using hc

/-- What a class does not hold after white space it does not hold before that either. -/
theorem Gap.avoids {p : Char → Bool} {a b : Cursor} (h : Gap a b)
    (hp : ([' ', '\t', '\n', '\r'].all fun c => !p c) = true) (hb : b.Avoids p) : a.Avoids p := by
  obtain ⟨s, hs, hab⟩ := h
  cases s with
  | nil =>
    obtain rfl := hab.unique (.nil a)
    exact hb
  | cons c s => exact hab.avoids (apart_of_isSpace hp (isSpace_iff.mpr (hs c List.mem_cons_self)))

/-- White space in front of what begins with no white space is all skipped. -/
theorem Gap.skipSpace_eq_of_starts {p : Char → Bool} {a b : Cursor} (h : Gap a b)
    (hp : ([' ', '\t', '\n', '\r'].all fun c => !p c) = true) (hb : b.Starts p) :
    a.skipSpace = b :=
  h.skipSpace_eq (hb.avoids fun _ => apart_of_isSpace hp)

theorem skipSpace_skipSpace (a : Cursor) : a.skipSpace.skipSpace = a.skipSpace :=
  (Gap.refl _).skipSpace_eq (avoids_skipSpace a)

end Grammar

end Testbench.Json
