import Mathlib
import Testbench.Proofs.Json.Place

/-!
# Numbers, words, strings and names

What the reader takes for a leaf of a document is a leaf of the grammar, and the other way round:
the grammar's leaf is read, and up to its end, provided that what follows cannot belong to it.

* `Grammar.number_of_readNumber`, `Grammar.readNumber_eq` : numbers.
* `Grammar.readWord_iff` : words.
* `Grammar.quoted_of_readString?`, `Grammar.Quoted.readString?_eq` : strings.
* `Grammar.label_of_readName`, `Grammar.Label.readName_eq` : names of members.
-/

set_option autoImplicit false

namespace Testbench.Json.Grammar

open Text
open Cursor (Spans Avoids)

/-! ## Results of readers -/

theorem bind_eq_ok_iff {ε α β : Type} {x : Except ε α} {f : α → Except ε β} {b : β} :
    x >>= f = .ok b ↔ ∃ a, x = .ok a ∧ f a = .ok b := by
  cases x with
  | error e => simp [bind, Except.bind]
  | ok a => simp [bind, Except.bind]

theorem ok_bind {ε α β : Type} (a : α) (f : α → Except ε β) : (Except.ok a >>= f) = f a := rfl

theorem map_eq_ok_iff {ε α β : Type} {x : Except ε α} {f : α → β} {b : β} :
    x.map f = .ok b ↔ ∃ a, x = .ok a ∧ f a = b := by
  cases x <;> simp [Except.map]

/-! ## Character classes -/

theorem isDigit_iff {c : Char} : c.isDigit = true ↔ IsDigit c := by
  simp [Char.isDigit, IsDigit, Char.le_def]

theorem isHexDigit_iff {c : Char} : (hexValue? c).isSome = true ↔ IsHexDigit c := by
  unfold hexValue? IsHexDigit IsDigit
  split
  · simp_all
  · split
    · simp_all
    · split <;> simp_all

theorem isNameChar_iff {c : Char} : isNameChar c = true ↔ IsNameChar c := by
  simp only [isNameChar, Char.isAlphanum, Char.isAlpha, Char.isUpper, Char.isLower, IsNameChar,
    Bool.or_eq_true, isDigit_iff, Bool.and_eq_true, decide_eq_true_eq, beq_iff_eq, Char.le_def]
  constructor
  · rintro (((((h | h) | h) | h) | h))
    · exact .inr (.inr (.inl h))
    · exact .inr (.inl h)
    · exact .inl h
    · exact .inr (.inr (.inr (.inl h)))
    · exact .inr (.inr (.inr (.inr h)))
  · rintro (h | h | h | h | h)
    · exact .inl (.inl (.inr h))
    · exact .inl (.inl (.inl (.inr h)))
    · exact .inl (.inl (.inl (.inl h)))
    · exact .inl (.inr h)
    · exact .inr h

theorem isShortEscape_iff {mode : Mode} {c : Char} :
    Json.isShortEscape mode c = true ↔ IsShortEscape mode c := by
  cases mode <;> simp [Json.isShortEscape, IsShortEscape, Mode.isRelaxed]

/-! ## Numbers -/

/-- The characters that a number might go on with. -/
def continuesNumber (c : Char) : Bool := c.isDigit || c == '.' || c == 'e' || c == 'E'

theorem digits_of_readDigits {a b : Cursor} (h : readDigits a = .ok b) :
    ∃ s, Digits s ∧ Spans s a b := by
  simp only [readDigits] at h
  split at h
  · cases h
  · rename_i hne
    cases h
    refine ⟨(a.run Char.isDigit).1, ⟨by simpa using hne, fun c hc => ?_⟩, Cursor.spans_run _ a⟩
    exact isDigit_iff.mp (Cursor.mem_run hc)

theorem readDigits_eq {s : List Char} {a b : Cursor} (hs : Digits s) (h : Spans s a b)
    (hb : b.Avoids Char.isDigit) : readDigits a = .ok b := by
  have hrun := Cursor.run_eq (fun c hc => isDigit_iff.mpr (hs.2 c hc)) h hb
  simp only [readDigits, hrun]
  rw [if_neg (by simpa using hs.1)]

theorem whole_of_readWhole {a b : Cursor} (h : readWhole a = .ok b) :
    ∃ s, Whole s ∧ Spans s a b := by
  unfold readWhole at h
  split at h
  · rename_i after hn
    cases h
    obtain ⟨c, hc, hs⟩ := Cursor.next?_eq_some_iff.mp hn
    obtain rfl : c = '0' := by simpa using hc
    exact ⟨['0'], .zero, hs⟩
  · rename_i hn
    obtain ⟨s, ⟨hne, hd⟩, hs⟩ := digits_of_readDigits h
    cases s with
    | nil => exact absurd rfl hne
    | cons c s =>
      have h0 := Cursor.next?_eq_none_iff.mp hn c (by rw [hs.1]; rfl)
      exact ⟨c :: s, .digits (hd c List.mem_cons_self) (by simpa using h0)
        fun d hm => hd d (List.mem_cons_of_mem _ hm), hs⟩

theorem readWhole_eq {s : List Char} {a b : Cursor} (hs : Whole s) (h : Spans s a b)
    (hb : b.Avoids Char.isDigit) : readWhole a = .ok b := by
  unfold readWhole
  cases hs with
  | zero => rw [Cursor.next?_eq_some_iff.mpr ⟨'0', rfl, h⟩]
  | @digits c s hc h0 hd =>
    rw [Cursor.next?_eq_none_iff.mpr (h.avoids (by simpa using h0))]
    refine readDigits_eq ⟨by simp, fun d hm => ?_⟩ h hb
    rcases List.mem_cons.mp hm with rfl | hm
    · exact hc
    · exact hd d hm

theorem fraction_of_readFraction {a b : Cursor} (h : readFraction a = .ok b) :
    ∃ s, Fraction s ∧ Spans s a b := by
  unfold readFraction at h
  split at h
  · rename_i after hn
    obtain ⟨c, hc, hp⟩ := Cursor.next?_eq_some_iff.mp hn
    obtain rfl : c = '.' := by simpa using hc
    obtain ⟨s, hd, hs⟩ := digits_of_readDigits h
    exact ⟨'.' :: s, .digits hd, hp.trans hs⟩
  · cases h
    exact ⟨[], .none, .nil a⟩

theorem readFraction_eq {s : List Char} {a b : Cursor} (hs : Fraction s) (h : Spans s a b)
    (hb : b.Avoids fun c => c.isDigit || c == '.') : readFraction a = .ok b := by
  unfold readFraction
  cases hs with
  | none =>
    obtain rfl := h.unique (.nil a)
    rw [Cursor.next?_eq_none_iff.mpr (hb.mono fun c hc => by simp [beq_iff_eq.mp hc])]
  | @digits s hd =>
    obtain ⟨p, hp, hs⟩ := Spans.split (s := ['.']) h
    rw [Cursor.next?_eq_some_iff.mpr ⟨'.', rfl, hp⟩]
    exact readDigits_eq hd hs (hb.mono fun c hc => by simp [hc])

theorem exponent_of_readExponent {a b : Cursor} (h : readExponent a = .ok b) :
    ∃ s, Exponent s ∧ Spans s a b := by
  unfold readExponent at h
  split at h
  · rename_i after hn
    obtain ⟨e, he, hp⟩ := Cursor.next?_eq_some_iff.mp hn
    obtain ⟨s, hd, hs⟩ := digits_of_readDigits h
    have he : e ∈ ['e', 'E'] := by simpa using he
    cases hsign : after.next? fun c => c == '+' || c == '-' with
    | none =>
      rw [hsign] at hs
      exact ⟨e :: ([] ++ s), .digits he (by simp) hd, hp.trans hs⟩
    | some p =>
      rw [hsign] at hs
      obtain ⟨sign, hsg, hps⟩ := Cursor.next?_eq_some_iff.mp hsign
      have hsg : [sign] ∈ [[], ['+'], ['-']] := by simpa using hsg
      exact ⟨e :: ([sign] ++ s), .digits he hsg hd, hp.trans (hps.trans hs)⟩
  · cases h
    exact ⟨[], .none, .nil a⟩

theorem readExponent_eq {s : List Char} {a b : Cursor} (hs : Exponent s) (h : Spans s a b)
    (hb : b.Avoids continuesNumber) : readExponent a = .ok b := by
  unfold readExponent
  cases hs with
  | none =>
    obtain rfl := h.unique (.nil a)
    rw [Cursor.next?_eq_none_iff.mpr (hb.mono fun c hc => ?_)]
    rcases Bool.or_eq_true_iff.mp hc with hc | hc <;> simp [continuesNumber, beq_iff_eq.mp hc]
  | @digits e sign s he hsign hd =>
    obtain ⟨p, hp, hrest⟩ := Spans.split (s := [e]) h
    obtain ⟨q, hq, hs⟩ := Spans.split hrest
    have hb : b.Avoids Char.isDigit := hb.mono fun c hc => by simp [continuesNumber, hc]
    rw [Cursor.next?_eq_some_iff.mpr ⟨e, by simpa using he, hp⟩]
    have hnext : ((p.next? fun c => c == '+' || c == '-').getD p) = q := by
      obtain ⟨hne, hdig⟩ := hd
      simp only [List.mem_cons, List.not_mem_nil, or_false] at hsign
      rcases hsign with rfl | rfl | rfl
      · obtain rfl := hq.unique (.nil p)
        cases s with
        | nil => exact absurd rfl hne
        | cons c s =>
          have hc : (c == '+' || c == '-') = false := by
            have := isDigit_iff.mpr (hdig c List.mem_cons_self)
            rw [Bool.or_eq_false_iff]
            constructor <;> rw [beq_eq_false_iff_ne] <;> rintro rfl <;> revert this <;> decide
          rw [Cursor.next?_eq_none_iff.mpr (hs.avoids hc)]
          rfl
      · rw [Cursor.next?_eq_some_iff.mpr ⟨'+', rfl, hq⟩]
        rfl
      · rw [Cursor.next?_eq_some_iff.mpr ⟨'-', rfl, hq⟩]
        rfl
    simp only [hnext]
    exact readDigits_eq hd hs hb

theorem number_of_readNumber {a b : Cursor} {n : Node} (h : readNumber a = .ok (n, b)) :
    ∃ s, Number s ∧ Spans s a b ∧ n = .scalar .number .none (a.sliceTo b) := by
  simp only [readNumber, bind_eq_ok_iff, Except.ok.injEq, Prod.mk.injEq] at h
  obtain ⟨c, hc, e, he, f, hf, rfl, rfl⟩ := h
  obtain ⟨whole, hw, hws⟩ := whole_of_readWhole hc
  obtain ⟨fraction, hfr, hfs⟩ := fraction_of_readFraction he
  obtain ⟨exponent, hex, hes⟩ := exponent_of_readExponent hf
  have hrest := hws.trans (hfs.trans hes)
  cases hsign : a.next? (· == '-') with
  | none =>
    rw [hsign] at hrest
    have hsg : [] ∈ [[], ['-']] := by simp
    exact ⟨_, .mk hsg hw hfr hex, hrest, rfl⟩
  | some p =>
    rw [hsign] at hrest
    obtain ⟨sign, hsg, hps⟩ := Cursor.next?_eq_some_iff.mp hsign
    have hsg : [sign] ∈ [[], ['-']] := by simpa using hsg
    exact ⟨_, .mk hsg hw hfr hex, hps.trans hrest, rfl⟩

/-- The next character after the whole part of a number. -/
theorem avoids_after_whole {fraction exponent : List Char} {a b : Cursor} (hf : Fraction fraction)
    (he : Exponent exponent) (h : Spans (fraction ++ exponent) a b)
    (hb : b.Avoids continuesNumber) : a.Avoids Char.isDigit := by
  cases hf with
  | digits => exact h.avoids rfl
  | none =>
    cases he with
    | none =>
      obtain rfl := h.unique (.nil a)
      exact hb.mono fun c hc => by simp [continuesNumber, hc]
    | digits he =>
      simp only [List.mem_cons, List.not_mem_nil, or_false] at he
      rcases he with rfl | rfl <;> exact h.avoids rfl

theorem readNumber_eq {s : List Char} {a b : Cursor} (hs : Number s) (h : Spans s a b)
    (hb : b.Avoids continuesNumber) :
    readNumber a = .ok (.scalar .number .none (a.sliceTo b), b) := by
  obtain ⟨hsign, hw, hf, he⟩ := hs
  rename_i sign whole fraction exponent
  obtain ⟨p, hps, hrest⟩ := h.split
  obtain ⟨q, hqs, htail⟩ := hrest.split
  obtain ⟨r, hrs, hes⟩ := htail.split
  have hp : (a.next? (· == '-')).getD a = p := by
    simp only [List.mem_cons, List.not_mem_nil, or_false] at hsign
    rcases hsign with rfl | rfl
    · obtain rfl := hps.unique (.nil a)
      have hminus : p.Avoids (· == '-') := by
        cases hw with
        | zero => exact hqs.avoids (by decide)
        | @digits c t hc =>
          refine hqs.avoids (beq_eq_false_iff_ne.mpr ?_)
          rintro rfl
          exact absurd (isDigit_iff.mpr hc) (by decide)
      rw [Cursor.next?_eq_none_iff.mpr hminus]
      rfl
    · rw [Cursor.next?_eq_some_iff.mpr ⟨'-', rfl, hps⟩]
      rfl
  have hr : r.Avoids fun c => c.isDigit || c == '.' := by
    cases he with
    | none =>
      obtain rfl := hes.unique (.nil r)
      exact hb.mono fun c hc => by
        rcases Bool.or_eq_true_iff.mp hc with hc | hc <;> simp [continuesNumber, hc]
    | digits he =>
      simp only [List.mem_cons, List.not_mem_nil, or_false] at he
      rcases he with rfl | rfl <;> exact hes.avoids rfl
  simp only [readNumber, hp, ok_bind, readWhole_eq hw hqs (avoids_after_whole hf he htail hb),
    readFraction_eq hf hrs hr, readExponent_eq he hes hb]

/-! ## Literals -/

theorem readWord_iff {word : List Char} (hw : ∀ c ∈ word, c.utf8Size = 1) {a b : Cursor} :
    readWord word a = .ok b ↔ Spans word a b := by
  induction word generalizing a with
  | nil =>
    obtain ⟨o, r⟩ := b
    obtain ⟨o', r'⟩ := a
    simp [readWord, Spans, byteLength, eq_comm, and_comm]
  | cons w word ih =>
    have hsize := hw w List.mem_cons_self
    have ih := fun a => ih (a := a) fun c hc => hw c (List.mem_cons_of_mem _ hc)
    unfold readWord
    split
    · rename_i c rest hr
      split
      · rename_i hc
        subst hc
        have hstep : Spans [c] a ⟨a.offset + 1, rest⟩ := (Cursor.spans_ascii hsize).mpr ⟨hr, rfl⟩
        rw [ih]
        constructor
        · exact fun h => hstep.trans h
        · intro h
          obtain ⟨p, hp, hs⟩ := Spans.split (s := [c]) h
          exact hstep.unique hp ▸ hs
      · rename_i hc
        constructor
        · intro h; cases h
        · rintro ⟨h, -⟩
          rw [hr] at h
          exact absurd (List.cons.inj h).1 hc
    · rename_i hr
      constructor
      · intro h; cases h
      · rintro ⟨h, -⟩
        rw [hr] at h
        cases h

/-! ## Strings -/

/-- What the reader has passed when it stands in a state: the part of an escape before it. -/
inductive Pending : StringState → List Char → Prop where
  | plain : Pending .plain []
  | backslash : Pending .afterBackslash ['\\']
  | digits {more : Nat} {hs : List Char} :
      (∀ h ∈ hs, IsHexDigit h) → hs.length + more = 3 → Pending (.digits more) ('\\' :: 'u' :: hs)

/-- The rest of a string from `a` on: contents up to `stop` bytes, and the delimiter up to `b`. -/
def Closing (mode : Mode) (d : Delimiter) (a : Cursor) (stop : Nat) (b : Cursor) : Prop :=
  ∃ text c, Contents mode d text ∧ Spans text a c ∧ Spans (delimiterText d) c b ∧ c.offset = stop

theorem utf8Size_of_isHexDigit {c : Char} (h : IsHexDigit c) : c.utf8Size = 1 := by
  have h7 : c.val ≤ 0x7F := by
    simp only [IsHexDigit, IsDigit, Char.le_def, UInt32.le_iff_toNat_le] at h ⊢
    have h9 : ('9' : Char).val.toNat = 57 := rfl
    have hf : ('f' : Char).val.toNat = 102 := rfl
    have hF : ('F' : Char).val.toNat = 70 := rfl
    have h127 : (0x7F : UInt32).toNat = 127 := rfl
    omega
  simp [Char.utf8Size, h7]

theorem closing_of_readStringFrom {mode : Mode} {d : Delimiter} {state : StringState}
    {offset stop : Nat} {rest passed : List Char} {a b : Cursor}
    (h : readStringFrom mode d state offset rest = .ok (stop, b)) (hp : Pending state passed)
    (ha : Spans passed a ⟨offset, rest⟩) : Closing mode d a stop b := by
  fun_induction readStringFrom mode d state offset rest generalizing passed a with
  | case1 => cases h
  | case2 offset c rest hc =>
    cases hp
    cases h
    obtain rfl := ha.unique (.nil a)
    have hd : delimiterText d = [c] := by simp [delimiterText, hc]
    exact ⟨[], _, .nil, .nil _, hd ▸ ⟨rfl, rfl⟩, rfl⟩
  | case3 offset rest hc ih =>
    cases hp
    exact ih h .backslash (ha.trans (s := []) ⟨rfl, rfl⟩)
  | case4 => cases h
  | case5 offset c rest hq hb h20 ih =>
    cases hp
    have hstep : Spans [c] a ⟨offset + c.utf8Size, rest⟩ := ha.trans (s := []) ⟨rfl, rfl⟩
    obtain ⟨text, e, ht, hs, hd, he⟩ := ih h .plain (.nil _)
    refine ⟨c :: text, e, .plain (by omega) hb (fun hesc hquote => hq ⟨hquote, hesc⟩) ht,
      hstep.trans hs, hd, he⟩
  | case6 offset c rest hc =>
    cases hp
    cases h
    have ho : offset = a.offset + 1 := ha.2
    refine ⟨[], a, .nil, .nil a, ?_, by omega⟩
    have hlast : Spans [c] ⟨offset, c :: rest⟩ ⟨offset + c.utf8Size, rest⟩ := ⟨rfl, rfl⟩
    have hd : delimiterText d = ['\\'] ++ [c] := by simp [delimiterText, hc]
    exact hd ▸ ha.trans hlast
  | case7 offset c rest hq hc ih =>
    cases hp
    have hlast : Spans [c] ⟨offset, c :: rest⟩ ⟨offset + c.utf8Size, rest⟩ := ⟨rfl, rfl⟩
    obtain ⟨text, e, ht, hs, hd, he⟩ := ih h .plain (.nil _)
    exact ⟨'\\' :: c :: text, e,
      .short (isShortEscape_iff.mp hc) (fun hesc hquote => hq ⟨hquote, hesc⟩) ht,
      (ha.trans hlast).trans hs, hd, he⟩
  | case8 offset rest hq hc ih =>
    cases hp
    have hlast : Spans ['u'] ⟨offset, 'u' :: rest⟩ ⟨offset + 1, rest⟩ := ⟨rfl, rfl⟩
    have hnone : ∀ h ∈ ([] : List Char), IsHexDigit h := fun h hm => nomatch hm
    exact ih h (.digits hnone rfl) (ha.trans hlast)
  | case9 => cases h
  | case10 offset c rest hc ih =>
    cases hp with
    | @digits _ hs hhex hlen =>
      have hc := isHexDigit_iff.mp hc
      match hs with
      | [h₁, h₂, h₃] =>
        have hlast : Spans [c] ⟨offset, c :: rest⟩ ⟨offset + 1, rest⟩ :=
          ⟨rfl, by simp [byteLength, utf8Size_of_isHexDigit hc]⟩
        obtain ⟨text, e, ht, hs, hd, he⟩ := ih h .plain (.nil _)
        exact ⟨'\\' :: 'u' :: h₁ :: h₂ :: h₃ :: c :: text, e,
          .unicode (hhex h₁ (by simp)) (hhex h₂ (by simp)) (hhex h₃ (by simp)) hc ht,
          (ha.trans hlast).trans hs, hd, he⟩
  | case11 offset c rest hc more ih =>
    cases hp with
    | @digits _ hs hhex hlen =>
      have hc := isHexDigit_iff.mp hc
      have hlast : Spans [c] ⟨offset, c :: rest⟩ ⟨offset + 1, rest⟩ :=
        ⟨rfl, by simp [byteLength, utf8Size_of_isHexDigit hc]⟩
      have hhex : ∀ h ∈ hs ++ [c], IsHexDigit h := by
        intro x hx
        rcases List.mem_append.mp hx with hx | hx
        · exact hhex x hx
        · exact List.mem_singleton.mp hx ▸ hc
      exact ih h (.digits hhex (by simp; omega)) (ha.trans hlast)
  | case12 => cases h

/-- A backslash is passed, whether it begins an escape or the closing delimiter. -/
theorem readStringFrom_backslash {mode : Mode} {d : Delimiter} (hd : d.quote ≠ '\\') {a b : Cursor}
    (h : Spans ['\\'] a b) :
    readStringFrom mode d .plain a.offset a.rest =
      readStringFrom mode d .afterBackslash b.offset b.rest := by
  obtain ⟨h₁, h₂⟩ := (Cursor.spans_ascii rfl).mp h
  rw [h₁, h₂, readStringFrom, if_neg (fun hq => hd hq.1.symm), if_pos rfl]

theorem readStringFrom_digit {mode : Mode} {d : Delimiter} {more : Nat} {x : Char}
    (hx : IsHexDigit x) {a b : Cursor} (h : Spans [x] a b) :
    readStringFrom mode d (.digits (more + 1)) a.offset a.rest =
      readStringFrom mode d (.digits more) b.offset b.rest := by
  obtain ⟨h₁, h₂⟩ := (Cursor.spans_ascii (utf8Size_of_isHexDigit hx)).mp h
  rw [h₁, h₂, readStringFrom, if_pos (isHexDigit_iff.mpr hx)]

theorem readStringFrom_eq {mode : Mode} {d : Delimiter} (hd : d.quote ∈ ['\"', '\''])
    {text : List Char} (ht : Contents mode d text) {a b c : Cursor} (hs : Spans text a b)
    (hc : Spans (delimiterText d) b c) :
    readStringFrom mode d .plain a.offset a.rest = .ok (b.offset, c) := by
  have hb : d.quote ≠ '\\' := by rintro h; rw [h] at hd; revert hd; decide
  induction ht generalizing a with
  | nil =>
    obtain rfl := hs.unique (.nil a)
    unfold delimiterText at hc
    split at hc
    · rename_i he
      obtain ⟨p, hp, hq⟩ := Spans.split (s := ['\\']) hc
      obtain ⟨hr, ho⟩ := Cursor.spans_singleton.mp hq
      have hpo : p.offset = b.offset + 1 := ((Cursor.spans_ascii rfl).mp hp).2
      rw [readStringFrom_backslash hb hp, hr, readStringFrom, if_pos ⟨rfl, he⟩, ← ho, hpo]
      rfl
    · rename_i he
      obtain ⟨hr, ho⟩ := Cursor.spans_singleton.mp hc
      rw [hr, readStringFrom, if_pos ⟨rfl, by simpa using he⟩, ← ho]
  | @plain x s h20 hx hq _ ih =>
    obtain ⟨p, hp, hs⟩ := Spans.split (s := [x]) hs
    obtain ⟨hr, ho⟩ := Cursor.spans_singleton.mp hp
    rw [hr, readStringFrom, if_neg (fun h => hq h.2 h.1), if_neg hx, if_neg (by omega), ← ho]
    exact ih hs
  | @short x s hx hq _ ih =>
    obtain ⟨p, hp, hs⟩ := Spans.split (s := ['\\']) hs
    obtain ⟨q, hpq, hs⟩ := Spans.split (s := [x]) hs
    obtain ⟨hr, ho⟩ := Cursor.spans_singleton.mp hpq
    rw [readStringFrom_backslash hb hp, hr, readStringFrom, if_neg (fun h => hq h.2 h.1),
      if_pos (isShortEscape_iff.mpr hx), ← ho]
    exact ih hs
  | @unicode h₁ h₂ h₃ h₄ s hh₁ hh₂ hh₃ hh₄ _ ih =>
    obtain ⟨p, hp, hs⟩ := Spans.split (s := ['\\']) hs
    obtain ⟨q, hpq, hs⟩ := Spans.split (s := ['u']) hs
    obtain ⟨p₁, hp₁, hs⟩ := Spans.split (s := [h₁]) hs
    obtain ⟨p₂, hp₂, hs⟩ := Spans.split (s := [h₂]) hs
    obtain ⟨p₃, hp₃, hs⟩ := Spans.split (s := [h₃]) hs
    obtain ⟨p₄, hp₄, hs⟩ := Spans.split (s := [h₄]) hs
    obtain ⟨hr, ho⟩ := (Cursor.spans_ascii rfl).mp hpq
    obtain ⟨hr₄, ho₄⟩ := (Cursor.spans_ascii (utf8Size_of_isHexDigit hh₄)).mp hp₄
    have hu : ¬('u' = d.quote ∧ d.escaped = true) := by
      rintro ⟨hu, -⟩
      rw [← hu] at hd
      revert hd
      decide
    have hshort : Json.isShortEscape mode 'u' = false := by cases mode <;> rfl
    rw [readStringFrom_backslash hb hp, hr, readStringFrom, if_neg hu, if_neg (by simp [hshort]),
      if_pos rfl, ← ho, readStringFrom_digit hh₁ hp₁, readStringFrom_digit hh₂ hp₂,
      readStringFrom_digit hh₃ hp₃, hr₄, readStringFrom, if_pos (isHexDigit_iff.mpr hh₄), ← ho₄]
    exact ih hs

theorem Delimits.quote_mem {mode : Mode} {quote : Quote} {d : Delimiter}
    (h : Delimits mode quote d) : d.quote ∈ ['\"', '\''] := by
  cases h with
  | double => simp
  | single => simp
  | backslash hq => exact hq

theorem quoted_of_readStringAfter {mode : Mode} {d : Delimiter} {quote quote' : Quote} {offset : Nat}
    {rest : List Char} {a b : Cursor} {slice : Slice} (hd : Delimits mode quote d)
    (ha : Spans (delimiterText d) a ⟨offset, rest⟩)
    (h : readStringAfter mode d quote offset rest = .ok ((slice, quote'), b)) :
    Quoted mode a b slice quote' := by
  simp only [readStringAfter, bind_eq_ok_iff, Except.ok.injEq, Prod.mk.injEq] at h
  obtain ⟨⟨stop, e⟩, hread, ⟨rfl, rfl⟩, rfl⟩ := h
  obtain ⟨text, c, ht, hs, hc, rfl⟩ := closing_of_readStringFrom hread .plain (.nil _)
  exact .mk hd ha ht hs hc

theorem quoted_of_readString? {mode : Mode} {a b : Cursor} {slice : Slice} {quote : Quote}
    (h : readString? mode a = some (.ok ((slice, quote), b))) : Quoted mode a b slice quote := by
  unfold readString? at h
  split at h
  · rename_i rest hr
    exact quoted_of_readStringAfter .double ⟨hr, rfl⟩ (Option.some.inj h)
  · rename_i rest hr
    exact quoted_of_readStringAfter .single ⟨hr, rfl⟩ (Option.some.inj h)
  · rename_i rest hr
    exact quoted_of_readStringAfter (.backslash List.mem_cons_self) ⟨hr, rfl⟩ (Option.some.inj h)
  · rename_i rest hr
    have hq : '\'' ∈ ['\"', '\''] := List.mem_cons_of_mem _ List.mem_cons_self
    exact quoted_of_readStringAfter (.backslash hq) ⟨hr, rfl⟩ (Option.some.inj h)
  · cases h

theorem Quoted.readString?_eq {mode : Mode} {a b : Cursor} {slice : Slice} {quote : Quote}
    (h : Quoted mode a b slice quote) : readString? mode a = some (.ok ((slice, quote), b)) := by
  obtain ⟨hd, ha, ht, hs, hc⟩ := h
  rename_i p c d text
  have hread := readStringFrom_eq hd.quote_mem ht hs hc
  have hafter : readStringAfter mode d quote p.offset p.rest = .ok ((p.sliceTo c, quote), b) := by
    rw [readStringAfter, hread]
    rfl
  obtain ⟨hr, ho⟩ := ha
  cases hd with
  | double =>
    have ho : p.offset = a.offset + 1 := ho
    have hr : a.rest = '\"' :: p.rest := hr
    simp only [readString?, hr, ← ho, hafter]
  | single =>
    have ho : p.offset = a.offset + 1 := ho
    have hr : a.rest = '\'' :: p.rest := hr
    simp only [readString?, hr, ← ho, hafter]
  | @backslash q hq =>
    simp only [List.mem_cons, List.not_mem_nil, or_false] at hq
    rcases hq with rfl | rfl
    · have ho : p.offset = a.offset + 2 := ho
      have hr : a.rest = '\\' :: '\"' :: p.rest := hr
      simp only [readString?, hr, ← ho, hafter]
    · have ho : p.offset = a.offset + 2 := ho
      have hr : a.rest = '\\' :: '\'' :: p.rest := hr
      simp only [readString?, hr, ← ho, hafter]

/-- The characters that a string opens with. -/
def opensString (c : Char) : Bool := c == '\"' || c == '\'' || c == '\\'

theorem readString?_eq_none {mode : Mode} {a : Cursor} (ha : a.Avoids opensString) :
    readString? mode a = none := by
  unfold readString?
  split
  · rename_i hr; exact absurd hr (ha.rest_ne rfl _)
  · rename_i hr; exact absurd hr (ha.rest_ne rfl _)
  · rename_i hr; exact absurd hr (ha.rest_ne rfl _)
  · rename_i hr; exact absurd hr (ha.rest_ne rfl _)
  · rfl

/-! ## Names -/

theorem label_of_readName {mode : Mode} {a b : Cursor} {name : Name}
    (h : readName mode a = .ok (name, b)) : Label mode a b name := by
  unfold readName at h
  split at h
  · rename_i reading hreading
    obtain ⟨⟨⟨slice, quote⟩, e⟩, rfl, heq⟩ := map_eq_ok_iff.mp h
    cases heq
    exact .quoted (quoted_of_readString? hreading)
  · simp only at h
    split at h
    · rename_i hbare
      cases h
      cases mode with
      | strict => cases hbare
      | relaxed =>
        have hne : (a.run isNameChar).1 ≠ [] := by simpa [Mode.isRelaxed] using hbare
        have hchars : ∀ c ∈ (a.run isNameChar).1, IsNameChar c :=
          fun c hc => isNameChar_iff.mp (Cursor.mem_run hc)
        exact .bare hne hchars (Cursor.spans_run isNameChar a)
    · cases h

theorem Label.readName_eq {mode : Mode} {a b : Cursor} {name : Name} (h : Label mode a b name)
    (hb : b.Avoids isNameChar) : readName mode a = .ok (name, b) := by
  cases h with
  | quoted hq =>
    simp only [readName, hq.readString?_eq, Except.map]
  | @bare _ _ s hne hs ha =>
    have hrun := Cursor.run_eq (fun c hc => isNameChar_iff.mpr (hs c hc)) ha hb
    have hstart : a.Avoids opensString := by
      intro c hc
      have hmem : c ∈ s := by
        cases s with
        | nil => exact absurd rfl hne
        | cons d s =>
          rw [ha.1] at hc
          cases hc
          exact List.mem_cons_self
      have hname := isNameChar_iff.mpr (hs c hmem)
      cases hopen : opensString c with
      | false => rfl
      | true =>
        simp only [opensString, Bool.or_eq_true, beq_iff_eq] at hopen
        rcases hopen with (rfl | rfl) | rfl <;> cases hname
    have hne : s.isEmpty = false := by simpa using hne
    simp only [readName, readString?_eq_none hstart, hrun, Mode.isRelaxed, hne, Bool.not_false,
      Bool.and_self, if_true]

end Testbench.Json.Grammar
