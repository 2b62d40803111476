import Testbench.Proofs.Json.Token
import Testbench.Json.Printer

/-!
# The spelling of strings

* `escapeChar_cases` : the three kinds of spellings of a character.
* `unescape_escape` : the spelling of a text stands for that text.
* `Grammar.contents_escape` : it may stand between double quotes, in either mode.
* `Grammar.quoted_spell` : so that it is read as a string, and as the text that was spelt.
-/

set_option autoImplicit false

namespace Testbench.Json

open Text

/-! ## What a spelling is -/

/-- The characters that the spelling of a character writes after a backslash, `u` apart. -/
def shortSpellings : List Char := ['\"', '\\', 'n', 'r', 't', 'b', 'f']

/-- The spelling of a character: an escape of one character, one of four digits, or itself. -/
theorem escapeChar_cases (c : Char) :
    (∃ x ∈ shortSpellings, escapeChar c = ['\\', x] ∧ shortEscape x = c) ∨
    (c.toNat < 0x20 ∧
      escapeChar c = ['\\', 'u', '0', '0', hexDigit (c.toNat / 16), hexDigit c.toNat]) ∨
    (0x20 ≤ c.toNat ∧ c ≠ '\\' ∧ c ≠ '\"' ∧ escapeChar c = [c]) := by
  unfold escapeChar
  split
  · rename_i hc; exact .inl ⟨'\"', by decide, rfl, hc.symm⟩
  split
  · rename_i hc; exact .inl ⟨'\\', by decide, rfl, hc.symm⟩
  split
  · rename_i hc; exact .inl ⟨'n', by decide, rfl, hc.symm⟩
  split
  · rename_i hc; exact .inl ⟨'r', by decide, rfl, hc.symm⟩
  split
  · rename_i hc; exact .inl ⟨'t', by decide, rfl, hc.symm⟩
  split
  · rename_i hc; exact .inl ⟨'b', by decide, rfl, hc.symm⟩
  split
  · rename_i hc; exact .inl ⟨'f', by decide, rfl, hc.symm⟩
  split
  · rename_i hc; exact .inr (.inl ⟨hc, rfl⟩)
  · rename_i hq hb _ _ _ _ _ hc
    exact .inr (.inr ⟨by omega, hb, hq, rfl⟩)

/-! ## What a spelling stands for -/

theorem unescapeFrom_cons {c : Char} (hc : c ≠ '\\') (s : List Char) :
    unescapeFrom 0 (c :: s) = c :: unescapeFrom 0 s := by
  rw [unescapeFrom.eq_def]
  split <;> simp_all

theorem readNat?_hexDigit :
    ∀ n < 32, readNat? 16 ['0', '0', hexDigit (n / 16), hexDigit n] = some n := by
  decide

/-- A code unit that is a character by itself. -/
theorem unicodeEscape_of_char {c : Char} {s : List Char} (h : codeUnit? s = some c.toNat) :
    unicodeEscape s = (c, 4) := by
  have hvalid : c.toNat < 0xD800 ∨ 0xDFFF < c.toNat ∧ c.toNat < 0x110000 := c.valid
  have hhigh : isHighSurrogate c.toNat = false := by
    simp only [isHighSurrogate, Bool.and_eq_false_iff, decide_eq_false_iff_not]
    omega
  have hlow : isLowSurrogate c.toNat = false := by
    simp only [isLowSurrogate, Bool.and_eq_false_iff, decide_eq_false_iff_not]
    omega
  simp only [unicodeEscape, h, hhigh, hlow, Bool.false_eq_true, if_false, Char.ofNat_toNat]

theorem unescapeFrom_escapeChar (c : Char) (s : List Char) :
    unescapeFrom 0 (escapeChar c ++ s) = c :: unescapeFrom 0 s := by
  obtain ⟨x, hx, he, hc⟩ | ⟨hc, he⟩ | ⟨-, hb, -, he⟩ := escapeChar_cases c
  · have hu : x ≠ 'u' := by rintro rfl; exact absurd hx (by decide)
    rw [he, List.cons_append, List.cons_append, List.nil_append, unescapeFrom, if_neg hu, hc]
  · have hread := readNat?_hexDigit c.toNat hc
    have hunit : unicodeEscape ('0' :: '0' :: hexDigit (c.toNat / 16) :: hexDigit c.toNat :: s) =
        (c, 4) := unicodeEscape_of_char hread
    simp only [he, List.cons_append, List.nil_append, unescapeFrom, if_true, hunit]
  · rw [he]
    exact unescapeFrom_cons hb s

theorem unescape_escape (s : List Char) : unescape (escape s) = s := by
  induction s with
  | nil => rfl
  | cons c s ih =>
    rw [escape_cons, unescape, unescapeFrom_escapeChar]
    exact congrArg (c :: ·) ih

namespace Grammar

open Cursor (Spans)

/-! ## How a spelling is read -/

theorem isHexDigit_hexDigit (n : Nat) : IsHexDigit (hexDigit n) := by
  have h : ∀ n < 16, (hexValue? (Nat.digitChar n)).isSome = true := by decide
  exact isHexDigit_iff.mp (h (n % 16) (Nat.mod_lt n (by decide)))

theorem contents_escapeChar {mode : Mode} {c : Char} {s : List Char}
    (h : Contents mode ⟨'\"', false⟩ s) :
    Contents mode ⟨'\"', false⟩ (escapeChar c ++ s) := by
  obtain ⟨x, hx, he, -⟩ | ⟨-, he⟩ | ⟨h20, hb, hq, he⟩ := escapeChar_cases c
  · have hshort : x ∈ ['\"', '\\', '/', 'b', 'f', 'n', 'r', 't'] := by
      simp only [shortSpellings, List.mem_cons, List.not_mem_nil, or_false] at hx
      rcases hx with rfl | rfl | rfl | rfl | rfl | rfl | rfl <;> decide
    rw [he]
    exact .short (.inl hshort) (fun hesc => nomatch hesc) h
  · have h0 : IsHexDigit '0' := isHexDigit_iff.mp rfl
    rw [he]
    exact .unicode h0 h0 (isHexDigit_hexDigit _) (isHexDigit_hexDigit _) h
  · rw [he]
    exact .plain h20 hb (fun _ => hq) h

theorem contents_escape (mode : Mode) (s : List Char) :
    Contents mode ⟨'\"', false⟩ (escape s) := by
  induction s with
  | nil => exact .nil
  | cons c s ih => exact contents_escapeChar ih

theorem quoted_spell {mode : Mode} {s : List Char} {a b : Cursor} (h : Spans (spell s) a b) :
    ∃ slice, Quoted mode a b slice .double ∧ unescape slice.text = s := by
  obtain ⟨p, hp, h⟩ := Spans.split (s := ['\"']) h
  obtain ⟨q, hs, hq⟩ := Spans.split h
  refine ⟨p.sliceTo q, .mk .double hp (contents_escape mode s) hs hq, ?_⟩
  rw [hs.text_sliceTo, unescape_escape]

end Grammar

end Testbench.Json
