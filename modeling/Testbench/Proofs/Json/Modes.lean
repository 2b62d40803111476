import Testbench.Proofs.Json.Building

/-!
# Strict texts in relaxed mode

The relaxed grammar only adds to the strict one, and what it adds begins with characters at which no
strict text goes on. So a strict text keeps its tree in relaxed mode, down to the places of all its
parts.

* `Grammar.Contents.of_strict`, `Grammar.Quoted.of_strict`, `Grammar.Label.of_strict`,
  `Grammar.Value.of_strict` : what has a strict derivation has the same one in every mode.
* `read_of_strict`, `Arena.read_of_strict` : so it is read to the same tree and to the same arena.
* `Document.relaxed_of_strict` : so it has the same answers in both modes.
-/

set_option autoImplicit false

namespace Testbench.Json

namespace Grammar

variable {mode : Mode}

/-! ## Strings and names -/

theorem IsShortEscape.of_strict {c : Char} (h : IsShortEscape .strict c) :
    IsShortEscape mode c := by
  rcases h with h | ⟨hm, -⟩
  · exact .inl h
  · cases hm

theorem Contents.of_strict {d : Delimiter} {s : List Char} (h : Contents .strict d s) :
    Contents mode d s := by
  induction h with
  | nil => exact .nil
  | plain h20 hb hq _ ih => exact .plain h20 hb hq ih
  | short he hq _ ih => exact .short he.of_strict hq ih
  | unicode h₁ h₂ h₃ h₄ _ ih => exact .unicode h₁ h₂ h₃ h₄ ih

theorem Quoted.of_strict {a b : Cursor} {slice : Slice} {quote : Quote}
    (h : Quoted .strict a b slice quote) : Quoted mode a b slice quote := by
  obtain ⟨hd, hopen, hc, hs, hclose⟩ := h
  -- the other delimiters belong to the relaxed mode
  cases hd with
  | double => exact .mk .double hopen hc.of_strict hs hclose

theorem Label.of_strict {a b : Cursor} {name : Name} (h : Label .strict a b name) :
    Label mode a b name := by
  cases h with
  | quoted hq => exact .quoted hq.of_strict

/-! ## Values -/

mutual

/-- A strict value is a value of every mode, with the same tree. -/
theorem Value.of_strict {room : Nat} {a b : Cursor} {node : Node} :
    Value .strict room a b node → Value mode room a b node
  | .string hq => .string hq.of_strict
  | .number hn hs => .number hn hs
  | .boolean hw hs => .boolean hw hs
  | .null hs => .null hs
  | .emptyObject ha hg hb => .emptyObject ha hg hb
  | .object ha hms hb => .object ha hms.of_strict hb
  | .emptyArray ha hg hb => .emptyArray ha hg hb
  | .array ha hes hb => .array ha hes.of_strict hb

theorem Member.of_strict {room : Nat} {a b : Cursor} {member : Name × Node} :
    Member .strict room a b member → Member mode room a b member
  | .mk ha hl hc hs hf hv hh => .mk ha hl.of_strict hc hs hf hv.of_strict hh

theorem Members.of_strict {room : Nat} {a b : Cursor} {members : List (Name × Node)} :
    Members .strict room a b members → Members mode room a b members
  | .last hm => .last hm.of_strict
  | .more hm hc hms => .more hm.of_strict hc hms.of_strict

theorem Element.of_strict {room : Nat} {a b : Cursor} {node : Node} :
    Element .strict room a b node → Element mode room a b node
  | .mk ha hv hc => .mk ha hv.of_strict hc

theorem Elements.of_strict {room : Nat} {a b : Cursor} {elements : List Node} :
    Elements .strict room a b elements → Elements mode room a b elements
  | .last he => .last he.of_strict
  | .more he hc hes => .more he.of_strict hc hes.of_strict

end

theorem Document.of_strict {source : List Char} {root : Node} (h : Document .strict source root) :
    Document mode source root := by
  obtain ⟨a, b, e, ha, hv, hb, he⟩ := h
  exact ⟨a, b, e, ha, hv.of_strict, hb, he⟩

end Grammar

/-! ## Whole texts -/

variable {source : List Char}

theorem read_of_strict {root : Node} (h : read .strict source = .ok root) (mode : Mode) :
    read mode source = .ok root := by
  rw [Grammar.read_eq_ok_iff] at h ⊢
  exact h.of_strict

/-- A strict text has the same arena in every mode. -/
theorem Arena.read_of_strict {root : Node} (h : Json.read .strict source = .ok root) (mode : Mode) :
    Arena.read mode source = .ok root.arena := by
  rw [Arena.read_eq, Json.read_of_strict h mode]
  rfl

namespace Document

/-- **The relaxed mode is a conservative extension of the strict one.** A text that can be parsed in
strict mode can be parsed in relaxed mode, to the same tree and to the same arena, with the same
numbers, kinds, places, quotes, names and children. So every question has the same answer. -/
theorem relaxed_of_strict {source : String} {d : Document} (h : parse .strict source = .ok d) :
    ∃ (d' : Document) (arena : Arena), parse .relaxed source = .ok d' ∧
      d'.source = d.source ∧ d'.root = d.root ∧
      Arena.read .strict source.toList = .ok arena ∧
      Arena.read .relaxed source.toList = .ok arena ∧
      (∀ path, d'.get? path = d.get? path) ∧
      (∀ spec start count, d'.findKey? spec start count = d.findKey? spec start count) ∧
      (∀ o, d'.dump o = d.dump o) ∧
      ∀ tag, d'.toXml tag = d.toXml tag := by
  obtain ⟨root, hroot, rfl⟩ := Grammar.map_eq_ok_iff.mp h
  refine ⟨⟨.relaxed, source, root⟩, root.arena, ?_, rfl, rfl, Arena.read_of_strict hroot .strict,
    Arena.read_of_strict hroot .relaxed, fun _ => rfl, fun _ _ _ => rfl, fun _ => rfl, fun _ => rfl⟩
  rw [parse, read_of_strict hroot .relaxed]
  rfl

/-- Apostrophes and backslashes in strict names and strings. -/
theorem relaxed_of_strict_apostrophe :
    ∃ d d', parse .strict "\x7b\"it's\": [\"\\\\'\", \"\\\"\"], \"$a\": null\x7d" = .ok d ∧
      parse .relaxed "\x7b\"it's\": [\"\\\\'\", \"\\\"\"], \"$a\": null\x7d" = .ok d' ∧
      d'.root = d.root ∧ d'.get? "it's[0]" = some "\\'" := by
  have hget : (parse .strict "\x7b\"it's\": [\"\\\\'\", \"\\\"\"], \"$a\": null\x7d").toOption.map
      (fun d => d.get? "it's[0]") = some (some "\\'") := by decide +kernel
  cases h : parse .strict "\x7b\"it's\": [\"\\\\'\", \"\\\"\"], \"$a\": null\x7d" with
  | error e =>
    rw [h] at hget
    cases hget
  | ok d =>
    obtain ⟨d', arena, hrelaxed, -, hroot, -, -, hanswer, -⟩ := relaxed_of_strict h
    rw [h] at hget
    exact ⟨d, d', rfl, hrelaxed, hroot, (hanswer _).trans (Option.some.inj hget)⟩

end Document

end Testbench.Json
