import Testbench.Proofs.Json.Token

/-!
# What is read is derived

* `Grammar.value_of_readScalar` : scalars.
* `Grammar.members_of_readMembers`, `Grammar.elements_of_readElements` : what stands in containers.
* `Grammar.value_of_readValue` : values, with the trees that were built.
-/

set_option autoImplicit false

namespace Testbench.Json.Grammar

open Text
open Cursor (Spans Avoids)

variable {mode : Mode} {limit room : Nat} {a b : Cursor} {node : Node}

/-! ## Scalars -/

/-- The words that are scalars, and their kinds. -/
def literals : List (List Char × ScalarKind) :=
  [(['t', 'r', 'u', 'e'], .boolean), (['f', 'a', 'l', 's', 'e'], .boolean),
    (['n', 'u', 'l', 'l'], .null)]

theorem utf8Size_of_mem_literals {kind : ScalarKind} {word : List Char}
    (hword : (word, kind) ∈ literals) : ∀ c ∈ word, c.utf8Size = 1 := by
  have hall : (literals.all fun w => w.1.all fun c => c.utf8Size == 1) = true := rfl
  intro c hc
  exact beq_iff_eq.mp (List.all_eq_true.mp (List.all_eq_true.mp hall _ hword) c hc)

theorem readLiteral_iff {kind : ScalarKind} {word : List Char} (hword : (word, kind) ∈ literals) :
    readLiteral kind word a = .ok (node, b) ↔
      Spans word a b ∧ node = .scalar kind .none (a.sliceTo b) := by
  rw [readLiteral, map_eq_ok_iff, ← readWord_iff (utf8Size_of_mem_literals hword)]
  constructor
  · rintro ⟨c, hc, heq⟩
    cases heq
    exact ⟨hc, rfl⟩
  · rintro ⟨hc, rfl⟩
    exact ⟨b, hc, rfl⟩

theorem value_of_readScalar (h : readScalar mode a = .ok (node, b)) :
    Value mode room a b node := by
  unfold readScalar at h
  split at h
  · rename_i reading hreading
    obtain ⟨⟨⟨slice, quote⟩, c⟩, rfl, heq⟩ := map_eq_ok_iff.mp h
    cases heq
    exact .string (quoted_of_readString? hreading)
  · split at h
    · obtain ⟨hs, rfl⟩ := (readLiteral_iff (by decide)).mp h
      exact .boolean (by simp) hs
    · obtain ⟨hs, rfl⟩ := (readLiteral_iff (by decide)).mp h
      exact .boolean (by simp) hs
    · obtain ⟨hs, rfl⟩ := (readLiteral_iff (by decide)).mp h
      exact .null hs
    · split at h
      · obtain ⟨s, hn, hs, rfl⟩ := number_of_readNumber h
        exact .number hn hs
      · cases h
    · cases h

/-! ## Containers -/

theorem member_of_readMember {value : Reader Node} {member : Name × Node}
    (hvalue : ∀ {a b node}, value a = .ok (node, b) → Value mode room a b node)
    (h : readMember mode value a = .ok (member, b)) : Member mode room a b.skipSpace member := by
  rw [readMember, bind_eq_ok_iff] at h
  obtain ⟨⟨name, c⟩, hname, h⟩ := h
  simp only at h
  split at h
  · rename_i rest hr
    obtain ⟨⟨node, e⟩, hnode, heq⟩ := bind_eq_ok_iff.mp h
    cases heq
    exact .mk (gap_skipSpace a) (label_of_readName hname) (gap_skipSpace c)
      ((Cursor.spans_ascii rfl).mpr ⟨hr, rfl⟩) (gap_skipSpace _) (hvalue hnode) (gap_skipSpace _)
  · cases h

theorem members_of_readMembers {value : Reader Node} {members : List (Name × Node)} {fuel : Nat}
    (hvalue : ∀ {a b node}, value a = .ok (node, b) → Value mode room a b node)
    (h : readMembers mode value fuel a = .ok (members, b)) :
    ∃ c, Members mode room a c members ∧ Spans ['\x7d'] c b := by
  induction fuel generalizing a members with
  | zero => cases h
  | succ fuel ih =>
    rw [readMembers, bind_eq_ok_iff] at h
    obtain ⟨⟨member, c⟩, hmember, h⟩ := h
    have hmember := member_of_readMember hvalue hmember
    simp only at h
    split at h
    · rename_i rest hr
      obtain ⟨⟨members, e⟩, hmembers, heq⟩ := bind_eq_ok_iff.mp h
      cases heq
      obtain ⟨f, hmembers, hf⟩ := ih hmembers
      exact ⟨f, .more hmember ((Cursor.spans_ascii rfl).mpr ⟨hr, rfl⟩) hmembers, hf⟩
    · rename_i rest hr
      cases h
      exact ⟨c.skipSpace, .last hmember, (Cursor.spans_ascii rfl).mpr ⟨hr, rfl⟩⟩
    · cases h

theorem elements_of_readElements {value : Reader Node} {elements : List Node} {fuel : Nat}
    (hvalue : ∀ {a b node}, value a = .ok (node, b) → Value mode room a b node)
    (h : readElements value fuel a = .ok (elements, b)) :
    ∃ c, Elements mode room a c elements ∧ Spans [']'] c b := by
  induction fuel generalizing a elements with
  | zero => cases h
  | succ fuel ih =>
    rw [readElements, bind_eq_ok_iff] at h
    obtain ⟨⟨element, c⟩, helement, h⟩ := h
    have helement : Element mode room a c.skipSpace element :=
      .mk (gap_skipSpace a) (hvalue helement) (gap_skipSpace c)
    simp only at h
    split at h
    · rename_i rest hr
      obtain ⟨⟨elements, e⟩, helements, heq⟩ := bind_eq_ok_iff.mp h
      cases heq
      obtain ⟨f, helements, hf⟩ := ih helements
      exact ⟨f, .more helement ((Cursor.spans_ascii rfl).mpr ⟨hr, rfl⟩) helements, hf⟩
    · rename_i rest hr
      cases h
      exact ⟨c.skipSpace, .last helement, (Cursor.spans_ascii rfl).mpr ⟨hr, rfl⟩⟩
    · cases h

/-- White space before the first member makes no difference to what is read. -/
theorem readMembers_skipSpace {value : Reader Node} {fuel : Nat}
    {r : List (Name × Node) × Cursor} :
    readMembers mode value fuel a.skipSpace = .ok r ↔ readMembers mode value fuel a = .ok r := by
  cases fuel with
  | zero => constructor <;> intro h <;> cases h
  | succ fuel => simp only [readMembers, readMember, skipSpace_skipSpace]

/-- White space before the first element makes no difference to what is read. -/
theorem readElements_skipSpace {value : Reader Node} {fuel : Nat} {r : List Node × Cursor} :
    readElements value fuel a.skipSpace = .ok r ↔ readElements value fuel a = .ok r := by
  cases fuel with
  | zero => constructor <;> intro h <;> cases h
  | succ fuel => simp only [readElements, skipSpace_skipSpace]

theorem value_of_readObject {value : Reader Node} {rest : List Char}
    (hvalue : ∀ {a b node}, value a = .ok (node, b) → Value mode room a b node)
    (hr : a.rest = '\x7b' :: rest) (h : readObject mode limit value a rest = .ok (node, b)) :
    Value mode (room + 1) a b node := by
  have hopen : Spans ['\x7b'] a ⟨a.offset + 1, rest⟩ := (Cursor.spans_ascii rfl).mpr ⟨hr, rfl⟩
  unfold readObject at h
  simp only at h
  split at h
  · rename_i rest' hr'
    cases h
    exact .emptyObject hopen (gap_skipSpace _) ((Cursor.spans_ascii rfl).mpr ⟨hr', rfl⟩)
  · obtain ⟨⟨members, c⟩, hmembers, heq⟩ := bind_eq_ok_iff.mp h
    cases heq
    obtain ⟨e, hmembers, he⟩ := members_of_readMembers hvalue (readMembers_skipSpace.mp hmembers)
    exact .object hopen hmembers he

theorem value_of_readArray {value : Reader Node} {rest : List Char}
    (hvalue : ∀ {a b node}, value a = .ok (node, b) → Value mode room a b node)
    (hr : a.rest = '[' :: rest) (h : readArray limit value a rest = .ok (node, b)) :
    Value mode (room + 1) a b node := by
  have hopen : Spans ['['] a ⟨a.offset + 1, rest⟩ := (Cursor.spans_ascii rfl).mpr ⟨hr, rfl⟩
  unfold readArray at h
  simp only at h
  split at h
  · rename_i rest' hr'
    cases h
    exact .emptyArray hopen (gap_skipSpace _) ((Cursor.spans_ascii rfl).mpr ⟨hr', rfl⟩)
  · obtain ⟨⟨elements, c⟩, helements, heq⟩ := bind_eq_ok_iff.mp h
    cases heq
    obtain ⟨e, helements, he⟩ :=
      elements_of_readElements hvalue (readElements_skipSpace.mp helements)
    exact .array hopen helements he

/-! ## Values -/

/-- **What is read as a value is one**, and its tree is the one that was built. -/
theorem value_of_readValue (h : readValue mode limit room a = .ok (node, b)) :
    Value mode room a b node := by
  induction room generalizing a b node with
  | zero =>
    unfold readValue at h
    split at h
    · cases h
    · cases h
    · exact value_of_readScalar h
  | succ room ih =>
    unfold readValue at h
    split at h
    · rename_i rest hr
      exact value_of_readObject ih hr h
    · rename_i rest hr
      exact value_of_readArray ih hr h
    · exact value_of_readScalar h

end Testbench.Json.Grammar
