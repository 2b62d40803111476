import Testbench.Proofs.Json.Sound
import Testbench.Json.Document

/-!
# What is derived is read

* `Grammar.Value.starts` : the characters that values begin with.
* `Grammar.Value.length_le` : no piece of a source is read twice.
* `Grammar.Value.readValue_eq` : every value is read, whatever follows that a number cannot go on
  with.
* `Grammar.read_eq_ok_iff` : a source has a tree exactly if the tree has a derivation.
* `Document.parse_eq_ok_iff_derives` : so it is with whole documents.
-/

set_option autoImplicit false

namespace Testbench.Json.Grammar

open Text
open Cursor (Spans Avoids)

variable {mode : Mode} {limit room : Nat} {a b : Cursor} {node : Node}

/-! ## Where values begin -/

/-- The characters that a number begins with. -/
def startsNumber (c : Char) : Bool := c == '-' || c.isDigit

/-- The characters that a container begins with. -/
def opensContainer (c : Char) : Bool := c == '\x7b' || c == '['

/-- The characters that a value begins with. -/
def startsValue (c : Char) : Bool :=
  opensString c || startsNumber c || opensContainer c || ['t', 'f', 'n'].contains c

/-- The characters that a name begins with. -/
def startsName (c : Char) : Bool := opensString c || isNameChar c

theorem Quoted.starts {slice : Slice} {quote : Quote} (h : Quoted mode a b slice quote) :
    a.Starts opensString := by
  obtain ⟨hd, ha, -, -, -⟩ := h
  cases hd with
  | double => exact ha.starts rfl
  | single => exact ha.starts rfl
  | backslash => exact ha.starts rfl

theorem Label.starts {name : Name} (h : Label mode a b name) : a.Starts startsName := by
  cases h with
  | quoted hq => exact hq.starts.mono fun c hc => by simp [startsName, hc]
  | @bare _ _ s hne hs ha =>
    cases s with
    | nil => exact absurd rfl hne
    | cons c s =>
      have hc := isNameChar_iff.mpr (hs c List.mem_cons_self)
      exact ha.starts (by simp [startsName, hc])

theorem Whole.starts {s : List Char} (h : Whole s) : ∃ c t, s = c :: t ∧ c.isDigit = true := by
  cases h with
  | zero => exact ⟨_, _, rfl, rfl⟩
  | digits hc => exact ⟨_, _, rfl, isDigit_iff.mpr hc⟩

theorem Number.starts {s : List Char} (h : Number s) (hs : Spans s a b) :
    a.Starts startsNumber := by
  obtain ⟨hsign, hw, -, -⟩ := h
  simp only [List.mem_cons, List.not_mem_nil, or_false] at hsign
  rcases hsign with rfl | rfl
  · obtain ⟨c, t, rfl, hc⟩ := hw.starts
    exact hs.starts (by simp [startsNumber, hc])
  · exact hs.starts rfl

theorem Value.starts (h : Value mode room a b node) : a.Starts startsValue := by
  cases h with
  | string hq => exact hq.starts.mono fun c hc => by simp [startsValue, hc]
  | number hn hs => exact (hn.starts hs).mono fun c hc => by simp [startsValue, hc]
  | boolean hmem hs =>
    simp only [List.mem_cons, List.not_mem_nil, or_false] at hmem
    rcases hmem with rfl | rfl <;> exact hs.starts rfl
  | null hs => exact hs.starts rfl
  | emptyObject hs => exact hs.starts rfl
  | object hs => exact hs.starts rfl
  | emptyArray hs => exact hs.starts rfl
  | array hs => exact hs.starts rfl

theorem Members.starts {members : List (Name × Node)} (h : Members mode room a b members) :
    a.skipSpace.Starts startsName := by
  have hmember : ∃ c member, Member mode room a c member := by
    cases h with
    | last hm => exact ⟨_, _, hm⟩
    | more hm => exact ⟨_, _, hm⟩
  obtain ⟨c, member, ⟨ha, hl, -, -, -, -, -⟩⟩ := hmember
  rw [ha.skipSpace_eq_of_starts rfl hl.starts]
  exact hl.starts

theorem Elements.starts {elements : List Node} (h : Elements mode room a b elements) :
    a.skipSpace.Starts startsValue := by
  have helement : ∃ c element, Element mode room a c element := by
    cases h with
    | last he => exact ⟨_, _, he⟩
    | more he => exact ⟨_, _, he⟩
  obtain ⟨c, element, ⟨ha, hv, -⟩⟩ := helement
  rw [ha.skipSpace_eq_of_starts rfl hv.starts]
  exact hv.starts

/-! ## What is left of the source -/

theorem length_le_of_spans {s : List Char} (h : Spans s a b) : b.rest.length ≤ a.rest.length := by
  rw [h.length_eq]
  omega

theorem length_le_of_enclosed {s t : List Char} {c e : Cursor} (hs : Spans s a b)
    (h : c.rest.length ≤ b.rest.length) (ht : Spans t c e) : e.rest.length ≤ a.rest.length := by
  rw [hs.length_eq]
  rw [ht.length_eq] at h
  omega

theorem Quoted.length_le {slice : Slice} {quote : Quote} (h : Quoted mode a b slice quote) :
    b.rest.length ≤ a.rest.length := by
  obtain ⟨-, ha, -, hs, hc⟩ := h
  exact length_le_of_spans (ha.trans (hs.trans hc))

theorem Label.length_le {name : Name} (h : Label mode a b name) :
    b.rest.length ≤ a.rest.length := by
  cases h with
  | quoted hq => exact hq.length_le
  | bare _ _ ha => exact length_le_of_spans ha

mutual

theorem Value.length_le {room : Nat} {a b : Cursor} {node : Node} :
    Value mode room a b node → b.rest.length ≤ a.rest.length
  | .string hq => hq.length_le
  | .number _ hs => length_le_of_spans hs
  | .boolean _ hs => length_le_of_spans hs
  | .null hs => length_le_of_spans hs
  | .emptyObject ha hg hb => length_le_of_enclosed ha hg.length_le hb
  | .object ha hms hb => length_le_of_enclosed ha hms.length_le hb
  | .emptyArray ha hg hb => length_le_of_enclosed ha hg.length_le hb
  | .array ha hes hb => length_le_of_enclosed ha hes.length_le hb

theorem Member.length_le {room : Nat} {a b : Cursor} {member : Name × Node} :
    Member mode room a b member → b.rest.length ≤ a.rest.length
  | .mk ha hl hc hs hf hv hh => by
    have hv := hv.length_le
    have hl := hl.length_le
    have hs := hs.length_eq
    have ha := ha.length_le
    have hc := hc.length_le
    have hf := hf.length_le
    have hh := hh.length_le
    omega

theorem Members.length_le {room : Nat} {a b : Cursor} {members : List (Name × Node)} :
    Members mode room a b members → b.rest.length ≤ a.rest.length
  | .last hm => hm.length_le
  | .more hm hc hms => by
    have hm := hm.length_le
    have hc := hc.length_eq
    have hms := hms.length_le
    omega

theorem Element.length_le {room : Nat} {a b : Cursor} {node : Node} :
    Element mode room a b node → b.rest.length ≤ a.rest.length
  | .mk ha hv hc => by
    have ha := ha.length_le
    have hv := hv.length_le
    have hc := hc.length_le
    omega

theorem Elements.length_le {room : Nat} {a b : Cursor} {elements : List Node} :
    Elements mode room a b elements → b.rest.length ≤ a.rest.length
  | .last he => he.length_le
  | .more he hc hes => by
    have he := he.length_le
    have hc := hc.length_eq
    have hes := hes.length_le
    omega

end

/-! ## Scalars -/

/-- What does not begin as a container is read as a scalar, however little room is left. -/
theorem readValue_eq_readScalar (ha : a.Avoids opensContainer) :
    readValue mode limit room a = readScalar mode a := by
  cases room with
  | zero =>
    unfold readValue
    split
    · rename_i hr; exact absurd hr (ha.rest_ne rfl _)
    · rename_i hr; exact absurd hr (ha.rest_ne rfl _)
    · rfl
  | succ room =>
    unfold readValue
    split
    · rename_i hr; exact absurd hr (ha.rest_ne rfl _)
    · rename_i hr; exact absurd hr (ha.rest_ne rfl _)
    · rfl

theorem readScalar_eq_readNumber (ha : a.Starts startsNumber) :
    readScalar mode a = readNumber a := by
  obtain ⟨c, rest, hr, hc⟩ := ha
  have hne : ∀ d, startsNumber d = false → c ≠ d := by
    rintro d hd rfl
    rw [hd] at hc
    cases hc
  have hopens : opensString c = false := by
    simp [opensString, hne '\"' rfl, hne '\'' rfl, hne '\\' rfl]
  simp only [readScalar, readString?_eq_none (Cursor.avoids_of_cons hr hopens), hr]
  split
  · rename_i heq; exact absurd (List.cons.inj heq).1 (hne _ rfl)
  · rename_i heq; exact absurd (List.cons.inj heq).1 (hne _ rfl)
  · rename_i heq; exact absurd (List.cons.inj heq).1 (hne _ rfl)
  · rename_i heq
    rw [← (List.cons.inj heq).1]
    exact if_pos hc
  · rename_i heq
    cases heq

theorem apart_of_opensContainer {p : Char → Bool} (hbrace : p '\x7b' = false)
    (hbracket : p '[' = false) {c : Char} (h : opensContainer c = true) : p c = false := by
  rcases Bool.or_eq_true_iff.mp h with hc | hc
  · exact beq_iff_eq.mp hc ▸ hbrace
  · exact beq_iff_eq.mp hc ▸ hbracket

theorem readValue_string {slice : Slice} {quote : Quote} (h : Quoted mode a b slice quote) :
    readValue mode limit room a = .ok (.scalar .string quote slice, b) := by
  have ha : a.Avoids opensContainer :=
    h.starts.avoids fun _ => apart_of_opensContainer rfl rfl
  rw [readValue_eq_readScalar ha, readScalar, h.readString?_eq]
  rfl

theorem readValue_number {s : List Char} (hn : Number s) (hs : Spans s a b)
    (hb : b.Avoids continuesNumber) :
    readValue mode limit room a = .ok (.scalar .number .none (a.sliceTo b), b) := by
  have hstarts := hn.starts hs
  have ha : a.Avoids opensContainer :=
    hstarts.avoids fun _ => apart_of_opensContainer rfl rfl
  rw [readValue_eq_readScalar ha, readScalar_eq_readNumber hstarts, readNumber_eq hn hs hb]

theorem readValue_literal {word : List Char} {kind : ScalarKind} (hword : (word, kind) ∈ literals)
    (hs : Spans word a b) :
    readValue mode limit room a = .ok (.scalar kind .none (a.sliceTo b), b) := by
  have hread : readScalar mode a = readLiteral kind word a := by
    have hr := hs.1
    simp only [literals, List.mem_cons, List.not_mem_nil, or_false, Prod.mk.injEq] at hword
    rcases hword with ⟨rfl, rfl⟩ | ⟨rfl, rfl⟩ | ⟨rfl, rfl⟩
    · simp only [readScalar, readString?_eq_none (hs.avoids rfl), hr, List.cons_append]
    · simp only [readScalar, readString?_eq_none (hs.avoids rfl), hr, List.cons_append]
    · simp only [readScalar, readString?_eq_none (hs.avoids rfl), hr, List.cons_append]
  have ha : a.Avoids opensContainer := by
    simp only [literals, List.mem_cons, List.not_mem_nil, or_false, Prod.mk.injEq] at hword
    rcases hword with ⟨rfl, -⟩ | ⟨rfl, -⟩ | ⟨rfl, -⟩ <;> exact hs.avoids rfl
  rw [readValue_eq_readScalar ha, hread]
  exact (readLiteral_iff hword).mpr ⟨hs, rfl⟩

/-! ## Containers -/

theorem readValue_emptyObject {c e : Cursor} (ha : Spans ['\x7b'] a b) (hb : Gap b c)
    (hc : Spans ['\x7d'] c e) :
    readValue mode limit (room + 1) a = .ok (.object (a.sliceTo e) [], e) := by
  have hskip : b.skipSpace = c := hb.skipSpace_eq (hc.avoids rfl)
  obtain ⟨hr, -⟩ := Cursor.spans_singleton.mp ha
  obtain ⟨hr', -⟩ := Cursor.spans_singleton.mp hc
  simp only [readValue, hr, readObject, ha.after_eq rfl, hskip, hr', hc.after_eq rfl]

theorem readValue_object {c : Cursor} {members : List (Name × Node)} (ha : Spans ['\x7b'] a b)
    (hb : b.skipSpace.Avoids (· == '\x7d'))
    (h : readMembers mode (readValue mode limit room) limit b = .ok (members, c)) :
    readValue mode limit (room + 1) a = .ok (.object (a.sliceTo c) members, c) := by
  obtain ⟨hr, -⟩ := Cursor.spans_singleton.mp ha
  simp only [readValue, hr, readObject, ha.after_eq rfl]
  split
  · rename_i hr'
    exact absurd hr' (hb.rest_ne rfl _)
  · rw [readMembers_skipSpace.mpr h]
    rfl

theorem readValue_emptyArray {c e : Cursor} (ha : Spans ['['] a b) (hb : Gap b c)
    (hc : Spans [']'] c e) :
    readValue mode limit (room + 1) a = .ok (.array (a.sliceTo e) [], e) := by
  have hskip : b.skipSpace = c := hb.skipSpace_eq (hc.avoids rfl)
  obtain ⟨hr, -⟩ := Cursor.spans_singleton.mp ha
  obtain ⟨hr', -⟩ := Cursor.spans_singleton.mp hc
  simp only [readValue, hr, readArray, ha.after_eq rfl, hskip, hr', hc.after_eq rfl]

theorem readValue_array {c : Cursor} {elements : List Node} (ha : Spans ['['] a b)
    (hb : b.skipSpace.Avoids (· == ']'))
    (h : readElements (readValue mode limit room) limit b = .ok (elements, c)) :
    readValue mode limit (room + 1) a = .ok (.array (a.sliceTo c) elements, c) := by
  obtain ⟨hr, -⟩ := Cursor.spans_singleton.mp ha
  simp only [readValue, hr, readArray, ha.after_eq rfl]
  split
  · rename_i hr'
    exact absurd hr' (hb.rest_ne rfl _)
  · rw [readElements_skipSpace.mpr h]
    rfl

/-! ## Values -/

mutual

/-- **Every value is read**, whatever follows that a number cannot go on with. -/
theorem Value.readValue_eq {room : Nat} {a b : Cursor} {node : Node} :
    Value mode room a b node → a.rest.length < limit → b.Avoids continuesNumber →
    readValue mode limit room a = .ok (node, b)
  | .string hq, _, _ => readValue_string hq
  | .number hn hs, _, hb => readValue_number hn hs hb
  | .boolean hmem hs, _, _ => by
    simp only [List.mem_cons, List.not_mem_nil, or_false] at hmem
    rcases hmem with rfl | rfl
    · exact readValue_literal (by decide) hs
    · exact readValue_literal (by decide) hs
  | .null hs, _, _ => readValue_literal (by decide) hs
  | .emptyObject ha hg hc, _, _ => readValue_emptyObject ha hg hc
  | .object ha hms hc, hlen, _ => by
    rw [ha.length_eq] at hlen
    exact readValue_object ha (hms.starts.avoids_char rfl) (hms.readMembers_eq hc (by omega) (Nat.le_refl _))
  | .emptyArray ha hg hc, _, _ => readValue_emptyArray ha hg hc
  | .array ha hes hc, hlen, _ => by
    rw [ha.length_eq] at hlen
    exact readValue_array ha (hes.starts.avoids_char rfl) (hes.readElements_eq hc (by omega) (Nat.le_refl _))

theorem Member.readMember_eq {room : Nat} {a b : Cursor} {member : Name × Node} :
    Member mode room a b member → a.rest.length < limit → b.Avoids continuesNumber →
    b.Avoids isSpace →
    ∃ c, readMember mode (readValue mode limit room) a = .ok (member, c) ∧ c.skipSpace = b
  | .mk ha hl hc hs hf hv hh, hlen, hb, hspace => by
    have hha := ha.skipSpace_eq_of_starts rfl hl.starts
    have hff := hf.skipSpace_eq_of_starts rfl hv.starts
    have hname := hl.readName_eq (hc.avoids rfl (hs.avoids rfl))
    have hcc := hc.skipSpace_eq (hs.avoids rfl)
    have hla := ha.length_le
    have hll := hl.length_le
    have hlc := hc.length_le
    have hls := hs.length_eq
    have hlf := hf.length_le
    have hfollow := hh.avoids rfl hb
    have hnode := hv.readValue_eq (by omega) hfollow
    obtain ⟨hr, -⟩ := Cursor.spans_singleton.mp hs
    refine ⟨_, ?_, hh.skipSpace_eq hspace⟩
    simp only [readMember, hha, hname, ok_bind, hcc, hr, hs.after_eq rfl, hff, hnode]

theorem Members.readMembers_eq {room : Nat} {a b : Cursor} {members : List (Name × Node)}
    {c : Cursor} {fuel : Nat} :
    Members mode room a b members → Spans ['\x7d'] b c → a.rest.length < fuel → fuel ≤ limit →
    readMembers mode (readValue mode limit room) fuel a = .ok (members, c)
  | .last hm, hc, hlen, hfuel => by
    obtain ⟨fuel, rfl⟩ : ∃ n, fuel = n + 1 := ⟨fuel - 1, by omega⟩
    obtain ⟨e, hread, he⟩ := hm.readMember_eq (by omega) (hc.avoids rfl) (hc.avoids rfl)
    obtain ⟨hr, -⟩ := Cursor.spans_singleton.mp hc
    simp only [readMembers, hread, ok_bind, he, hr, hc.after_eq rfl]
  | .more hm hs hms, hc, hlen, hfuel => by
    obtain ⟨fuel, rfl⟩ : ∃ n, fuel = n + 1 := ⟨fuel - 1, by omega⟩
    obtain ⟨e, hread, he⟩ := hm.readMember_eq (by omega) (hs.avoids rfl) (hs.avoids rfl)
    obtain ⟨hr, -⟩ := Cursor.spans_singleton.mp hs
    have hlm := hm.length_le
    have hls : _ = 1 + _ := hs.length_eq
    have hrest : readMembers mode (readValue mode limit room) fuel _ = .ok (_, c) :=
      hms.readMembers_eq hc (by omega) (by omega)
    simp only [readMembers, hread, ok_bind, he, hr, hs.after_eq rfl, hrest]

theorem Element.readElement_eq {room : Nat} {a b : Cursor} {element : Node} :
    Element mode room a b element → a.rest.length < limit → b.Avoids continuesNumber →
    b.Avoids isSpace →
    ∃ c, readValue mode limit room a.skipSpace = .ok (element, c) ∧ c.skipSpace = b
  | .mk ha hv hc, hlen, hb, hspace => by
    have hha := ha.skipSpace_eq_of_starts rfl hv.starts
    have hfit := Nat.lt_of_le_of_lt ha.length_le hlen
    have hnode := hv.readValue_eq hfit (hc.avoids rfl hb)
    rw [hha]
    exact ⟨_, hnode, hc.skipSpace_eq hspace⟩

theorem Elements.readElements_eq {room : Nat} {a b : Cursor} {elements : List Node}
    {c : Cursor} {fuel : Nat} :
    Elements mode room a b elements → Spans [']'] b c → a.rest.length < fuel → fuel ≤ limit →
    readElements (readValue mode limit room) fuel a = .ok (elements, c)
  | .last he, hc, hlen, hfuel => by
    obtain ⟨fuel, rfl⟩ : ∃ n, fuel = n + 1 := ⟨fuel - 1, by omega⟩
    obtain ⟨e, hread, hskip⟩ := he.readElement_eq (by omega) (hc.avoids rfl) (hc.avoids rfl)
    obtain ⟨hr, -⟩ := Cursor.spans_singleton.mp hc
    simp only [readElements, hread, ok_bind, hskip, hr, hc.after_eq rfl]
  | .more he hs hes, hc, hlen, hfuel => by
    obtain ⟨fuel, rfl⟩ : ∃ n, fuel = n + 1 := ⟨fuel - 1, by omega⟩
    obtain ⟨e, hread, hskip⟩ := he.readElement_eq (by omega) (hs.avoids rfl) (hs.avoids rfl)
    obtain ⟨hr, -⟩ := Cursor.spans_singleton.mp hs
    have hle := he.length_le
    have hls : _ = 1 + _ := hs.length_eq
    have hrest : readElements (readValue mode limit room) fuel _ = .ok (_, c) :=
      hes.readElements_eq hc (by omega) (by omega)
    simp only [readElements, hread, ok_bind, hskip, hr, hs.after_eq rfl, hrest]

end

/-! ## Documents -/

theorem read_eq_ok_iff {source : List Char} {root : Node} :
    read mode source = .ok root ↔ Document mode source root := by
  constructor
  · intro h
    obtain ⟨⟨root', b⟩, hvalue, h⟩ := bind_eq_ok_iff.mp h
    simp only at h
    split at h
    · rename_i hend
      cases h
      exact ⟨_, b, b.skipSpace, gap_skipSpace _, value_of_readValue hvalue, gap_skipSpace b,
        List.isEmpty_iff.mp hend⟩
    · cases h
  · rintro ⟨a, b, e, ha, hvalue, hb, hend⟩
    have hspace : e.Avoids isSpace := Cursor.avoids_of_nil hend
    have hnumber : e.Avoids continuesNumber := Cursor.avoids_of_nil hend
    have haa := ha.skipSpace_eq_of_starts rfl hvalue.starts
    have hlen : a.rest.length < source.length + 1 := Nat.lt_succ_of_le ha.length_le
    have hread := hvalue.readValue_eq hlen (hb.avoids rfl hnumber)
    simp only [read, haa, hread, ok_bind, hb.skipSpace_eq hspace, hend, List.isEmpty_nil, if_true]

end Testbench.Json.Grammar

namespace Testbench.Json.Document

/-- **A text is parsed exactly if the grammar of its mode derives it**, and to the tree of any of its
derivations. -/
theorem parse_eq_ok_iff_derives (mode : Mode) (source : String) :
    ((∃ d, parse mode source = .ok d) ↔ ∃ root, Grammar.Document mode source.toList root) ∧
    ∀ d, parse mode source = .ok d ↔
      d.mode = mode ∧ d.source = source ∧ Grammar.Document mode source.toList d.root := by
  have hparse : ∀ d, parse mode source = .ok d ↔
      d.mode = mode ∧ d.source = source ∧ Grammar.Document mode source.toList d.root := by
    intro d
    rw [parse, Grammar.map_eq_ok_iff]
    constructor
    · rintro ⟨root, hroot, rfl⟩
      exact ⟨rfl, rfl, Grammar.read_eq_ok_iff.mp hroot⟩
    · rintro ⟨rfl, rfl, hroot⟩
      exact ⟨d.root, Grammar.read_eq_ok_iff.mpr hroot, rfl⟩
  refine ⟨⟨?_, ?_⟩, hparse⟩
  · rintro ⟨d, hd⟩
    exact ⟨d.root, ((hparse d).mp hd).2.2⟩
  · rintro ⟨root, hroot⟩
    exact ⟨⟨mode, source, root⟩, (hparse _).mpr ⟨rfl, rfl, hroot⟩⟩

end Testbench.Json.Document
