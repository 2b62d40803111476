import Testbench.Proofs.Json.Checked
import Testbench.Proofs.Json.Complete

/-!
# Where the parts of a document lie

* `Cursor.Reaches` : one place is at or after another one.
* `Slice.Between` : a piece that lies between two places; it is one of the source's.
* `Strung` : spans that follow one another, with something between any two.
* `Grammar.Members.strung`, `Grammar.Elements.strung` : so do the names and values in a container.
* `Grammar.Members.exists_value`, `Grammar.Elements.exists_value` : what is in a container is
  derived further on in the source.
* `Grammar.Value.placed` : every node of a derived tree has its place in the source, and those of
  its children are between its brackets.
-/

set_option autoImplicit false

namespace Testbench.Json

namespace Cursor

/-! ## Places -/

/-- One place is at or after another one. -/
def Reaches (a b : Cursor) : Prop := ∃ s, Spans s a b

variable {a b c : Cursor}

theorem Spans.reaches {s : List Char} (h : Spans s a b) : Reaches a b := ⟨s, h⟩

theorem Reaches.refl (a : Cursor) : Reaches a a := ⟨[], .nil a⟩

theorem Reaches.trans (h : Reaches a b) (h' : Reaches b c) : Reaches a c := by
  obtain ⟨s, hs⟩ := h
  obtain ⟨t, ht⟩ := h'
  exact ⟨s ++ t, hs.trans ht⟩

theorem Reaches.offset_le (h : Reaches a b) : a.offset ≤ b.offset := by
  obtain ⟨s, -, ho⟩ := h
  omega

theorem Reaches.length_le (h : Reaches a b) : b.rest.length ≤ a.rest.length := by
  obtain ⟨s, hs⟩ := h
  rw [hs.length_eq]
  omega

end Cursor

open Cursor (Reaches Spans)

/-! ## Pieces -/

theorem dropBytes?_byteLength_append (s t : List Char) :
    dropBytes? (byteLength s) (s ++ t) = some t := by
  induction s with
  | nil => simp [byteLength, dropBytes?]
  | cons c s ih =>
    have hc := Char.utf8Size_pos c
    obtain ⟨k, hk⟩ : ∃ k, c.utf8Size + byteLength s = k + 1 :=
      ⟨c.utf8Size + byteLength s - 1, by omega⟩
    rw [byteLength, hk, List.cons_append, dropBytes?, if_pos (by omega), ← hk,
      Nat.add_sub_cancel_left, ih]

/-- The piece lies between two places. -/
def Slice.Between (s : Slice) (a b : Cursor) : Prop :=
  ∃ c e, s = c.sliceTo e ∧ Reaches a c ∧ Reaches c e ∧ Reaches e b

/-- A piece between places of the source can be cut out of the source. -/
theorem Slice.Between.slice?_eq {source : List Char} {s : Slice} {a b : Cursor}
    (h : s.Between a b) (ha : Reaches ⟨0, source⟩ a) : s.span.slice? source = some s := by
  obtain ⟨c, e, rfl, hac, ⟨text, htext⟩, -⟩ := h
  obtain ⟨before, hbefore, hoffset⟩ := ha.trans hac
  have hrest := dropBytes?_byteLength_append before c.rest
  have hafter := dropBytes?_byteLength_append text e.rest
  simp only at hbefore
  rw [← hbefore, ← Nat.zero_add (byteLength before), ← hoffset] at hrest
  have hlength : e.offset - c.offset = byteLength text := by rw [htext.2, Nat.add_sub_cancel_left]
  rw [← htext.1, ← hlength] at hafter
  have hle : c.offset ≤ e.offset := Cursor.Spans.reaches htext |>.offset_le
  simp only [Cursor.sliceTo, Slice.span, Span.slice?, if_pos hle, hrest, hafter, Option.bind_eq_bind,
    Option.bind_some]

theorem Slice.Between.reaches {s : Slice} {a b : Cursor} (h : s.Between a b) : Reaches a b := by
  obtain ⟨c, e, -, hac, hce, heb⟩ := h
  exact hac.trans (hce.trans heb)

/-- Spans between two places, in order, with something between any two. -/
structure Strung (first : Nat) (spans : List Span) (last : Nat) : Prop where
  le : first ≤ last
  within : ∀ s ∈ spans, first ≤ s.offset ∧ s.stop ≤ last
  apart : spans.Pairwise fun s t => s.stop < t.offset

theorem Slice.Between.strung {s : Slice} {a b : Cursor} (h : s.Between a b) :
    Strung a.offset [s.span] b.offset := by
  obtain ⟨c, e, rfl, hac, hce, heb⟩ := h
  refine ⟨(hac.trans (hce.trans heb)).offset_le, fun t ht => ?_, List.pairwise_singleton _ _⟩
  obtain rfl := List.mem_singleton.mp ht
  exact ⟨hac.offset_le, heb.offset_le⟩

theorem Strung.nil {first last : Nat} (h : first ≤ last) : Strung first [] last :=
  ⟨h, fun _ hs => (nomatch hs), List.Pairwise.nil⟩

theorem Strung.mono {first first' last last' : Nat} {spans : List Span}
    (h : Strung first spans last) (hf : first' ≤ first) (hl : last ≤ last') :
    Strung first' spans last' := by
  refine ⟨Nat.le_trans hf (Nat.le_trans h.le hl), fun s hs => ?_, h.apart⟩
  obtain ⟨hoffset, hstop⟩ := h.within s hs
  exact ⟨Nat.le_trans hf hoffset, Nat.le_trans hstop hl⟩

theorem Strung.append {first last first' last' : Nat} {spans spans' : List Span}
    (h : Strung first spans last) (hlt : last < first') (h' : Strung first' spans' last') :
    Strung first (spans ++ spans') last' := by
  have hle := h.le
  have hle' := h'.le
  refine ⟨by omega, fun s hs => ?_, ?_⟩
  · rcases List.mem_append.mp hs with hs | hs
    · have := h.within s hs
      omega
    · have := h'.within s hs
      omega
  · refine List.pairwise_append.mpr ⟨h.apart, h'.apart, fun s hs t ht => ?_⟩
    have hs := h.within s hs
    have ht := h'.within t ht
    omega

/-- The spans of a node with a name, as they stand in the source. -/
def Node.spans (p : Option Name × Node) : List Span :=
  (p.1.map fun name => name.slice.span).toList ++ [p.2.slice.span]

/-- The text of a container is in its brackets, and what it holds is between them. -/
def Node.Encloses (n : Node) : Prop :=
  ∀ first last, n.kind.brackets? = some (first, last) →
    (∃ inner, n.slice.text = first :: (inner ++ [last])) ∧
    Strung (n.slice.offset + 1) (n.children.flatMap Node.spans) (n.slice.stop - 1)

namespace Grammar

variable {mode : Mode} {room : Nat} {a b : Cursor}

/-! ## Derived pieces -/

theorem Gap.reaches (h : Gap a b) : Reaches a b := by
  obtain ⟨s, -, hs⟩ := h
  exact hs.reaches

theorem Quoted.between {slice : Slice} {quote : Quote} (h : Quoted mode a b slice quote) :
    slice.Between a b := by
  obtain ⟨-, hopen, -, hs, hclose⟩ := h
  exact ⟨_, _, rfl, hopen.reaches, hs.reaches, hclose.reaches⟩

theorem between_sliceTo (h : Reaches a b) : (a.sliceTo b).Between a b :=
  ⟨a, b, rfl, .refl a, h, .refl b⟩

theorem Label.between {name : Name} (h : Label mode a b name) : name.slice.Between a b := by
  cases h with
  | quoted hq => exact hq.between
  | bare _ _ hs => exact between_sliceTo hs.reaches

theorem reaches_of_enclosed {s t : List Char} {c e : Cursor} (hs : Spans s a b) (h : Reaches b c)
    (ht : Spans t c e) : Reaches a e :=
  hs.reaches.trans (h.trans ht.reaches)

mutual

theorem Value.between {room : Nat} {a b : Cursor} {node : Node} :
    Value mode room a b node → node.slice.Between a b
  | .string hq => hq.between
  | .number _ hs => between_sliceTo hs.reaches
  | .boolean _ hs => between_sliceTo hs.reaches
  | .null hs => between_sliceTo hs.reaches
  | .emptyObject ha hg hb => between_sliceTo (reaches_of_enclosed ha hg.reaches hb)
  | .object ha hms hb => between_sliceTo (reaches_of_enclosed ha hms.reaches hb)
  | .emptyArray ha hg hb => between_sliceTo (reaches_of_enclosed ha hg.reaches hb)
  | .array ha hes hb => between_sliceTo (reaches_of_enclosed ha hes.reaches hb)

theorem Member.reaches {room : Nat} {a b : Cursor} {member : Name × Node} :
    Member mode room a b member → Reaches a b
  | .mk ha hl hc hs hf hv hh =>
    have hname := ha.reaches.trans (hl.between.reaches.trans hc.reaches)
    have hvalue := hf.reaches.trans (hv.between.reaches.trans hh.reaches)
    hname.trans (hs.reaches.trans hvalue)

theorem Members.reaches {room : Nat} {a b : Cursor} {members : List (Name × Node)} :
    Members mode room a b members → Reaches a b
  | .last hm => hm.reaches
  | .more hm hc hms => hm.reaches.trans (hc.reaches.trans hms.reaches)

theorem Element.reaches {room : Nat} {a b : Cursor} {node : Node} :
    Element mode room a b node → Reaches a b
  | .mk ha hv hc => ha.reaches.trans (hv.between.reaches.trans hc.reaches)

theorem Elements.reaches {room : Nat} {a b : Cursor} {elements : List Node} :
    Elements mode room a b elements → Reaches a b
  | .last he => he.reaches
  | .more he hc hes => he.reaches.trans (hc.reaches.trans hes.reaches)

end

/-! ## What is in a container -/

theorem offset_lt_of_spans {c : Char} (h : Spans [c] a b) : a.offset < b.offset := by
  have hc := Char.utf8Size_pos c
  have ho := (Cursor.spans_singleton.mp h).2
  omega

theorem Member.strung {m : Name × Node} (h : Member mode room a b m) :
    Strung a.offset [m.1.slice.span, m.2.slice.span] b.offset := by
  obtain ⟨ha, hl, hc, hs, hf, hv, hh⟩ := h
  have hname := hl.between.strung.mono ha.reaches.offset_le hc.reaches.offset_le
  have hvalue := hv.between.strung.mono hf.reaches.offset_le hh.reaches.offset_le
  exact hname.append (offset_lt_of_spans hs) hvalue

theorem Members.strung {a b : Cursor} {members : List (Name × Node)} :
    Members mode room a b members →
    Strung a.offset ((members.map fun m => (some m.1, m.2)).flatMap Node.spans) b.offset
  | .last hm => hm.strung
  | .more hm hc hms => hm.strung.append (offset_lt_of_spans hc) hms.strung

theorem Element.strung {element : Node} (h : Element mode room a b element) :
    Strung a.offset [element.slice.span] b.offset := by
  obtain ⟨ha, hv, hc⟩ := h
  exact hv.between.strung.mono ha.reaches.offset_le hc.reaches.offset_le

theorem Elements.strung {a b : Cursor} {elements : List Node} :
    Elements mode room a b elements →
    Strung a.offset ((elements.map fun e => (none, e)).flatMap Node.spans) b.offset
  | .last he => he.strung
  | .more he hc hes => he.strung.append (offset_lt_of_spans hc) hes.strung

theorem Member.exists_value {m : Name × Node} (h : Member mode room a b m) :
    (∃ c e, Reaches a c ∧ Label mode c e m.1) ∧ ∃ c e, Reaches a c ∧ Value mode room c e m.2 := by
  obtain ⟨ha, hl, hc, hs, hf, hv, -⟩ := h
  have hcolon := hc.reaches.trans (hs.reaches.trans hf.reaches)
  exact ⟨⟨_, _, ha.reaches, hl⟩, _, _, ha.reaches.trans (hl.between.reaches.trans hcolon), hv⟩

theorem Members.exists_value {a b : Cursor} {members : List (Name × Node)} {m : Name × Node} :
    Members mode room a b members → m ∈ members →
    (∃ c e, Reaches a c ∧ Label mode c e m.1) ∧ ∃ c e, Reaches a c ∧ Value mode room c e m.2
  | .last hm, hmem => by
    obtain rfl := List.mem_singleton.mp hmem
    exact hm.exists_value
  | .more hm hc hms, hmem => by
    rcases List.mem_cons.mp hmem with rfl | hmem
    · exact hm.exists_value
    · have hnext := hm.reaches.trans hc.reaches
      obtain ⟨⟨c, e, hce, hl⟩, c', e', hce', hv⟩ := hms.exists_value hmem
      exact ⟨⟨c, e, hnext.trans hce, hl⟩, c', e', hnext.trans hce', hv⟩

theorem Elements.exists_value {a b : Cursor} {elements : List Node} {v : Node} :
    Elements mode room a b elements → v ∈ elements →
    ∃ c e, Reaches a c ∧ Value mode room c e v
  | .last ⟨ha, hv, _⟩, hmem => by
    obtain rfl := List.mem_singleton.mp hmem
    exact ⟨_, _, ha.reaches, hv⟩
  | .more he hc hes, hmem => by
    rcases List.mem_cons.mp hmem with rfl | hmem
    · obtain ⟨ha, hv, -⟩ := he
      exact ⟨_, _, ha.reaches, hv⟩
    · obtain ⟨c, e, hce, hv⟩ := hes.exists_value hmem
      exact ⟨c, e, (he.reaches.trans hc.reaches).trans hce, hv⟩

/-! ## Every node has its place -/

theorem encloses_of_spans {first last : Char} (hf : first.utf8Size = 1) (hl : last.utf8Size = 1)
    {c e : Cursor} {n : Node} (ha : Spans [first] a b) (hb : Reaches b c) (hc : Spans [last] c e)
    (hslice : n.slice = a.sliceTo e) (hbrackets : n.kind.brackets? = some (first, last))
    (hs : Strung b.offset (n.children.flatMap Node.spans) c.offset) : n.Encloses := by
  obtain ⟨inner, hinner⟩ := hb
  have hopen := ((Cursor.spans_ascii hf).mp ha).2
  have hclose := ((Cursor.spans_ascii hl).mp hc).2
  intro first' last' hn
  rw [hbrackets] at hn
  cases hn
  refine ⟨⟨inner, ?_⟩, hs.mono (Nat.le_of_eq ?_) (Nat.le_of_eq ?_)⟩
  · rw [hslice]
    exact (ha.trans (hinner.trans hc)).text_sliceTo
  · rw [hslice, hopen]
    rfl
  · rw [hslice, Cursor.sliceTo, hclose, Nat.add_sub_cancel]

theorem Value.encloses {n : Node} (h : Value mode room a b n) : n.Encloses := by
  cases h with
  | string => intro first last hn; cases hn
  | number => intro first last hn; cases hn
  | boolean => intro first last hn; cases hn
  | null => intro first last hn; cases hn
  | emptyObject ha hg hb =>
    exact encloses_of_spans rfl rfl ha hg.reaches hb rfl rfl (.nil hg.reaches.offset_le)
  | object ha hms hb => exact encloses_of_spans rfl rfl ha hms.reaches hb rfl rfl hms.strung
  | emptyArray ha hg hb =>
    exact encloses_of_spans rfl rfl ha hg.reaches hb rfl rfl (.nil hg.reaches.offset_le)
  | array ha hes hb => exact encloses_of_spans rfl rfl ha hes.reaches hb rfl rfl hes.strung

/-- The children of a derived node are derived further on in the source. -/
theorem Value.exists_child {n : Node} (h : Value mode room a b n) {c : Option Name × Node}
    (hc : c ∈ n.children) :
    (∀ name, c.1 = some name → ∃ p q, Reaches a p ∧ Label mode p q name) ∧
    ∃ room' ≤ room, ∃ p q, Reaches a p ∧ Value mode room' p q c.2 := by
  cases h with
  | string => cases hc
  | number => cases hc
  | boolean => cases hc
  | null => cases hc
  | emptyObject => cases hc
  | object ha hms =>
    obtain ⟨m, hm, rfl⟩ := List.mem_map.mp hc
    obtain ⟨⟨p, q, hp, hl⟩, p', q', hp', hv⟩ := hms.exists_value hm
    refine ⟨fun name hname => ?_, _, Nat.le_succ _, p', q', ha.reaches.trans hp', hv⟩
    cases hname
    exact ⟨p, q, ha.reaches.trans hp, hl⟩
  | emptyArray => cases hc
  | array ha hes =>
    obtain ⟨e, he, rfl⟩ := List.mem_map.mp hc
    obtain ⟨p, q, hp, hv⟩ := hes.exists_value he
    exact ⟨fun _ hname => (nomatch hname), _, Nat.le_succ _, p, q, ha.reaches.trans hp, hv⟩

/-- **Every node of a derived tree has its place in the source**, and those of its children are
between its brackets. -/
theorem Value.placed {source : List Char} (n : Node) :
    ∀ {room : Nat} {a b : Cursor} {name : Option Name}, Value mode room a b n →
      Reaches ⟨0, source⟩ a →
      (∀ nm, name = some nm → nm.slice.span.slice? source = some nm.slice) →
      ∀ p ∈ n.preorder name, Node.Fits source p ∧ p.2.Encloses := by
  -- on the tree and not on its derivation, which has six kinds of parts
  induction n using Node.induction with
  | step n ih =>
    intro room a b name h ha hname p hp
    rw [Node.preorder_eq, List.mem_cons] at hp
    rcases hp with rfl | hp
    · exact ⟨⟨h.between.slice?_eq ha, hname⟩, h.encloses⟩
    · obtain ⟨c, hc, hp⟩ := List.mem_flatMap.mp hp
      obtain ⟨hlabel, room, -, q, r, hq, hv⟩ := h.exists_child hc
      refine ih c hc hv (ha.trans hq) (fun nm hnm => ?_) p hp
      obtain ⟨q, r, hq, hl⟩ := hlabel nm hnm
      exact hl.between.slice?_eq (ha.trans hq)

/-- Every node of a document has its place in the source. -/
theorem Document.placed {source : List Char} {root : Node} (h : Document mode source root) :
    ∀ p ∈ root.preorder none, Node.Fits source p ∧ p.2.Encloses := by
  obtain ⟨a, b, e, ha, hv, -, -⟩ := h
  exact Value.placed root hv ha.reaches fun _ hname => nomatch hname

end Grammar

end Testbench.Json
