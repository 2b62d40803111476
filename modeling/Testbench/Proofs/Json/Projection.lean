import Testbench.Json.Document
import Testbench.Proofs.Markup.Reading

/-!
# The XML of a document can be read back

The XML of a document says how its tags stand in one another, in which order, and what the texts of
the scalars are. It says no more than that: names lose the characters that tags cannot hold, and an
element that holds nothing can be an empty container or an empty string.

* `isTag_of_isTagChar`, `written_escapeXml` : neither a tag nor a text is taken for markup.
* `Node.markup` : the tags of a tree and the texts of its scalars.
* `Node.written_elementOnto` : the XML of a tree is written with its markup.
* `Node.elementOnto_eq_spell` : the XML of a tree depends on its markup alone.
* `Document.toXml_unambiguous` : **the markup of a document is read from its XML.**
-/

set_option autoImplicit false

namespace Testbench

namespace Text

/-- Among the characters of ASCII, the letters and figures are the usual ones. -/
theorem isAlphanumeric_of_lt {c : Char} (h : c.toNat < 0x80) : isAlphanumeric c = c.isAlphanum := by
  -- the runs of the tables up to the first one that starts beyond ASCII
  obtain ⟨letters, hletters⟩ :
      ∃ rest, alphabetic = (0x41, 0x5A) :: (0x61, 0x7A) :: (0xAA, 0xAA) :: rest := ⟨_, rfl⟩
  obtain ⟨figures, hfigures⟩ : ∃ rest, numbers = (0x30, 0x39) :: (0xB2, 0xB3) :: rest := ⟨_, rfl⟩
  have hletter : ¬ 0xAA ≤ c.toNat := by omega
  have hfigure : ¬ 0xB2 ≤ c.toNat := by omega
  rw [isAlphanumeric, isAlphabetic, isNumeric, CharSet.contains, CharSet.contains, hletters,
    hfigures, Bool.eq_iff_iff]
  simp [CharSet.covers, Char.isAlphanum, Char.isAlpha, Char.isUpper, Char.isLower, Char.isDigit,
    hletter, hfigure, UInt32.le_iff_toNat_le]
  omega

end Text

namespace Markup

open Json

mutual

/-- An item as documents write it. -/
def Item.spell : Item → List Char
  | .char c => escapeXmlChar c
  | .element tag content => startTag tag ++ (spellAll content ++ endTag tag)

/-- Items as documents write them. -/
def spellAll : List Item → List Char
  | [] => []
  | item :: items => item.spell ++ spellAll items

end

theorem spellAll_char (s : List Char) : spellAll (s.map .char) = escapeXml s := by
  induction s with
  | nil => rfl
  | cons c s ih =>
    rw [List.map_cons, spellAll, Item.spell, ih]
    rfl

end Markup

namespace Json

open Text Markup

/-! ## Tags and texts -/

theorem isTagChar_of_lt {c : Char} (h : c.toNat < 0x80) :
    isTagChar c = (c.isAlphanum || c == '_' || c == '-' || c == '.') := by
  rw [isTagChar, isAlphanumeric_of_lt h]

theorem isTag_of_isTagChar {tag : List Char} (h : ∀ c ∈ tag, isTagChar c = true) : IsTag tag := by
  have hne {c d : Char} (hc : isTagChar c = true) (hd : d ∈ ['<', '>', '/']) : c ≠ d := by
    have hmarks : ∀ d ∈ ['<', '>', '/'], isTagChar d = false := by simp [isTagChar_of_lt]
    rintro rfl
    rw [hmarks c hd] at hc
    cases hc
  refine ⟨fun c hc => ⟨hne (h c hc) (by simp), hne (h c hc) (by simp)⟩, fun hhead => ?_⟩
  exact hne (h _ (List.mem_of_head? hhead)) (by simp) rfl

theorem isTagChar_of_mem_tagOf {s : List Char} : ∀ c ∈ tagOf s, isTagChar c = true := by
  rw [tagOf, List.forall_mem_map]
  intro c _
  split
  · assumption
  · exact isTagChar_of_lt (by decide)

theorem Node.isTagChar_letter (n : Node) : isTagChar n.letter = true := by
  cases n with
  | scalar kind => cases kind <;> simp [letter, isTagChar_of_lt]
  | object => simp [letter, isTagChar_of_lt]
  | array => simp [letter, isTagChar_of_lt]

/-- What has an entity is written as the entity. -/
theorem escapeXmlChar_of_mem_entities : ∀ e ∈ entities,
    escapeXmlChar e.2 = '&' :: (e.1 ++ [';']) ∧ entities.lookup e.1 = some e.2 := by
  decide

/-- What has no entity is written as it is. -/
theorem escapeXmlChar_of_not_mem_entities {c : Char} (h : c ∉ entities.map Prod.snd) :
    escapeXmlChar c = [c] ∧ c ≠ '<' ∧ c ≠ '&' := by
  simp only [entities, List.map_cons, List.map_nil, List.mem_cons, not_or] at h
  obtain ⟨hamp, hlt, hgt, hquot, hapos, -⟩ := h
  simp [escapeXmlChar, hamp, hlt, hgt, hquot, hapos]

/-- A text that is written as content is not taken for markup. -/
theorem written_escapeXml (s : List Char) : Written (s.map .char) (escapeXml s) := by
  induction s with
  | nil => exact .nil
  | cons c s ih =>
    rw [List.map_cons, escapeXml, List.flatMap_cons]
    by_cases hc : c ∈ entities.map Prod.snd
    · obtain ⟨e, he, rfl⟩ := List.mem_map.mp hc
      obtain ⟨hescape, hname⟩ := escapeXmlChar_of_mem_entities e he
      rw [hescape]
      simpa [escapeXml] using Written.entity hname ih
    · obtain ⟨hescape, hopen, hentity⟩ := escapeXmlChar_of_not_mem_entities hc
      rw [hescape]
      exact .literal hopen hentity ih

namespace Node

/-! ## The markup of a tree -/

mutual

/-- A node as the element with this tag: what a scalar holds is its text. -/
def markup (tag : List Char) : Node → Item
  | scalar kind quote slice => .element tag ((scalar kind quote slice).text.map .char)
  | object _ members => .element tag (membersMarkup members)
  | array _ elements => .element tag (elementsMarkup elements)

/-- The elements for the members of an object. -/
def membersMarkup : List (Name × Node) → List Item
  | [] => []
  | (name, value) :: more => value.markup (value.letter :: tagOf name.text) :: membersMarkup more

/-- The elements for the elements of an array. -/
def elementsMarkup : List Node → List Item
  | [] => []
  | value :: more => value.markup [value.letter] :: elementsMarkup more

end

theorem isTag_member (name : Name) (value : Node) : IsTag (value.letter :: tagOf name.text) :=
  isTag_of_isTagChar (List.forall_mem_cons.mpr ⟨value.isTagChar_letter, isTagChar_of_mem_tagOf⟩)

theorem isTag_element (value : Node) : IsTag [value.letter] :=
  isTag_of_isTagChar (List.forall_mem_singleton.mpr value.isTagChar_letter)

theorem isTag_rootTag (n : Node) (tag : Option (List Char)) : IsTag (n.rootTag tag) := by
  cases tag with
  | some tag => exact isTag_of_isTagChar isTagChar_of_mem_tagOf
  | none =>
    have hroot : ∀ c ∈ ['r', 'o', 'o', 't'], isTagChar c = true := by simp [isTagChar_of_lt]
    exact isTag_of_isTagChar (List.forall_mem_cons.mpr ⟨n.isTagChar_letter, hroot⟩)

mutual

/-- The XML of a tree is written with its markup. -/
theorem written_elementOnto {tag : List Char} (htag : IsTag tag) (n : Node) {items : List Item}
    {rest : List Char} (h : Written items rest) :
    Written (n.markup tag :: items) (n.elementOnto tag rest) := by
  cases n with
  | scalar kind quote slice =>
    rw [markup, elementOnto]
    simpa [startTag, endTag] using Written.element htag (written_escapeXml _) h
  | object slice members =>
    rw [markup, elementOnto, membersOnto_append]
    simpa [startTag, endTag] using Written.element htag (written_membersOnto members) h
  | array slice elements =>
    rw [markup, elementOnto, elementsOnto_append]
    simpa [startTag, endTag] using Written.element htag (written_elementsOnto elements) h

theorem written_membersOnto (members : List (Name × Node)) :
    Written (membersMarkup members) (membersOnto members []) := by
  match members with
  | [] => exact .nil
  | (name, value) :: more =>
    rw [membersMarkup, membersOnto]
    exact written_elementOnto (isTag_member name value) value (written_membersOnto more)

theorem written_elementsOnto (elements : List Node) :
    Written (elementsMarkup elements) (elementsOnto elements []) := by
  match elements with
  | [] => exact .nil
  | value :: more =>
    rw [elementsMarkup, elementsOnto]
    exact written_elementOnto (isTag_element value) value (written_elementsOnto more)

end

mutual

/-- The XML of a tree depends on its markup alone. -/
theorem elementOnto_eq_spell (tag : List Char) (n : Node) (rest : List Char) :
    n.elementOnto tag rest = (n.markup tag).spell ++ rest := by
  cases n with
  | scalar kind quote slice => simp [elementOnto, markup, Item.spell, spellAll_char]
  | object slice members => simp [elementOnto, markup, Item.spell, membersOnto_eq_spell members]
  | array slice elements => simp [elementOnto, markup, Item.spell, elementsOnto_eq_spell elements]

theorem membersOnto_eq_spell (members : List (Name × Node)) (rest : List Char) :
    membersOnto members rest = spellAll (membersMarkup members) ++ rest := by
  match members with
  | [] => rfl
  | (name, value) :: more =>
    simp [membersOnto, membersMarkup, spellAll, elementOnto_eq_spell _ value,
      membersOnto_eq_spell more]

theorem elementsOnto_eq_spell (elements : List Node) (rest : List Char) :
    elementsOnto elements rest = spellAll (elementsMarkup elements) ++ rest := by
  match elements with
  | [] => rfl
  | value :: more =>
    simp [elementsOnto, elementsMarkup, spellAll, elementOnto_eq_spell _ value,
      elementsOnto_eq_spell more]

end

end Node

/-! ## Documents -/

namespace Document

/-- The tags of a document and the texts of its scalars, with the tag of its root as for
`Document.toXml`. -/
def markup (d : Document) (tag : Option String) : Item :=
  d.root.markup (d.root.rootTag (tag.map String.toList))

theorem written_toXml (d : Document) (tag : Option String) :
    Written [d.markup tag] (d.toXml tag).toList := by
  rw [toXml, String.toList_ofList, Node.toXml]
  exact Node.written_elementOnto (d.root.isTag_rootTag _) d.root .nil

theorem toXml_eq (d : Document) (tag : Option String) :
    d.toXml tag = String.ofList (d.markup tag).spell := by
  rw [toXml, Node.toXml, Node.elementOnto_eq_spell, List.append_nil]
  rfl

/-- **The markup of a document is read from its XML**, whatever the document and the tag of its
root. It is all that the XML is markup for, and two documents have the same XML if they have the
same markup and not otherwise. -/
theorem toXml_unambiguous (d : Document) (tag : Option String) :
    read? (d.toXml tag).toList = some [d.markup tag] ∧
      (∀ items, Written items (d.toXml tag).toList ↔ items = [d.markup tag]) ∧
      ∀ (d' : Document) (tag' : Option String),
        d.toXml tag = d'.toXml tag' ↔ d.markup tag = d'.markup tag' := by
  have hwritten := d.written_toXml tag
  have honly (items : List Item) :
      Written items (d.toXml tag).toList ↔ items = [d.markup tag] := by
    constructor
    · intro h
      exact h.unique hwritten
    · rintro rfl
      exact hwritten
  refine ⟨read?_eq_some_iff.mpr hwritten, honly, fun d' tag' => ?_⟩
  constructor
  · intro h
    have hother := d'.written_toXml tag'
    rw [← h, honly] at hother
    exact (List.singleton_injective hother).symm
  · intro h
    rw [toXml_eq, toXml_eq, h]

end Document

end Json

end Testbench
