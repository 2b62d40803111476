import Testbench.Proofs.Markup.Reading
import Testbench.Text.CharSet

/-!
# Legal markup

XML 1.0 allows certain characters in texts and fewer of them in the names of elements, and a name
cannot start with all of those. Markup is legal if its tags are names and its characters are
allowed. A text of elements alone, with no attributes, comments or sections, is an XML document just
if it is one element of legal markup.

* `legalChars`, `nameStarts`, `nameOthers` : the characters of texts and of names.
* `Content`, `IsDocument` : what stands in an element, and a whole document.
* `Item.isLegal` : **whether all tags and characters of markup are legal.**
* `IsDocument.isLegal` : the markup that a document is read as is legal.
-/

set_option autoImplicit false

namespace Testbench.Markup

open Text

/-! ## Characters and names -/

/-- The characters of a text. -/
def legalChars : CharSet :=
  [(0x9, 0xA), (0xD, 0xD), (0x20, 0xD7FF), (0xE000, 0xFFFD), (0x10000, 0x10FFFF)]

/-- The characters that a name starts with. -/
def nameStarts : CharSet :=
  [(0x3A, 0x3A), (0x41, 0x5A), (0x5F, 0x5F), (0x61, 0x7A), (0xC0, 0xD6), (0xD8, 0xF6),
   (0xF8, 0x2FF), (0x370, 0x37D), (0x37F, 0x1FFF), (0x200C, 0x200D), (0x2070, 0x218F),
   (0x2C00, 0x2FEF), (0x3001, 0xD7FF), (0xF900, 0xFDCF), (0xFDF0, 0xFFFD), (0x10000, 0xEFFFF)]

/-- The characters of a name that it does not start with. -/
def nameOthers : CharSet :=
  [(0x2D, 0x2E), (0x30, 0x39), (0xB7, 0xB7), (0x300, 0x36F), (0x203F, 0x2040)]

def isLegalChar (c : Char) : Bool := legalChars.contains c

def isNameStart (c : Char) : Bool := nameStarts.contains c

def isNamePart (c : Char) : Bool := isNameStart c || nameOthers.contains c

/-- Whether a text is the name of an element. -/
def isName : List Char → Bool
  | [] => false
  | c :: rest => isNameStart c && rest.all isNamePart

theorem isName_iff {s : List Char} :
    isName s = true ↔
      ∃ c rest, s = c :: rest ∧ isNameStart c = true ∧ ∀ d ∈ rest, isNamePart d = true := by
  cases s with
  | nil => simp [isName]
  | cons c rest => simp [isName]

theorem isNamePart_of_mem {s : List Char} (h : isName s = true) : ∀ c ∈ s, isNamePart c = true := by
  obtain ⟨c, rest, rfl, hc, hrest⟩ := isName_iff.mp h
  exact List.forall_mem_cons.mpr ⟨by simp [isNamePart, hc], hrest⟩

/-- A name is not taken for markup. -/
theorem isTag_of_isName {s : List Char} (h : isName s = true) : IsTag s := by
  have hne {c d : Char} (hc : isNamePart c = true) (hd : isNamePart d = false) : c ≠ d := by
    rintro rfl
    rw [hd] at hc
    cases hc
  refine ⟨fun c hc => ⟨?_, ?_⟩, fun hhead => ?_⟩
  · exact hne (isNamePart_of_mem h c hc) (by decide)
  · exact hne (isNamePart_of_mem h c hc) (by decide)
  · exact hne (isNamePart_of_mem h _ (List.mem_of_head? hhead)) (by decide) rfl

/-! ## Documents -/

/-- What can stand in an element of a document: legal characters, references to entities, and
elements. A `>` is always a reference, as it must be for XML behind `]]` and can be anywhere. -/
inductive Content : List Char → Prop where
  | nil : Content []
  | char {c : Char} {s : List Char} (hlegal : isLegalChar c = true)
      (hmark : c ∉ ['<', '&', '>']) (h : Content s) : Content (c :: s)
  | reference {name : List Char} {c : Char} {s : List Char}
      (hname : entities.lookup name = some c) (h : Content s) :
      Content ('&' :: (name ++ ';' :: s))
  | element {name s t : List Char} (hname : isName name = true) (hcontent : Content s)
      (h : Content t) : Content ('<' :: (name ++ '>' :: (s ++ '<' :: '/' :: (name ++ '>' :: t))))

/-- A document: one element. -/
def IsDocument (s : List Char) : Prop :=
  ∃ name content, isName name = true ∧ Content content ∧
    s = '<' :: (name ++ '>' :: (content ++ '<' :: '/' :: (name ++ ['>'])))

mutual

/-- Whether all tags and characters of an item are legal. -/
def Item.isLegal : Item → Bool
  | .char c => isLegalChar c
  | .element tag content => isName tag && allLegal content

/-- Whether all tags and characters of items are legal. -/
def allLegal : List Item → Bool
  | [] => true
  | item :: items => item.isLegal && allLegal items

end

theorem allLegal_map_char (s : List Char) : allLegal (s.map .char) = s.all isLegalChar := by
  induction s with
  | nil => rfl
  | cons c s ih => rw [List.map_cons, allLegal, Item.isLegal, ih, List.all_cons]

/-- The five characters that have entities can stand in a text. -/
theorem isLegalChar_of_lookup_entities {name : List Char} {c : Char}
    (h : entities.lookup name = some c) : isLegalChar c = true := by
  have hmem : (name, c) ∈ entities := by
    obtain ⟨before, after, hentities, -⟩ := List.lookup_eq_some_iff.mp h
    rw [hentities]
    simp
  have hall : ∀ e ∈ entities, isLegalChar e.2 = true := by decide
  exact hall _ hmem

/-- What stands in an element of a document is legal markup. -/
theorem Content.written {s : List Char} (h : Content s) :
    ∃ items, Written items s ∧ allLegal items = true := by
  induction h with
  | nil => exact ⟨[], .nil, rfl⟩
  | @char c s hlegal hmark _ ih =>
    obtain ⟨items, hwritten, hitems⟩ := ih
    simp only [List.mem_cons, not_or] at hmark
    exact ⟨.char c :: items, .literal hmark.1 hmark.2.1 hwritten,
      by simp [allLegal, Item.isLegal, *]⟩
  | @reference name c s hname _ ih =>
    obtain ⟨items, hwritten, hitems⟩ := ih
    have hlegal := isLegalChar_of_lookup_entities hname
    exact ⟨.char c :: items, .entity hname hwritten, by simp [allLegal, Item.isLegal, *]⟩
  | @element name s t hname _ _ ihcontent ih =>
    obtain ⟨content, hcontent, hlegal⟩ := ihcontent
    obtain ⟨items, hwritten, hitems⟩ := ih
    exact ⟨.element name content :: items, .element (isTag_of_isName hname) hcontent hwritten,
      by simp [allLegal, Item.isLegal, *]⟩

/-- The markup that a document is read as is legal. -/
theorem IsDocument.isLegal {item : Item} {s : List Char} (h : IsDocument s)
    (hs : Written [item] s) : item.isLegal = true := by
  obtain ⟨name, content, hname, hcontent, rfl⟩ := h
  obtain ⟨items, hwritten, hlegal⟩ := hcontent.written
  have hitem : [item] = [.element name items] :=
    hs.unique (.element (isTag_of_isName hname) hwritten .nil)
  rw [List.singleton_injective hitem, Item.isLegal, hname, hlegal]
  rfl

/-- What is read as illegal markup is no document. -/
theorem not_isDocument_of_read? {item : Item} {s : List Char} (h : read? s = some [item])
    (hitem : item.isLegal = false) : ¬IsDocument s := by
  intro hs
  rw [hs.isLegal (read?_eq_some_iff.mp h)] at hitem
  cases hitem

example : IsDocument "<a>&lt;<b-1></b-1></a>".toList :=
  ⟨['a'], "&lt;<b-1></b-1>".toList, rfl,
    .reference (by decide : entities.lookup ['l', 't'] = some '<')
      (.element (by decide : isName "b-1".toList = true) .nil .nil), rfl⟩

end Testbench.Markup
