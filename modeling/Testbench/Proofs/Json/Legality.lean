import Testbench.Proofs.Json.Projection
import Testbench.Proofs.Markup.Legal

/-!
# Which documents have legal XML

What stays in a tag is alphanumeric or `_`, `-` or `.`, and that is more than the names of XML
allow: there are letters and figures that no name has, and a tag that is given for the root may be
empty or start with a figure. The texts of the scalars lose nothing but the five reserved
characters. So the XML of a document is legal for some names, root tags and texts only.

* `Item.content_spell`, `Item.isDocument_spell` : legal markup is written as a document.
* `isName_tagOf_iff`, `isName_member_iff` : which texts make tags that are names.
* `Node.isLegal_markup_iff` : which trees have legal markup.
* `Document.toXml_legal_iff` : **which documents have legal XML.**
* `Document.toXml_legal_of_ascii` : names of ASCII always do.
-/

set_option autoImplicit false

namespace Testbench

namespace Markup

open Json

mutual

/-- A legal item is content as it is written. -/
theorem Item.content_spell {rest : List Char} (item : Item) (h : item.isLegal = true)
    (hrest : Content rest) : Content (item.spell ++ rest) := by
  cases item with
  | char c =>
    rw [Item.spell]
    by_cases hc : c ∈ entities.map Prod.snd
    · obtain ⟨e, he, rfl⟩ := List.mem_map.mp hc
      obtain ⟨hescape, hname⟩ := escapeXmlChar_of_mem_entities e he
      rw [hescape]
      simpa using Content.reference hname hrest
    · obtain ⟨hescape, hopen, hentity⟩ := escapeXmlChar_of_not_mem_entities hc
      have hend : c ≠ '>' := by
        rintro rfl
        exact hc (by decide)
      rw [hescape]
      exact .char h (by simp [hopen, hentity, hend]) hrest
  | element tag content =>
    obtain ⟨htag, hcontent⟩ := Bool.and_eq_true_iff.mp h
    have hinside := content_spellAll content hcontent .nil
    rw [Item.spell]
    simpa [startTag, endTag] using Content.element htag hinside hrest

theorem content_spellAll {rest : List Char} (items : List Item) (h : allLegal items = true)
    (hrest : Content rest) : Content (spellAll items ++ rest) := by
  match items with
  | [] => exact hrest
  | item :: items =>
    obtain ⟨hitem, hitems⟩ := Bool.and_eq_true_iff.mp h
    rw [spellAll, List.append_assoc]
    exact item.content_spell hitem (content_spellAll items hitems hrest)

end

/-- A legal element is a document as it is written. -/
theorem isDocument_spell {tag : List Char} {content : List Item}
    (h : (Item.element tag content).isLegal = true) :
    IsDocument (Item.element tag content).spell := by
  obtain ⟨htag, hcontent⟩ := Bool.and_eq_true_iff.mp h
  refine ⟨tag, spellAll content, htag, ?_, ?_⟩
  · simpa using content_spellAll content hcontent .nil
  · simp [Item.spell, startTag, endTag]

end Markup

namespace Json

open Text Markup

/-! ## Tags that are names -/

variable {tag : List Char} {name : Name} {n : Node}

/-- What does not stay in a tag becomes a character that every name can hold. -/
theorem tagChar_iff {p : Char → Bool} (h : p '_' = true) (c : Char) :
    p (if isTagChar c then c else '_') = true ↔ (isTagChar c = true → p c = true) := by
  by_cases hc : isTagChar c = true
  · simp [hc]
  · simp [hc, h]

theorem all_tagOf_iff {s : List Char} :
    (tagOf s).all isNamePart = true ↔ ∀ c ∈ s, isTagChar c = true → isNamePart c = true := by
  rw [List.all_eq_true, tagOf, List.forall_mem_map]
  exact forall₂_congr fun c _ => tagChar_iff (by decide) c

/-- A text makes a name if it is not empty, and what stays of it fits into a name at its place. -/
theorem isName_tagOf_iff {s : List Char} :
    isName (tagOf s) = true ↔
      ∃ c rest, s = c :: rest ∧ (isTagChar c = true → isNameStart c = true) ∧
        ∀ d ∈ rest, isTagChar d = true → isNamePart d = true := by
  cases s with
  | nil => simp [tagOf, isName]
  | cons c rest =>
    have htag : tagOf (c :: rest) = (if isTagChar c then c else '_') :: tagOf rest := rfl
    rw [htag, isName, Bool.and_eq_true, all_tagOf_iff, tagChar_iff (by decide)]
    simp

theorem Node.isNameStart_letter (n : Node) : isNameStart n.letter = true := by
  cases n with
  | scalar kind => cases kind <;> rfl
  | object => rfl
  | array => rfl

/-- The tag that a root has by itself is a name. -/
theorem Node.isName_rootTag_none (n : Node) : isName (n.rootTag none) = true := by
  rw [rootTag, isName, n.isNameStart_letter]
  rfl

/-- What stays of the name of a member fits into a name of XML. -/
def Name.StaysLegal (name : Name) : Prop :=
  ∀ c ∈ name.text, isTagChar c = true → isNamePart c = true

theorem isName_member_iff : isName (n.letter :: tagOf name.text) = true ↔ name.StaysLegal := by
  rw [isName, n.isNameStart_letter, Bool.true_and]
  exact all_tagOf_iff

/-! ## Trees with legal markup -/

namespace Node

/-- The text of a scalar can stand in XML. -/
def HasLegalText : Node → Prop
  | scalar kind quote slice => ∀ c ∈ (scalar kind quote slice).text, isLegalChar c = true
  | _ => True

/-- The name of a node in its object, if it has one, and its text make legal markup. -/
def LegalEntry (e : Option Name × Node) : Prop :=
  (∀ name, e.1 = some name → name.StaysLegal) ∧ e.2.HasLegalText

/-- The name of a node adds to what is asked of the node. -/
theorem legal_preorder_some (name : Name) (n : Node) :
    (∀ e ∈ n.preorder (some name), LegalEntry e) ↔
      name.StaysLegal ∧ ∀ e ∈ n.preorder none, LegalEntry e := by
  cases n <;> simp [preorder, LegalEntry, and_assoc]

mutual

/-- The markup of a tree is legal if its tag is a name, and if every name and every text in it is
legal. -/
theorem isLegal_markup_iff (tag : List Char) (n : Node) :
    (n.markup tag).isLegal = true ↔
      isName tag = true ∧ ∀ e ∈ n.preorder none, LegalEntry e := by
  cases n with
  | scalar kind quote slice =>
    rw [markup, Item.isLegal, Bool.and_eq_true, allLegal_map_char, List.all_eq_true]
    simp [preorder, LegalEntry, HasLegalText]
  | object slice members =>
    rw [markup, Item.isLegal, Bool.and_eq_true, allLegal_membersMarkup_iff members]
    simp [preorder, LegalEntry, HasLegalText]
  | array slice elements =>
    rw [markup, Item.isLegal, Bool.and_eq_true, allLegal_elementsMarkup_iff elements]
    simp [preorder, LegalEntry, HasLegalText]

theorem allLegal_membersMarkup_iff (members : List (Name × Node)) :
    allLegal (membersMarkup members) = true ↔ ∀ e ∈ membersPreorder members, LegalEntry e := by
  match members with
  | [] => simp [membersMarkup, allLegal, membersPreorder]
  | (name, value) :: more =>
    rw [membersMarkup, allLegal, Bool.and_eq_true, isLegal_markup_iff _ value,
      allLegal_membersMarkup_iff more, isName_member_iff, membersPreorder, List.forall_mem_append,
      legal_preorder_some]

theorem allLegal_elementsMarkup_iff (elements : List Node) :
    allLegal (elementsMarkup elements) = true ↔ ∀ e ∈ elementsPreorder elements, LegalEntry e := by
  match elements with
  | [] => simp [elementsMarkup, allLegal, elementsPreorder]
  | value :: more =>
    have htag : isName [value.letter] = true := by
      rw [isName, value.isNameStart_letter]
      rfl
    rw [elementsMarkup, allLegal, Bool.and_eq_true, isLegal_markup_iff _ value,
      allLegal_elementsMarkup_iff more, elementsPreorder, List.forall_mem_append]
    simp [htag]

end

end Node

/-! ## Documents -/

namespace Document

/-- The XML of a document is legal just if its markup is. -/
theorem isDocument_toXml_iff (d : Document) (tag : Option String) :
    IsDocument (d.toXml tag).toList ↔ (d.markup tag).isLegal = true := by
  constructor
  · intro h
    exact h.isLegal (d.written_toXml tag)
  · intro h
    rw [toXml_eq, String.toList_ofList]
    rw [markup] at h ⊢
    cases hroot : d.root with
    | scalar =>
      rw [hroot] at h
      exact isDocument_spell h
    | object =>
      rw [hroot] at h
      exact isDocument_spell h
    | array =>
      rw [hroot] at h
      exact isDocument_spell h

/-- **Which documents have legal XML.** A text that is given as the tag of the root must make a name
by itself: it is not empty, and what stays of it fits into a name at its place. Of every other name
it is enough that what stays of it fits into a name behind the first character. The texts of the
scalars must hold nothing but legal characters, since all of it stays. -/
theorem toXml_legal_iff (d : Document) (tag : Option String) :
    read? (d.toXml tag).toList = some [d.markup tag] ∧
      (IsDocument (d.toXml tag).toList ↔ (d.markup tag).isLegal = true) ∧
      ((d.markup tag).isLegal = true ↔
        (∀ given, tag = some given → ∃ c rest, given.toList = c :: rest ∧
          (isTagChar c = true → isNameStart c = true) ∧
          ∀ c ∈ rest, isTagChar c = true → isNamePart c = true) ∧
        ∀ e ∈ d.root.preorder none,
          (∀ name, e.1 = some name → ∀ c ∈ name.text, isTagChar c = true → isNamePart c = true) ∧
          ∀ kind quote slice, e.2 = .scalar kind quote slice →
            ∀ c ∈ e.2.text, isLegalChar c = true) := by
  refine ⟨read?_eq_some_iff.mpr (d.written_toXml tag), d.isDocument_toXml_iff tag, ?_⟩
  have hroot : isName (d.root.rootTag (tag.map String.toList)) = true ↔
      ∀ given, tag = some given → ∃ c rest, given.toList = c :: rest ∧
        (isTagChar c = true → isNameStart c = true) ∧
        ∀ c ∈ rest, isTagChar c = true → isNamePart c = true := by
    cases tag with
    | none => simp [d.root.isName_rootTag_none]
    | some given => simp [Node.rootTag, isName_tagOf_iff]
  have hentry (e : Option Name × Node) : Node.LegalEntry e ↔
      (∀ name, e.1 = some name → ∀ c ∈ name.text, isTagChar c = true → isNamePart c = true) ∧
      ∀ kind quote slice, e.2 = .scalar kind quote slice →
        ∀ c ∈ e.2.text, isLegalChar c = true := by
    obtain ⟨name, n⟩ := e
    cases n <;> simp [Node.LegalEntry, Node.HasLegalText, Name.StaysLegal]
  rw [markup, Node.isLegal_markup_iff, hroot]
  simp only [hentry]

/-- Of the characters of ASCII, none stays that has no place in a name. -/
theorem isNamePart_of_lt {c : Char} (hc : c.toNat < 0x80) (htag : isTagChar c = true) :
    isNamePart c = true := by
  have hall : ∀ i : Fin 0x80, ∀ d, d = Char.ofNat i →
      (d.isAlphanum || d == '_' || d == '-' || d == '.') = true → isNamePart d = true := by
    rintro i d rfl
    revert i
    decide +kernel
  rw [isTagChar_of_lt hc] at htag
  exact hall ⟨c.toNat, hc⟩ c (Char.ofNat_toNat c).symm htag

/-- Names of ASCII and texts without illegal characters always have legal XML, if no tag is given
for the root. -/
theorem toXml_legal_of_ascii {d : Document}
    (hnames : ∀ e ∈ d.root.preorder none, ∀ name, e.1 = some name → ∀ c ∈ name.text, c.toNat < 0x80)
    (htexts : ∀ e ∈ d.root.preorder none, e.2.HasLegalText) : IsDocument (d.toXml none).toList := by
  rw [isDocument_toXml_iff, markup, Node.isLegal_markup_iff]
  refine ⟨d.root.isName_rootTag_none, fun e he => ⟨fun name hname c hc => ?_, htexts e he⟩⟩
  exact isNamePart_of_lt (hnames e he name hname c hc)

theorem exists_of_parse {α : Type} {f : Document → α} {mode : Mode} {source : String} {a : α}
    (h : (parse mode source).toOption.map f = some a) :
    ∃ d, parse mode source = .ok d ∧ f d = a := by
  cases hparse : parse mode source with
  | error e =>
    rw [hparse] at h
    cases h
  | ok d =>
    rw [hparse] at h
    exact ⟨d, rfl, Option.some.inj h⟩

/-- A superscript is a figure, and stays in a tag, but no name of XML has it. An empty tag for the
root and one that starts with a figure are no names either, and a control character in a text is not
legal. -/
theorem toXml_illegal :
    (∃ d, parse .strict "\x7b\"\u00b2\":1\x7d" = .ok d ∧
      d.toXml none = "<oroot><n\u00b2>1</n\u00b2></oroot>" ∧ isNamePart '\u00b2' = false ∧
      ¬IsDocument (d.toXml none).toList) ∧
    (∃ d, parse .strict "1" = .ok d ∧
      d.toXml (some "") = "<>1</>" ∧ ¬IsDocument (d.toXml (some "")).toList ∧
      d.toXml (some "7") = "<7>1</7>" ∧ ¬IsDocument (d.toXml (some "7")).toList) ∧
    ∃ d, parse .relaxed "'\\u0001'" = .ok d ∧ d.toXml none = "<sroot>\x01</sroot>" ∧
      ¬IsDocument (d.toXml none).toList := by
  have hfigure : (parse .strict "\x7b\"\u00b2\":1\x7d").toOption.map (·.toXml none) =
      some "<oroot><n\u00b2>1</n\u00b2></oroot>" := by decide +kernel
  have hroot : (parse .strict "1").toOption.map (fun d => (d.toXml (some ""), d.toXml (some "7"))) =
      some ("<>1</>", "<7>1</7>") := by decide +kernel
  have hcontrol : (parse .relaxed "'\\u0001'").toOption.map (·.toXml none) =
      some "<sroot>\x01</sroot>" := by decide +kernel
  obtain ⟨d, hd, hfigure⟩ := exists_of_parse hfigure
  obtain ⟨e, he, hroot⟩ := exists_of_parse hroot
  obtain ⟨f, hf, hcontrol⟩ := exists_of_parse hcontrol
  obtain ⟨hempty, hseven⟩ := Prod.mk.inj hroot
  refine ⟨⟨d, hd, hfigure, by decide, ?_⟩, ⟨e, he, hempty, ?_, hseven, ?_⟩, f, hf, hcontrol, ?_⟩
  · have hread : read? "<oroot><n\u00b2>1</n\u00b2></oroot>".toList =
        some [.element ['o', 'r', 'o', 'o', 't'] [.element ['n', '\u00b2'] [.char '1']]] := rfl
    exact hfigure ▸ not_isDocument_of_read? hread (by decide)
  · have hread : read? "<>1</>".toList = some [.element [] [.char '1']] := rfl
    exact hempty ▸ not_isDocument_of_read? hread (by decide)
  · have hread : read? "<7>1</7>".toList = some [.element ['7'] [.char '1']] := rfl
    exact hseven ▸ not_isDocument_of_read? hread (by decide)
  · have hread : read? "<sroot>\x01</sroot>".toList =
        some [.element ['s', 'r', 'o', 'o', 't'] [.char '\x01']] := rfl
    exact hcontrol ▸ not_isDocument_of_read? hread (by decide)

end Document

end Json

end Testbench
