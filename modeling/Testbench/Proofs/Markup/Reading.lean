import Mathlib

/-!
# Reading markup

Markup is characters and elements, where an element has a tag and holds characters and elements in
turn. In a text, elements stand between start and end tags, and the characters that markup is made
of are entities. The reader goes through a text once, character by character, and knows nothing
but the elements that are open and what they hold so far.

* `Item`, `Written` : the characters and elements of a text.
* `Place`, `State` : how far a text was read.
* `State.Reached.step`, `State.Reached.run` : **what was read is what the text up to here says.**
* `run_entity`, `run_mark` : entities and tags are read as a whole.
* `Written.run` : every text of markup is read to its end.
* `read?_eq_some_iff` : **the reader reads just what is written.**
* `Written.unique` : a text is markup in one way at most.
-/

set_option autoImplicit false

namespace Testbench.Markup

/-- A character, or an element with its tag and what it holds. -/
inductive Item where
  | char (c : Char)
  | element (tag : List Char) (content : List Item)

/-- The entities and the characters that they stand for. -/
def entities : List (List Char × Char) :=
  [(['a', 'm', 'p'], '&'), (['l', 't'], '<'), (['g', 't'], '>'), (['q', 'u', 'o', 't'], '\"'),
   (['a', 'p', 'o', 's'], '\'')]

/-- The characters that a tag cannot hold. -/
def IsPlain (s : List Char) : Prop := ∀ c ∈ s, c ≠ '<' ∧ c ≠ '>'

/-- A tag does not begin like an end tag. It can be empty. -/
def IsTag (tag : List Char) : Prop := IsPlain tag ∧ tag.head? ≠ some '/'

/-- The items that a text is written with. -/
inductive Written : List Item → List Char → Prop where
  | nil : Written [] []
  | literal {c : Char} {items : List Item} {s : List Char} (hopen : c ≠ '<') (hentity : c ≠ '&')
      (h : Written items s) : Written (.char c :: items) (c :: s)
  | entity {name : List Char} {c : Char} {items : List Item} {s : List Char}
      (hname : entities.lookup name = some c) (h : Written items s) :
      Written (.char c :: items) ('&' :: (name ++ ';' :: s))
  | element {tag : List Char} {content items : List Item} {s t : List Char} (htag : IsTag tag)
      (hcontent : Written content s) (h : Written items t) :
      Written (.element tag content :: items)
        ('<' :: (tag ++ '>' :: (s ++ '<' :: '/' :: (tag ++ '>' :: t))))

/-- One text of markup after another. -/
theorem Written.append {items more : List Item} {s t : List Char} (h : Written items s)
    (ht : Written more t) : Written (items ++ more) (s ++ t) := by
  induction h with
  | nil => exact ht
  | literal hopen hentity _ ih => exact .literal hopen hentity ih
  | entity hname _ ih => simpa using Written.entity hname ih
  | element htag hcontent _ _ ih => simpa using Written.element htag hcontent ih

/-! ## The reader -/

/-- A place between items: those in front of it, and the elements around it. -/
inductive Place where
  | outside (items : List Item)
  | inside (around : Place) (tag : List Char) (items : List Item)

namespace Place

/-- The place after some more items. -/
def extend (more : List Item) : Place → Place
  | outside items => outside (items ++ more)
  | inside around tag items => inside around tag (items ++ more)

@[simp]
theorem extend_nil (p : Place) : p.extend [] = p := by
  cases p <;> simp [extend]

@[simp]
theorem extend_extend (items more : List Item) (p : Place) :
    (p.extend items).extend more = p.extend (items ++ more) := by
  cases p <;> simp [extend]

/-- The place after an end tag. It must be that of the innermost element around. -/
def close? (tag : List Char) : Place → Option Place
  | outside _ => none
  | inside around opened items =>
    if tag = opened then some (around.extend [.element opened items]) else none

/-- The place after a start or an end tag. -/
def mark? (p : Place) (tag : List Char) : Option Place :=
  if tag.head? = some '/' then p.close? tag.tail else some (inside p tag [])

end Place

/-- How far a text was read. -/
inductive State where
  | between (place : Place)
  /-- Within an entity, after the start of its name. -/
  | entity (place : Place) (name : List Char)
  /-- Within a start or an end tag, after the start of it. -/
  | tag (place : Place) (tag : List Char)

/-- The state after one more character. -/
def State.step : State → Char → Option State
  | between place, c =>
    if c = '<' then some (tag place [])
    else if c = '&' then some (entity place [])
    else some (between (place.extend [.char c]))
  | entity place name, c =>
    if c = ';' then (entities.lookup name).map fun d => between (place.extend [.char d])
    else some (entity place (name ++ [c]))
  | tag place name, c =>
    if c = '<' then none
    else if c = '>' then (place.mark? name).map between
    else some (tag place (name ++ [c]))

/-- Read a text. All its elements must have been closed. -/
def read? (s : List Char) : Option (List Item) :=
  match s.foldlM State.step (.between (.outside [])) with
  | some (.between (.outside items)) => some items
  | _ => none

/-! ## What was read is written -/

/-- The text up to a place. -/
inductive Place.Reached : Place → List Char → Prop where
  | outside {items : List Item} {s : List Char} (h : Written items s) : Reached (outside items) s
  | inside {around : Place} {tag : List Char} {items : List Item} {s t : List Char}
      (haround : Reached around s) (htag : IsTag tag) (h : Written items t) :
      Reached (inside around tag items) (s ++ '<' :: (tag ++ '>' :: t))

namespace Place.Reached

variable {p q : Place} {s t tag : List Char} {items : List Item}

theorem extend (h : p.Reached s) (ht : Written items t) : (p.extend items).Reached (s ++ t) := by
  cases h with
  | outside hs => exact .outside (hs.append ht)
  | inside haround htag hs =>
    simpa [Place.extend] using Place.Reached.inside haround htag (hs.append ht)

/-- With its end tag, an element is one more item of what is around it. -/
theorem close (h : p.Reached s) (hq : p.close? tag = some q) :
    q.Reached (s ++ '<' :: '/' :: (tag ++ ['>'])) := by
  cases h with
  | outside => cases hq
  | inside haround htag hs =>
    rw [close?] at hq
    split at hq
    · cases hq
      subst tag
      simpa using haround.extend (Written.element htag hs .nil)
    · cases hq

theorem mark (h : p.Reached s) (hplain : IsPlain tag) (hq : p.mark? tag = some q) :
    q.Reached (s ++ '<' :: (tag ++ ['>'])) := by
  rw [mark?] at hq
  split at hq
  · rename_i hhead
    obtain ⟨name, rfl⟩ := List.head?_eq_some_iff.mp hhead
    exact h.close hq
  · rename_i hhead
    cases hq
    exact .inside h ⟨hplain, hhead⟩ .nil

end Place.Reached

namespace State

/-- The text up to a state. -/
inductive Reached : State → List Char → Prop where
  | between {place : Place} {s : List Char} (h : place.Reached s) : Reached (between place) s
  | entity {place : Place} {s name : List Char} (h : place.Reached s) :
      Reached (entity place name) (s ++ '&' :: name)
  | tag {place : Place} {s name : List Char} (h : place.Reached s) (hplain : IsPlain name) :
      Reached (tag place name) (s ++ '<' :: name)

/-- One more character of the text leads to the next state. -/
theorem Reached.step {st next : State} {s : List Char} {c : Char} (h : st.Reached s)
    (hnext : st.step c = some next) : next.Reached (s ++ [c]) := by
  cases h with
  | between hplace =>
    rw [State.step] at hnext
    split_ifs at hnext with hopen hentity
    · cases hnext
      rw [hopen]
      exact .tag hplace (by simp [IsPlain])
    · cases hnext
      rw [hentity]
      exact .entity hplace
    · cases hnext
      exact .between (hplace.extend (.literal hopen hentity .nil))
  | entity hplace =>
    rw [State.step] at hnext
    split_ifs at hnext with hend
    · obtain ⟨d, hname, rfl⟩ := Option.map_eq_some_iff.mp hnext
      rw [hend]
      exact .between (by simpa using hplace.extend (.entity hname .nil))
    · cases hnext
      simpa using Reached.entity hplace
  | tag hplace hplain =>
    rw [State.step] at hnext
    split_ifs at hnext with hopen hend
    · obtain ⟨q, hq, rfl⟩ := Option.map_eq_some_iff.mp hnext
      rw [hend]
      exact .between (by simpa using hplace.mark hplain hq)
    · cases hnext
      have hlonger := Reached.tag hplace (List.forall_mem_append.mpr
        ⟨hplain, List.forall_mem_singleton.mpr ⟨hopen, hend⟩⟩)
      simpa using hlonger

/-- All of a text leads to the last state. -/
theorem Reached.run {st last : State} {s t : List Char} (h : st.Reached s)
    (hlast : t.foldlM State.step st = some last) : last.Reached (s ++ t) := by
  induction t generalizing st s with
  | nil =>
    cases hlast
    simpa using h
  | cons c t ih =>
    obtain ⟨next, hnext, hlast⟩ := Option.bind_eq_some_iff.mp (List.foldlM_cons.symm.trans hlast)
    simpa using ih (h.step hnext) hlast

end State

/-! ## What is written is read -/

open State

theorem ne_semicolon_of_lookup_entities {name : List Char} {c : Char}
    (h : entities.lookup name = some c) : ';' ∉ name := by
  have hmem : (name, c) ∈ entities := by
    obtain ⟨before, after, hentities, -⟩ := List.lookup_eq_some_iff.mp h
    rw [hentities]
    simp
  have hall : ∀ e ∈ entities, ';' ∉ e.1 := by decide
  exact hall _ hmem

/-- The name of an entity is gathered. -/
theorem run_name {name : List Char} (h : ';' ∉ name) (place : Place) (before : List Char) :
    name.foldlM State.step (.entity place before) = some (.entity place (before ++ name)) := by
  induction name generalizing before with
  | nil => simp
  | cons c name ih =>
    obtain ⟨hc, hname⟩ := not_or.mp (mt List.mem_cons.mpr h)
    rw [List.foldlM_cons, State.step, if_neg (Ne.symm hc)]
    simpa using ih hname (before ++ [c])

/-- A tag is gathered. -/
theorem run_tag {name : List Char} (h : IsPlain name) (place : Place) (before : List Char) :
    name.foldlM State.step (.tag place before) = some (.tag place (before ++ name)) := by
  induction name generalizing before with
  | nil => simp
  | cons c name ih =>
    obtain ⟨⟨hopen, hend⟩, hname⟩ := List.forall_mem_cons.mp h
    rw [List.foldlM_cons, State.step, if_neg hopen, if_neg hend]
    simpa using ih hname (before ++ [c])

/-- An entity is read as the character that it stands for. -/
theorem run_entity {name : List Char} {c : Char} (h : entities.lookup name = some c) (place : Place)
    (rest : List Char) :
    ('&' :: (name ++ ';' :: rest)).foldlM State.step (.between place) =
      rest.foldlM State.step (.between (place.extend [.char c])) := by
  have hstart : State.step (.between place) '&' = some (.entity place []) := rfl
  have hend : State.step (.entity place name) ';' = some (.between (place.extend [.char c])) := by
    rw [State.step, if_pos rfl, h, Option.map_some]
  rw [List.foldlM_cons, hstart, Option.bind_eq_bind, Option.bind_some, List.foldlM_append,
    run_name (ne_semicolon_of_lookup_entities h), Option.bind_eq_bind, Option.bind_some,
    List.nil_append, List.foldlM_cons, hend]
  rfl

/-- A start or an end tag is read as the place that it leads to. -/
theorem run_mark {tag : List Char} (h : IsPlain tag) (place : Place) (rest : List Char) :
    ('<' :: (tag ++ '>' :: rest)).foldlM State.step (.between place) =
      (place.mark? tag).bind fun next => rest.foldlM State.step (.between next) := by
  have hstart : State.step (.between place) '<' = some (.tag place []) := rfl
  have hend : State.step (.tag place tag) '>' = (place.mark? tag).map .between := rfl
  rw [List.foldlM_cons, hstart, Option.bind_eq_bind, Option.bind_some, List.foldlM_append,
    run_tag h, Option.bind_eq_bind, Option.bind_some, List.nil_append, List.foldlM_cons, hend]
  cases place.mark? tag <;> rfl

/-- A start tag opens an element. -/
theorem Place.mark?_start {tag : List Char} (h : IsTag tag) (place : Place) :
    place.mark? tag = some (.inside place tag []) :=
  if_neg h.2

/-- The end tag of an element makes it an item of what is around it. -/
theorem Place.mark?_end (place : Place) (tag : List Char) (content : List Item) :
    (Place.inside place tag content).mark? ('/' :: tag) =
      some (place.extend [.element tag content]) := by
  simp [mark?, close?]

/-- A text of markup leads to the place after its items. -/
theorem Written.run {items : List Item} {s : List Char} (h : Written items s) (place : Place) :
    s.foldlM State.step (.between place) = some (.between (place.extend items)) := by
  induction h generalizing place with
  | nil => simp
  | @literal c items s hopen hentity _ ih =>
    rw [List.foldlM_cons, State.step, if_neg hopen, if_neg hentity]
    simpa using ih (place.extend [.char c])
  | entity hname _ ih =>
    rw [run_entity hname, ih]
    simp
  | @element tag content items s t htag _ _ ihcontent ih =>
    have hslash : IsPlain ('/' :: tag) := List.forall_mem_cons.mpr ⟨by decide, htag.1⟩
    -- the content is read inside of the element, and what follows outside of it again
    rw [run_mark htag.1, Place.mark?_start htag, Option.bind_some, List.foldlM_append, ihcontent,
      Option.bind_eq_bind, Option.bind_some, Place.extend, List.nil_append, ← List.cons_append,
      run_mark hslash, Place.mark?_end, Option.bind_some, ih]
    simp

/-- **The reader reads just what is written.** -/
theorem read?_eq_some_iff {s : List Char} {items : List Item} :
    read? s = some items ↔ Written items s := by
  constructor
  · intro h
    rw [read?] at h
    split at h
    · rename_i read hlast
      cases h
      have hread := (Reached.between (.outside .nil)).run hlast
      cases hread with
      | between hplace =>
        cases hplace with
        | outside hs => exact hs
    · cases h
  · intro h
    rw [read?, h.run]
    rfl

/-- A text is markup in one way at most. -/
theorem Written.unique {items more : List Item} {s : List Char} (h : Written items s)
    (hmore : Written more s) : items = more :=
  Option.some.inj ((read?_eq_some_iff.mpr h).symm.trans (read?_eq_some_iff.mpr hmore))

example : read? "<a>&lt;<b></b></a>".toList =
    some [.element ['a'] [.char '<', .element ['b'] []]] := rfl

example : read? "<a><b></a></b>".toList = none := rfl

end Testbench.Markup
