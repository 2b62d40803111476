import Testbench.Pattern.Glob

/-!
# The language of a glob

What a glob says is fixed on the pattern as it is written, without tokens: which elements it is
spelled of, and which texts these describe. The reader is shown to make tokens of just that.

* `Glob.Items` : the items of a class, up to its closing bracket.
* `Glob.Element`, `Glob.Spelled` : what stands for one character, and how it is written.
* `Glob.Language` : the texts that a pattern describes.
* `Glob.OpenClass` : the patterns with a class that nothing closes.
* `Glob.readFrom?_eq_none_iff` : the reader gives no tokens just for these.
* `Glob.Describes` : the texts that a list of tokens describes.
* `Glob.language_iff` : the texts of a pattern are those that its tokens describe.
-/

set_option autoImplicit false

namespace Testbench.Glob

/-! ## Patterns as they are written -/

/-- What a class lists: one character, or all from one to another. -/
inductive Item where
  | char (c : Char)
  | range (first last : Char)

/-- The item lists the character, when both are folded. -/
def Item.Lists (fold : Char → Char) : Item → Char → Prop
  | char d, c => fold c = fold d
  | range first last, c => fold first ≤ fold c ∧ fold c ≤ fold last

/-- After the first character of a range: a dash and a last character, which cannot be `]`. -/
def OpensRange (s : List Char) : Prop := ∃ last more, last ≠ ']' ∧ s = '-' :: last :: more

/-- The items from a place in a class on, and what is left of the pattern after its bracket, the
first `]` where an item could start. -/
inductive Items : List Char → List Item → List Char → Prop where
  | close {rest : List Char} : Items (']' :: rest) [] rest
  | range {first last : Char} {s rest : List Char} {items : List Item} :
      first ≠ ']' → last ≠ ']' → Items s items rest →
      Items (first :: '-' :: last :: s) (.range first last :: items) rest
  | char {c : Char} {s rest : List Char} {items : List Item} :
      c ≠ ']' → ¬ OpensRange s → Items s items rest → Items (c :: s) (.char c :: items) rest

/-- What stands for one character. -/
inductive Element where
  | any
  | char (c : Char)
  | oneOf (items : List Item)
  | noneOf (items : List Item)

/-- The element stands for the character. -/
def Element.Accepts (fold : Char → Char) : Element → Char → Prop
  | any, _ => True
  | char d, c => fold c = fold d
  | oneOf items, c => ∃ item ∈ items, item.Lists fold c
  | noneOf items, c => ∀ item ∈ items, ¬ item.Lists fold c

/-- The class that follows a bracket, and what is left of the pattern after it. -/
inductive Class : List Char → Element → List Char → Prop where
  | oneOf {s rest : List Char} {items : List Item} :
      s.head? ≠ some '^' → Items s items rest → Class s (.oneOf items) rest
  | noneOf {s rest : List Char} {items : List Item} :
      Items s items rest → Class ('^' :: s) (.noneOf items) rest

/-- The element at the front of a pattern, and what is left of the pattern after it. -/
inductive Spelled : List Char → Element → List Char → Prop where
  | any {rest : List Char} : Spelled ('?' :: rest) .any rest
  | escaped {c : Char} {rest : List Char} : Spelled ('\\' :: c :: rest) (.char c) rest
  /-- A backslash at the end is itself. -/
  | backslash : Spelled ['\\'] (.char '\\') []
  | class {s rest : List Char} {e : Element} : Class s e rest → Spelled ('[' :: s) e rest
  | char {c : Char} {rest : List Char} :
      c ∉ ['*', '?', '\\', '['] → Spelled (c :: rest) (.char c) rest

/-- The texts that a pattern describes. -/
inductive Language (fold : Char → Char) : (pattern text : List Char) → Prop where
  | nil : Language fold [] []
  | star {rest s t : List Char} : Language fold rest t → Language fold ('*' :: rest) (s ++ t)
  | element {pattern rest t : List Char} {e : Element} {c : Char} :
      Spelled pattern e rest → e.Accepts fold c → Language fold rest t →
      Language fold pattern (c :: t)

/-- The patterns with a class that nothing closes. -/
inductive OpenClass : (pattern : List Char) → Prop where
  | here {s : List Char} : (∀ e rest, ¬ Class s e rest) → OpenClass ('[' :: s)
  | star {rest : List Char} : OpenClass rest → OpenClass ('*' :: rest)
  | element {pattern rest : List Char} {e : Element} :
      Spelled pattern e rest → OpenClass rest → OpenClass pattern

/-! ## What is left is shorter -/

theorem Items.length_lt {s rest : List Char} {items : List Item} (h : Items s items rest) :
    rest.length < s.length := by
  induction h with
  | close => exact Nat.lt_succ_self _
  | range _ _ _ ih =>
    simp only [List.length_cons]
    omega
  | char _ _ _ ih =>
    simp only [List.length_cons]
    omega

theorem Class.length_lt {s rest : List Char} {e : Element} (h : Class s e rest) :
    rest.length < s.length := by
  cases h with
  | oneOf _ hi => exact hi.length_lt
  | noneOf hi => exact Nat.lt_succ_of_lt hi.length_lt

theorem Spelled.length_lt {pattern rest : List Char} {e : Element}
    (h : Spelled pattern e rest) : rest.length < pattern.length := by
  cases h with
  | any => exact Nat.lt_succ_self _
  | escaped => exact Nat.lt_succ_of_lt (Nat.lt_succ_self _)
  | backslash => exact Nat.lt_succ_self _
  | «class» hc => exact Nat.lt_succ_of_lt hc.length_lt
  | char => exact Nat.lt_succ_self _

/-- Every pattern starts with a star, with an element or with a class that nothing closes. -/
theorem spelled_cases (c : Char) (s : List Char) :
    c = '*' ∨ (∃ e rest, Spelled (c :: s) e rest) ∨ (c = '[' ∧ ∀ e rest, ¬ Class s e rest) := by
  by_cases hstar : c = '*'
  · exact .inl hstar
  by_cases hany : c = '?'
  · subst hany
    exact .inr (.inl ⟨_, _, .any⟩)
  by_cases hescape : c = '\\'
  · subst hescape
    cases s with
    | nil => exact .inr (.inl ⟨_, _, .backslash⟩)
    | cons d s => exact .inr (.inl ⟨_, _, .escaped⟩)
  by_cases hclass : c = '['
  · subst hclass
    by_cases hclosed : ∃ e rest, Class s e rest
    · obtain ⟨e, rest, hc⟩ := hclosed
      exact .inr (.inl ⟨e, rest, .class hc⟩)
    · exact .inr (.inr ⟨rfl, fun e rest hc => hclosed ⟨e, rest, hc⟩⟩)
  · have hplain : c ∉ ['*', '?', '\\', '['] := by
      simp only [List.mem_cons, List.not_mem_nil, or_false]
      exact fun h => h.elim hstar fun h => h.elim hany fun h => h.elim hescape hclass
    exact .inr (.inl ⟨_, _, .char hplain⟩)

/-! ## The tokens of items and elements -/

/-- The range that the reader keeps for an item. -/
def Item.bounds : Item → Char × Char
  | char c => (c, c)
  | range first last => (first, last)

def Element.token : Element → Token
  | any => .any
  | char c => .char c
  | oneOf items => .oneOf false (items.map Item.bounds)
  | noneOf items => .oneOf true (items.map Item.bounds)

variable {fold : Char → Char}

theorem Item.lists_iff {item : Item} {c : Char} :
    item.Lists fold c ↔ fold item.bounds.1 ≤ fold c ∧ fold c ≤ fold item.bounds.2 := by
  cases item with
  | char d =>
    constructor
    · intro h
      have heq : fold c = fold d := h
      rw [heq]
      exact ⟨Char.le_refl _, Char.le_refl _⟩
    · rintro ⟨hle, hge⟩
      exact Char.le_antisymm hge hle
  | range first last => exact Iff.rfl

theorem any_bounds_iff {items : List Item} {c : Char} :
    ((items.map Item.bounds).any fun r =>
      decide (fold r.1 ≤ fold c) && decide (fold c ≤ fold r.2)) = true ↔
      ∃ item ∈ items, item.Lists fold c := by
  simp only [List.any_map, List.any_eq_true, Function.comp_apply, Bool.and_eq_true,
    decide_eq_true_eq, Item.lists_iff]

/-- The token of an element stands for the same characters. -/
theorem Element.accepts_token {e : Element} {c : Char} :
    e.token.accepts fold c = true ↔ e.Accepts fold c := by
  cases e with
  | any => simp [token, Token.accepts, Accepts]
  | char d =>
    simp only [token, Token.accepts, Accepts, beq_iff_eq]
    exact eq_comm
  | oneOf items =>
    simp only [token, Token.accepts, Accepts, Bool.bne_false]
    exact any_bounds_iff
  | noneOf items =>
    simp only [token, Token.accepts, Accepts, Bool.bne_true]
    rw [Bool.not_eq_true', ← Bool.not_eq_true, any_bounds_iff]
    simp only [not_exists, not_and]

theorem Element.token_ne_star (e : Element) : e.token ≠ .star := by
  cases e <;> simp [token]

/-! ## Reading a class -/

variable {negated : Bool}

/-- After a character that is no range, the reader is where an item could start. -/
theorem readFrom?_first {ranges : List (Char × Char)} {c : Char} {s : List Char}
    (h : ¬ OpensRange s) :
    readFrom? (.inside negated ranges (.first c)) s =
      readFrom? (.inside negated ((c, c) :: ranges) .fresh) s := by
  cases s with
  | nil => rfl
  | cons d s =>
    by_cases hclose : d = ']'
    · subst hclose
      rfl
    by_cases hdash : d = '-'
    · subst hdash
      cases s with
      | nil => rfl
      | cons last s =>
        have hlast : last = ']' := by
          apply Classical.byContradiction
          intro hlast
          exact h ⟨last, s, hlast, rfl⟩
        subst hlast
        rfl
    · simp [readFrom?, step, stepClass, hclose, hdash]

theorem readFrom?_range {ranges : List (Char × Char)} {first last : Char} {s : List Char}
    (h : last ≠ ']') :
    readFrom? (.inside negated ranges (.first first)) ('-' :: last :: s) =
      readFrom? (.inside negated ((first, last) :: ranges) .fresh) s := by
  simp [readFrom?, step, stepClass, h]

theorem readFrom?_fresh {ranges : List (Char × Char)} {c : Char} {s : List Char} (h : c ≠ ']') :
    readFrom? (.inside negated ranges .fresh) (c :: s) =
      readFrom? (.inside negated ranges (.first c)) s := by
  simp [readFrom?, step, stepClass, h]

theorem Items.readFrom?_eq {ranges : List (Char × Char)} {s rest : List Char} {items : List Item}
    (h : Items s items rest) :
    readFrom? (.inside negated ranges .fresh) s = (readFrom? .plain rest).map
      (.oneOf negated (ranges.reverse ++ items.map Item.bounds) :: ·) := by
  induction h generalizing ranges with
  | close => simp [readFrom?, step, stepClass]
  | range hfirst hlast _ ih =>
    rw [readFrom?_fresh hfirst, readFrom?_range hlast, ih]
    simp [Item.bounds]
  | char hc hr _ ih =>
    rw [readFrom?_fresh hc, readFrom?_first hr, ih]
    simp [Item.bounds]

/-- A class that nothing closes is read to the end of the pattern. -/
theorem readFrom?_inside_eq_none {ranges : List (Char × Char)} (s : List Char)
    (h : ∀ items rest, ¬ Items s items rest) :
    readFrom? (.inside negated ranges .fresh) s = none := by
  match s with
  | [] => rfl
  | c :: s =>
    have hc : c ≠ ']' := by
      rintro rfl
      exact h _ _ .close
    rw [readFrom?_fresh hc]
    by_cases hr : OpensRange s
    · obtain ⟨last, more, hlast, rfl⟩ := hr
      rw [readFrom?_range hlast]
      exact readFrom?_inside_eq_none more fun items rest hi => h _ _ (.range hc hlast hi)
    · rw [readFrom?_first hr]
      exact readFrom?_inside_eq_none s fun items rest hi => h _ _ (.char hc hr hi)
termination_by s.length

theorem readFrom?_opened {s : List Char} (h : s.head? ≠ some '^') :
    readFrom? .opened s = readFrom? (.inside false [] .fresh) s := by
  cases s with
  | nil => rfl
  | cons c s =>
    have hc : c ≠ '^' := by
      rintro rfl
      exact h rfl
    simp [readFrom?, step, hc]

theorem readFrom?_opened_caret (s : List Char) :
    readFrom? .opened ('^' :: s) = readFrom? (.inside true [] .fresh) s := rfl

theorem Class.readFrom?_eq {s rest : List Char} {e : Element} (h : Class s e rest) :
    readFrom? .opened s = (readFrom? .plain rest).map (e.token :: ·) := by
  cases h with
  | oneOf hs hi =>
    rw [readFrom?_opened hs, hi.readFrom?_eq]
    rfl
  | noneOf hi =>
    rw [readFrom?_opened_caret, hi.readFrom?_eq]
    rfl

theorem readFrom?_opened_eq_none {s : List Char} (h : ∀ e rest, ¬ Class s e rest) :
    readFrom? .opened s = none := by
  by_cases hs : s.head? = some '^'
  · obtain ⟨s, rfl⟩ : ∃ t, s = '^' :: t := by
      cases s with
      | nil => cases hs
      | cons c t =>
        cases hs
        exact ⟨t, rfl⟩
    rw [readFrom?_opened_caret]
    exact readFrom?_inside_eq_none s fun items rest hi => h _ _ (.noneOf hi)
  · rw [readFrom?_opened hs]
    exact readFrom?_inside_eq_none s fun items rest hi => h _ _ (.oneOf hs hi)

/-! ## Reading a pattern -/

theorem readFrom?_star (s : List Char) :
    readFrom? .plain ('*' :: s) = (readFrom? .plain s).map (.star :: ·) := rfl

theorem Spelled.readFrom?_eq {pattern rest : List Char} {e : Element}
    (h : Spelled pattern e rest) :
    readFrom? .plain pattern = (readFrom? .plain rest).map (e.token :: ·) := by
  cases h with
  | any => rfl
  | escaped => rfl
  | backslash => rfl
  | «class» hc => exact hc.readFrom?_eq
  | @char c rest hc =>
    simp only [List.mem_cons, List.not_mem_nil, or_false, not_or] at hc
    simp [readFrom?, step, stepPlain, hc, Element.token]

/-- **The reader gives no tokens just for the patterns with an open class.** -/
theorem readFrom?_eq_none_iff {pattern : List Char} :
    readFrom? .plain pattern = none ↔ OpenClass pattern := by
  constructor
  · intro h
    induction hn : pattern.length using Nat.strongRecOn generalizing pattern with
    | ind n ih =>
      cases pattern with
      | nil => cases h
      | cons c s =>
        rcases spelled_cases c s with rfl | ⟨e, rest, he⟩ | ⟨rfl, hopen⟩
        · rw [readFrom?_star, Option.map_eq_none_iff] at h
          exact .star (ih _ (hn ▸ Nat.lt_succ_self _) h rfl)
        · rw [he.readFrom?_eq, Option.map_eq_none_iff] at h
          exact .element he (ih _ (hn ▸ he.length_lt) h rfl)
        · exact .here hopen
  · intro h
    induction h with
    | here hopen => exact readFrom?_opened_eq_none hopen
    | star _ ih => rw [readFrom?_star, ih]; rfl
    | element he _ ih => rw [he.readFrom?_eq, ih]; rfl

/-! ## The texts of tokens -/

/-- The texts that tokens describe. -/
def Describes (fold : Char → Char) : List Token → List Char → Prop
  | [], text => text = []
  | .star :: tokens, text => ∃ s t, text = s ++ t ∧ Describes fold tokens t
  | token :: tokens, text =>
    ∃ c t, text = c :: t ∧ token.accepts fold c = true ∧ Describes fold tokens t

theorem describes_cons {token : Token} (h : token ≠ .star) {tokens : List Token}
    {text : List Char} :
    Describes fold (token :: tokens) text ↔
      ∃ c t, text = c :: t ∧ token.accepts fold c = true ∧ Describes fold tokens t := by
  cases token with
  | star => exact absurd rfl h
  | any => exact Iff.rfl
  | char => exact Iff.rfl
  | oneOf => exact Iff.rfl

/-- **The texts of a pattern are those that its tokens describe.** -/
theorem language_iff {pattern text : List Char} :
    Language fold pattern text ↔
      ∃ tokens, readFrom? .plain pattern = some tokens ∧ Describes fold tokens text := by
  constructor
  · intro h
    induction h with
    | nil => exact ⟨[], rfl, rfl⟩
    | @star rest s t _ ih =>
      obtain ⟨tokens, hread, hdescribes⟩ := ih
      refine ⟨.star :: tokens, ?_, s, t, rfl, hdescribes⟩
      rw [readFrom?_star, hread]
      rfl
    | @element pattern rest t e c he hc _ ih =>
      obtain ⟨tokens, hread, hdescribes⟩ := ih
      refine ⟨e.token :: tokens, ?_, ?_⟩
      · rw [he.readFrom?_eq, hread]
        rfl
      · rw [describes_cons e.token_ne_star]
        exact ⟨c, t, rfl, Element.accepts_token.mpr hc, hdescribes⟩
  · rintro ⟨tokens, hread, hdescribes⟩
    induction hn : pattern.length using Nat.strongRecOn
      generalizing pattern tokens text with
    | ind n ih =>
      cases pattern with
      | nil =>
        cases hread
        cases hdescribes
        exact .nil
      | cons c s =>
        rcases spelled_cases c s with rfl | ⟨e, rest, he⟩ | ⟨rfl, hopen⟩
        · rw [readFrom?_star] at hread
          obtain ⟨more, hmore, rfl⟩ := Option.map_eq_some_iff.mp hread
          obtain ⟨front, t, rfl, ht⟩ := hdescribes
          exact .star (ih _ (hn ▸ Nat.lt_succ_self _) more hmore ht rfl)
        · rw [he.readFrom?_eq] at hread
          obtain ⟨more, hmore, rfl⟩ := Option.map_eq_some_iff.mp hread
          obtain ⟨d, t, rfl, hd, ht⟩ := (describes_cons e.token_ne_star).mp hdescribes
          exact .element he (Element.accepts_token.mp hd)
            (ih _ (hn ▸ he.length_lt) more hmore ht rfl)
        · have hnone : readFrom? .plain ('[' :: s) = none := readFrom?_opened_eq_none hopen
          rw [hnone] at hread
          cases hread

end Testbench.Glob
