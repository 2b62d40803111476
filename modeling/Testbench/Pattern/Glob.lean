import Testbench.Text.Case

/-!
# Globs

A glob describes whole texts: `*` any text, `?` one character, `[...]` one character among those
listed and `[^...]` one that is not, a backslash the character after it, and every other character
itself. Characters are compared by what a folding makes of them.

A class ends at the first `]` where an item could start. An item is a character or two characters
with a dash between them, the first and last of a range; a dash right before the closing bracket
is a character.

* `Glob.read?` : the tokens of a pattern; there are none if a class is not closed.
* `Glob.progress` : the tokens up to the next star against the front of a text.
* `Glob.matchesTokens` : whether a text is described by tokens; of the stars, only the latest is
  ever tried again.
* `Glob.isMatch` : whether a text is described by a pattern, letter case apart.
-/

namespace Testbench.Glob

open Text

/-- One element of a pattern. -/
inductive Token where
  | star
  | any
  | char (c : Char)
  | oneOf (negated : Bool) (ranges : List (Char × Char))
  deriving DecidableEq, Repr

/-- Where the reading of a class stands. -/
inductive ClassState where
  /-- Where an item could start. -/
  | fresh
  /-- After one character. -/
  | first (c : Char)
  /-- After one character and a dash. -/
  | dash (c : Char)
  deriving DecidableEq, Repr

/-- Where the reading of a pattern stands. -/
inductive State where
  | plain
  | escape
  /-- Right after an opening bracket. -/
  | opened
  /-- Inside a class, after these ranges, which are kept backwards. -/
  | inside (negated : Bool) (ranges : List (Char × Char)) (state : ClassState)
  deriving DecidableEq, Repr

/-- A character inside a class: the finished class, or where the reading then stands. -/
def stepClass (negated : Bool) (ranges : List (Char × Char)) (state : ClassState) (c : Char) :
    Token ⊕ State :=
  match state with
  | .fresh =>
    if c = ']' then .inl (.oneOf negated ranges.reverse)
    else .inr (.inside negated ranges (.first c))
  | .first d =>
    if c = ']' then .inl (.oneOf negated ((d, d) :: ranges).reverse)
    else if c = '-' then .inr (.inside negated ranges (.dash d))
    else .inr (.inside negated ((d, d) :: ranges) (.first c))
  | .dash d =>
    if c = ']' then .inl (.oneOf negated (('-', '-') :: (d, d) :: ranges).reverse)
    else .inr (.inside negated ((d, c) :: ranges) .fresh)

/-- A character outside a class: a finished token, or where the reading then stands. -/
def stepPlain (c : Char) : Token ⊕ State :=
  if c = '*' then .inl .star
  else if c = '?' then .inl .any
  else if c = '\\' then .inr .escape
  else if c = '[' then .inr .opened
  else .inl (.char c)

/-- A character of a pattern. -/
def step (state : State) (c : Char) : Token ⊕ State :=
  match state with
  | .plain => stepPlain c
  | .escape => .inl (.char c)
  | .opened => if c = '^' then .inr (.inside true [] .fresh) else stepClass false [] .fresh c
  | .inside negated ranges state => stepClass negated ranges state c

/-- The tokens of the rest of a pattern. A backslash at the very end is a character. -/
def readFrom? : State → List Char → Option (List Token)
  | .plain, [] => some []
  | .escape, [] => some [.char '\\']
  | .opened, [] => none
  | .inside .., [] => none
  | state, c :: rest =>
    match step state c with
    | .inl token => (readFrom? .plain rest).map (token :: ·)
    | .inr state => readFrom? state rest

/-- The tokens of a pattern, unless a class in it is not closed. -/
def read? (pattern : List Char) : Option (List Token) := readFrom? .plain pattern

/-- Whether a token that stands for one character stands for `c`. -/
def Token.accepts (fold : Char → Char) (token : Token) (c : Char) : Bool :=
  match token with
  | .star => false
  | .any => true
  | .char d => fold d == fold c
  | .oneOf negated ranges =>
    (ranges.any fun r => decide (fold r.1 ≤ fold c) && decide (fold c ≤ fold r.2)) != negated

/-- How far the tokens in front of the next star get in a text. -/
inductive Progress where
  /-- To the end of the text, and whether the tokens that are left are stars. -/
  | ended (stars : Bool)
  /-- To a star, with these tokens behind it and this text still to be described. -/
  | star (tokens : List Token) (text : List Char)
  /-- To a character that has no token, or one that does not accept it. -/
  | blocked
  deriving DecidableEq, Repr

/-- Sets tokens against the characters of a text one by one, up to a star or the end of the text. -/
def progress (fold : Char → Char) : List Token → List Char → Progress
  | tokens, [] => .ended (tokens.all (· == .star))
  | [], _ :: _ => .blocked
  | .star :: tokens, c :: text => .star tokens (c :: text)
  | token :: tokens, c :: text =>
    if token.accepts fold c then progress fold tokens text else .blocked

theorem length_lt_of_progress {fold : Char → Char} {tokens more : List Token}
    {text rest : List Char} (h : progress fold tokens text = .star more rest) :
    more.length < tokens.length := by
  fun_induction progress fold tokens text with
  | case1 => cases h
  | case2 => cases h
  | case3 => cases h; exact Nat.lt_succ_self _
  | case4 token tokens c text _ _ ih => exact Nat.lt_succ_of_lt (ih h)
  | case5 => cases h

/-- Whether the tokens behind a star describe what is left of a text after any part of it, the
shortest part first. When they get to another star, only that one is tried from there on. -/
def matchesBehind (fold : Char → Char) (tokens : List Token) (text : List Char) : Bool :=
  match _h : progress fold tokens text with
  | .ended stars => stars
  | .star more rest => matchesBehind fold more rest
  | .blocked =>
    match text with
    | [] => false
    | _ :: rest => matchesBehind fold tokens rest
termination_by (tokens.length, text.length)
decreasing_by
  · exact Prod.Lex.left _ _ (length_lt_of_progress _h)
  · exact Prod.Lex.right _ (Nat.lt_succ_self _)

/-- Whether the tokens describe the whole text. -/
def matchesTokens (fold : Char → Char) (tokens : List Token) (text : List Char) : Bool :=
  match progress fold tokens text with
  | .ended stars => stars
  | .star more rest => matchesBehind fold more rest
  | .blocked => false

/-- Whether the pattern describes the whole text, letter case apart. A pattern with an open class
describes nothing. -/
def isMatch (pattern text : String) : Bool :=
  match read? pattern.toList with
  | some tokens => matchesTokens foldChar tokens text.toList
  | none => false

end Testbench.Glob
