/-!
# Tokens of a command line

A line is cut into tokens at spaces and tabs. A quoted span keeps them; a semicolon outside one
ends the line; a backslash escapes quotes, semicolons and itself outside a span, and inside a span
only ends it when it stands before the closing quote. A line whose first character is `;` or `:`
is a comment or a label and has no tokens of its own.

* `Line.Scan` : what is known after some characters of a line; `Scan.step` takes one character.
* `Line.tokens` : the tokens of a line, never none at all: a line without any has one empty token.
* `Line.tokens_ne_nil` : the first token, the verb, always exists.
-/

namespace Testbench.Line

/-- The characters that separate tokens. -/
def isGap (c : Char) : Bool := c == ' ' || c == '\t'

/-- The characters that open and close a quoted span. -/
def isQuote (c : Char) : Bool := c == '\'' || c == '\"'

/-- The characters that a backslash escapes outside a quoted span. -/
def isEscapable (c : Char) : Bool := isQuote c || c == ';' || c == '\\'

/-- Where the reading of a line stands. -/
inductive Mode where
  /-- Outside a quoted span. -/
  | bare
  /-- Outside a span, after a backslash. -/
  | escape
  /-- Inside a span that `quote` closes. -/
  | span (quote : Char)
  /-- Inside a span that `quote` closes, after a backslash. -/
  | spanEscape (quote : Char)
  /-- After the semicolon that ends the line. -/
  | ended
  deriving DecidableEq, Repr

/-- What is known after some characters of a line. The token being read and the tokens already
read are kept backwards; there is no token being read until its first character or quote. -/
structure Scan where
  mode : Mode
  token : Option (List Char)
  tokens : List (List Char)
  deriving DecidableEq, Repr

namespace Scan

/-- Before the first character. -/
def start : Scan := ⟨.bare, none, []⟩

/-- One character more in the token. -/
def extend (s : Scan) (c : Char) : Scan := { s with token := some (c :: s.token.getD []) }

/-- The token, if one was begun, is complete. -/
def close (s : Scan) : Scan :=
  match s.token with
  | some token => { s with token := none, tokens := token.reverse :: s.tokens }
  | none => s

/-- A character outside a span. -/
def stepBare (s : Scan) (c : Char) : Scan :=
  if isQuote c then { s with mode := .span c, token := some (s.token.getD []) }
  else if c = '\\' then { s with mode := .escape }
  else if c = ';' then { s with mode := .ended }
  else if isGap c then s.close
  else s.extend c

/-- A character inside a span that `quote` closes. -/
def stepSpan (quote : Char) (s : Scan) (c : Char) : Scan :=
  if c = quote then { s with mode := .bare }
  else if c = '\\' then { s with mode := .spanEscape quote }
  else s.extend c

/-- One character of the line. A backslash that escapes nothing is a character of its own. -/
def step (s : Scan) (c : Char) : Scan :=
  match s.mode with
  | .bare => s.stepBare c
  | .escape =>
    if isEscapable c then { s with mode := .bare }.extend c
    else ({ s with mode := .bare }.extend '\\').stepBare c
  | .span quote => s.stepSpan quote c
  | .spanEscape quote =>
    if c = quote then { s with mode := .bare }
    else ({ s with mode := .span quote }.extend '\\').stepSpan quote c
  | .ended => s

/-- The tokens at the end of the line; an open span ends there. -/
def finish (s : Scan) : List (List Char) :=
  let s := match s.mode with
    | .escape | .spanEscape _ => s.extend '\\'
    | _ => s
  s.close.tokens.reverse

end Scan

/-- Whether a line without its leading gaps is a comment or a label. -/
def isRemark (s : List Char) : Bool :=
  match s with
  | c :: _ => c == ';' || c == ':'
  | [] => false

/-- The one token of a line that has none. -/
def orBlank (tokens : List (List Char)) : List (List Char) :=
  if tokens.isEmpty then [[]] else tokens

/-- The tokens of a line. -/
def tokens (line : List Char) : List (List Char) :=
  let text := line.dropWhile isGap
  if isRemark text then [[]] else orBlank (text.foldl Scan.step Scan.start).finish

/-- `tokens` on strings. -/
def tokenize (line : String) : List String := (tokens line.toList).map String.ofList

theorem tokens_ne_nil (line : List Char) : tokens line ≠ [] := by
  simp only [tokens, orBlank]
  split
  · simp
  · split <;> simp_all

theorem tokenize_ne_nil (line : String) : tokenize line ≠ [] := by
  simp [tokenize, tokens_ne_nil]

end Testbench.Line
