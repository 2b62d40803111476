import Testbench.Json.Reader

/-!
# The grammars of JSON

The strict grammar is that of RFC 8259; the relaxed one adds bare, single-quoted and
backslash-quoted names, single-quoted and backslash-quoted strings, and an escaped apostrophe. A
piece of the source is described by the places where it begins and ends, so that a derivation also
says what tree a text has, with the places of all its parts.

* `Cursor.Spans` : the text between two places.
* `Grammar.Number`, `Grammar.Contents` : the texts that numbers and the insides of strings have.
* `Grammar.Value`, `Grammar.Members`, `Grammar.Elements` : the pieces that stand for a node, for the
  members of an object and for the elements of an array.
* `Grammar.Document` : the sources that have a derivation, and their trees.
-/

set_option autoImplicit false

namespace Testbench.Json

/-- The text between two places. -/
def Cursor.Spans (text : List Char) (a b : Cursor) : Prop :=
  a.rest = text ++ b.rest ∧ b.offset = a.offset + byteLength text

namespace Grammar

open Cursor (Spans)

/-! ## White space and character classes -/

/-- `ws` : spaces, tabs, line feeds and carriage returns, or nothing. -/
def Gap (a b : Cursor) : Prop :=
  ∃ s, (∀ c ∈ s, c ∈ [' ', '\t', '\n', '\r']) ∧ Spans s a b

def IsDigit (c : Char) : Prop := '0' ≤ c ∧ c ≤ '9'

def IsHexDigit (c : Char) : Prop := IsDigit c ∨ ('a' ≤ c ∧ c ≤ 'f') ∨ ('A' ≤ c ∧ c ≤ 'F')

/-- The characters of a bare name. -/
def IsNameChar (c : Char) : Prop :=
  IsDigit c ∨ ('a' ≤ c ∧ c ≤ 'z') ∨ ('A' ≤ c ∧ c ≤ 'Z') ∨ c = '_' ∨ c = '$'

/-! ## Numbers -/

/-- `1*DIGIT` -/
def Digits (s : List Char) : Prop := s ≠ [] ∧ ∀ c ∈ s, IsDigit c

/-- `int = zero / ( digit1-9 *DIGIT )` -/
inductive Whole : List Char → Prop where
  | zero : Whole ['0']
  | digits {c : Char} {s : List Char} :
      IsDigit c → c ≠ '0' → (∀ d ∈ s, IsDigit d) → Whole (c :: s)

/-- `[ frac ]`, where `frac = decimal-point 1*DIGIT` -/
inductive Fraction : List Char → Prop where
  | none : Fraction []
  | digits {s : List Char} : Digits s → Fraction ('.' :: s)

/-- `[ exp ]`, where `exp = e [ minus / plus ] 1*DIGIT` -/
inductive Exponent : List Char → Prop where
  | none : Exponent []
  | digits {e : Char} {sign s : List Char} :
      e ∈ ['e', 'E'] → sign ∈ [[], ['+'], ['-']] → Digits s → Exponent (e :: (sign ++ s))

/-- `number = [ minus ] int [ frac ] [ exp ]` -/
inductive Number : List Char → Prop where
  | mk {sign whole fraction exponent : List Char} :
      sign ∈ [[], ['-']] → Whole whole → Fraction fraction → Exponent exponent →
      Number (sign ++ (whole ++ (fraction ++ exponent)))

/-! ## Strings and names -/

/-- The characters that a backslash stands before, `u` apart. -/
def IsShortEscape (mode : Mode) (c : Char) : Prop :=
  c ∈ ['\"', '\\', '/', 'b', 'f', 'n', 'r', 't'] ∨ (mode = .relaxed ∧ c = '\'')

/-- What stands between the delimiters of a string. The closing delimiter is not in it: neither its
quote, if that alone closes, nor a backslash and the quote, if these do. -/
inductive Contents (mode : Mode) (d : Delimiter) : List Char → Prop where
  | nil : Contents mode d []
  | plain {c : Char} {s : List Char} :
      0x20 ≤ c.toNat → c ≠ '\\' → (d.escaped = false → c ≠ d.quote) →
      Contents mode d s → Contents mode d (c :: s)
  | short {c : Char} {s : List Char} :
      IsShortEscape mode c → (d.escaped = true → c ≠ d.quote) →
      Contents mode d s → Contents mode d ('\\' :: c :: s)
  | unicode {h₁ h₂ h₃ h₄ : Char} {s : List Char} :
      IsHexDigit h₁ → IsHexDigit h₂ → IsHexDigit h₃ → IsHexDigit h₄ →
      Contents mode d s → Contents mode d ('\\' :: 'u' :: h₁ :: h₂ :: h₃ :: h₄ :: s)

/-- The text of a delimiter. -/
def delimiterText (d : Delimiter) : List Char :=
  if d.escaped then ['\\', d.quote] else [d.quote]

/-- The delimiters of strings. -/
inductive Delimits : Mode → Quote → Delimiter → Prop where
  | double {mode : Mode} : Delimits mode .double ⟨'\"', false⟩
  | single : Delimits .relaxed .single ⟨'\'', false⟩
  | backslash {q : Char} : q ∈ ['\"', '\''] → Delimits .relaxed .backslash ⟨q, true⟩

/-- A string with its two delimiters; the slice is what stands between them. -/
inductive Quoted (mode : Mode) : Cursor → Cursor → Slice → Quote → Prop where
  | mk {a b c e : Cursor} {quote : Quote} {d : Delimiter} {text : List Char} :
      Delimits mode quote d → Spans (delimiterText d) a b → Contents mode d text →
      Spans text b c → Spans (delimiterText d) c e → Quoted mode a e (b.sliceTo c) quote

/-- The name of a member. -/
inductive Label : Mode → Cursor → Cursor → Name → Prop where
  | quoted {mode : Mode} {a b : Cursor} {slice : Slice} {quote : Quote} :
      Quoted mode a b slice quote → Label mode a b ⟨slice, quote⟩
  | bare {a b : Cursor} {s : List Char} :
      s ≠ [] → (∀ c ∈ s, IsNameChar c) → Spans s a b → Label .relaxed a b ⟨a.sliceTo b, .none⟩

/-! ## Values -/

mutual

/-- A value with its tree, in which containers nest at most `room` deep. -/
inductive Value (mode : Mode) : (room : Nat) → Cursor → Cursor → Node → Prop where
  | string {room : Nat} {a b : Cursor} {slice : Slice} {quote : Quote} :
      Quoted mode a b slice quote → Value mode room a b (.scalar .string quote slice)
  | number {room : Nat} {a b : Cursor} {s : List Char} :
      Number s → Spans s a b → Value mode room a b (.scalar .number .none (a.sliceTo b))
  | boolean {room : Nat} {a b : Cursor} {s : List Char} :
      s ∈ [['t', 'r', 'u', 'e'], ['f', 'a', 'l', 's', 'e']] → Spans s a b →
      Value mode room a b (.scalar .boolean .none (a.sliceTo b))
  | null {room : Nat} {a b : Cursor} :
      Spans ['n', 'u', 'l', 'l'] a b → Value mode room a b (.scalar .null .none (a.sliceTo b))
  | emptyObject {room : Nat} {a b c e : Cursor} :
      Spans ['\x7b'] a b → Gap b c → Spans ['\x7d'] c e →
      Value mode (room + 1) a e (.object (a.sliceTo e) [])
  | object {room : Nat} {a b c e : Cursor} {members : List (Name × Node)} :
      Spans ['\x7b'] a b → Members mode room b c members → Spans ['\x7d'] c e →
      Value mode (room + 1) a e (.object (a.sliceTo e) members)
  | emptyArray {room : Nat} {a b c e : Cursor} :
      Spans ['['] a b → Gap b c → Spans [']'] c e →
      Value mode (room + 1) a e (.array (a.sliceTo e) [])
  | array {room : Nat} {a b c e : Cursor} {elements : List Node} :
      Spans ['['] a b → Elements mode room b c elements → Spans [']'] c e →
      Value mode (room + 1) a e (.array (a.sliceTo e) elements)

/-- A member: a name, a colon and a value, with white space around each. -/
inductive Member (mode : Mode) : (room : Nat) → Cursor → Cursor → Name × Node → Prop where
  | mk {room : Nat} {a b c e f g h i : Cursor} {name : Name} {node : Node} :
      Gap a b → Label mode b c name → Gap c e → Spans [':'] e f → Gap f g →
      Value mode room g h node → Gap h i → Member mode room a i (name, node)

/-- One member or more, with commas between them. -/
inductive Members (mode : Mode) : (room : Nat) → Cursor → Cursor → List (Name × Node) → Prop where
  | last {room : Nat} {a b : Cursor} {member : Name × Node} :
      Member mode room a b member → Members mode room a b [member]
  | more {room : Nat} {a b c e : Cursor} {member : Name × Node} {members : List (Name × Node)} :
      Member mode room a b member → Spans [','] b c → Members mode room c e members →
      Members mode room a e (member :: members)

/-- An element: a value with white space around it. -/
inductive Element (mode : Mode) : (room : Nat) → Cursor → Cursor → Node → Prop where
  | mk {room : Nat} {a b c e : Cursor} {node : Node} :
      Gap a b → Value mode room b c node → Gap c e → Element mode room a e node

/-- One element or more, with commas between them. -/
inductive Elements (mode : Mode) : (room : Nat) → Cursor → Cursor → List Node → Prop where
  | last {room : Nat} {a b : Cursor} {element : Node} :
      Element mode room a b element → Elements mode room a b [element]
  | more {room : Nat} {a b c e : Cursor} {element : Node} {elements : List Node} :
      Element mode room a b element → Spans [','] b c → Elements mode room c e elements →
      Elements mode room a e (element :: elements)

end

/-- The source has a derivation whose tree is `root`: white space, a value in which containers nest
at most `maxNesting` deep, and white space up to the end. -/
def Document (mode : Mode) (source : List Char) (root : Node) : Prop :=
  ∃ a b e, Gap ⟨0, source⟩ a ∧ Value mode maxNesting a b root ∧ Gap b e ∧ e.rest = []

end Grammar

end Testbench.Json
