import Testbench.Json.Node
import Testbench.Text.Digits

/-!
# Reading JSON

The reader walks the text once and stops at the first character that no document could have at
its place; the error tells the number of bytes before it.

* `Json.Cursor` : a place in the text.
* `Json.readString`, `Json.readNumber`, `Json.readWord`, `Json.readName` : the leaves.
* `Json.readValue` : a value inside which containers nest at most so many deep.
* `Json.read` : a whole document.
-/

namespace Testbench.Json

open Text

/-- Containers nest at most this deep. -/
def maxNesting : Nat := 512

inductive ErrorKind where
  | unexpectedEnd
  | unexpectedChar
  | invalidNumber
  | invalidEscape
  | controlCharacter
  | trailingCharacters
  | tooDeep
  deriving DecidableEq, Repr

def ErrorKind.text : ErrorKind → String
  | unexpectedEnd => "unexpected end of input"
  | unexpectedChar => "unexpected character"
  | invalidNumber => "invalid number"
  | invalidEscape => "invalid escape sequence"
  | controlCharacter => "control character in string"
  | trailingCharacters => "trailing characters after document"
  | tooDeep => "nesting too deep"

/-- What is wrong with a text, and the number of bytes before it. -/
structure Error where
  kind : ErrorKind
  offset : Nat
  deriving DecidableEq, Repr

def Error.message (e : Error) : String := s!"{e.kind.text} at offset {e.offset}"

/-- A place in the text: the number of bytes before it and the characters after it. -/
structure Cursor where
  offset : Nat
  rest : List Char
  deriving DecidableEq, Repr

/-- The characters between values. -/
def isSpace (c : Char) : Bool := c == ' ' || c == '\t' || c == '\n' || c == '\r'

/-- The characters of a bare name. -/
def isNameChar (c : Char) : Bool := c.isAlphanum || c == '_' || c == '$'

/-- What reads something that starts at a place. -/
abbrev Reader (α : Type) := Cursor → Except Error (α × Cursor)

namespace Cursor

/-- The place after the longest run of characters in `p`, and that run. -/
def run (p : Char → Bool) (cur : Cursor) : List Char × Cursor :=
  let text := cur.rest.takeWhile p
  (text, ⟨cur.offset + byteLength text, cur.rest.dropWhile p⟩)

/-- The place after white space. -/
def skipSpace (cur : Cursor) : Cursor := (cur.run isSpace).2

/-- `kind` at this place, or the end of the text if there is nothing more. -/
def fail (cur : Cursor) (kind : ErrorKind) : Error :=
  if cur.rest.isEmpty then ⟨.unexpectedEnd, cur.offset⟩ else ⟨kind, cur.offset⟩

/-- The place after the next character, if that is in `p`. -/
def next? (p : Char → Bool) (cur : Cursor) : Option Cursor :=
  match cur.rest with
  | c :: rest => if p c then some ⟨cur.offset + c.utf8Size, rest⟩ else none
  | [] => none

/-- The piece from one place to a later one. -/
def sliceTo (first last : Cursor) : Slice := ⟨first.offset, last.offset, first.rest⟩

end Cursor

/-! ## Strings and names -/

/-- Where the reading of a string stands. -/
inductive StringState where
  | plain
  | afterBackslash
  /-- Before the digits of a `\u` escape, of which `more + 1` are missing. -/
  | digits (more : Nat)
  deriving DecidableEq, Repr

/-- What a backslash may stand before, `u` apart. -/
def isShortEscape (mode : Mode) (c : Char) : Bool :=
  ['\"', '\\', '/', 'b', 'f', 'n', 'r', 't'].contains c || (mode.isRelaxed && c == '\'')

/-- How a string is closed: by `quote`, with a backslash in front if `escaped`. -/
structure Delimiter where
  quote : Char
  escaped : Bool
  deriving DecidableEq, Repr

/-- The number of bytes before the closing delimiter of a string, and the place after it. -/
def readStringFrom (mode : Mode) (d : Delimiter) :
    StringState → (offset : Nat) → List Char → Except Error (Nat × Cursor)
  | _, offset, [] => .error ⟨.unexpectedEnd, offset⟩
  | .plain, offset, c :: rest =>
    if c = d.quote ∧ d.escaped = false then .ok (offset, ⟨offset + c.utf8Size, rest⟩)
    else if c = '\\' then readStringFrom mode d .afterBackslash (offset + 1) rest
    else if c.toNat < 0x20 then .error ⟨.controlCharacter, offset⟩
    else readStringFrom mode d .plain (offset + c.utf8Size) rest
  | .afterBackslash, offset, c :: rest =>
    if c = d.quote ∧ d.escaped = true then .ok (offset - 1, ⟨offset + c.utf8Size, rest⟩)
    else if isShortEscape mode c then readStringFrom mode d .plain (offset + c.utf8Size) rest
    else if c = 'u' then readStringFrom mode d (.digits 3) (offset + 1) rest
    else .error ⟨.invalidEscape, offset⟩
  | .digits more, offset, c :: rest =>
    if (hexValue? c).isSome then
      match more with
      | 0 => readStringFrom mode d .plain (offset + 1) rest
      | more + 1 => readStringFrom mode d (.digits more) (offset + 1) rest
    else .error ⟨.invalidEscape, offset⟩

/-- The string whose opening delimiter ends `offset` bytes after the start, where `rest` follows. -/
def readStringAfter (mode : Mode) (d : Delimiter) (quote : Quote) (offset : Nat)
    (rest : List Char) : Except Error ((Slice × Quote) × Cursor) := do
  let (stop, cur) ← readStringFrom mode d .plain offset rest
  .ok ((⟨offset, stop, rest⟩, quote), cur)

/-- The delimited string at a place, or `none` if none opens there. -/
def readString? (mode : Mode) (cur : Cursor) : Option (Except Error ((Slice × Quote) × Cursor)) :=
  match mode, cur.rest with
  | mode, '\"' :: rest =>
    some (readStringAfter mode ⟨'\"', false⟩ .double (cur.offset + 1) rest)
  | .relaxed, '\'' :: rest =>
    some (readStringAfter .relaxed ⟨'\'', false⟩ .single (cur.offset + 1) rest)
  | .relaxed, '\\' :: '\"' :: rest =>
    some (readStringAfter .relaxed ⟨'\"', true⟩ .backslash (cur.offset + 2) rest)
  | .relaxed, '\\' :: '\'' :: rest =>
    some (readStringAfter .relaxed ⟨'\'', true⟩ .backslash (cur.offset + 2) rest)
  | _, _ => none

/-- The name of a member. -/
def readName (mode : Mode) (cur : Cursor) : Except Error (Name × Cursor) :=
  match readString? mode cur with
  | some reading => reading.map fun r => (⟨r.1.1, r.1.2⟩, r.2)
  | none =>
    let (text, after) := cur.run isNameChar
    if mode.isRelaxed && !text.isEmpty then .ok (⟨cur.sliceTo after, .none⟩, after)
    else .error (cur.fail .unexpectedChar)

/-! ## Numbers and words -/

/-- The place after one digit or more. -/
def readDigits (cur : Cursor) : Except Error Cursor :=
  let (text, after) := cur.run Char.isDigit
  if text.isEmpty then .error ⟨.invalidNumber, cur.offset⟩ else .ok after

/-- The place after digits that start with `0` only if that is all. -/
def readWhole (cur : Cursor) : Except Error Cursor :=
  match cur.next? (· == '0') with
  | some after => .ok after
  | none => readDigits cur

/-- The place after a point and digits, if there is a point. -/
def readFraction (cur : Cursor) : Except Error Cursor :=
  match cur.next? (· == '.') with
  | some after => readDigits after
  | none => .ok cur

/-- The place after an exponent, if there is one. -/
def readExponent (cur : Cursor) : Except Error Cursor :=
  match cur.next? fun c => c == 'e' || c == 'E' with
  | some after => readDigits ((after.next? fun c => c == '+' || c == '-').getD after)
  | none => .ok cur

/-- A number. -/
def readNumber (cur : Cursor) : Except Error (Node × Cursor) := do
  let after ← readWhole ((cur.next? (· == '-')).getD cur)
  let after ← readFraction after
  let after ← readExponent after
  .ok (.scalar .number .none (cur.sliceTo after), after)

/-- The place after the ASCII text `word`. -/
def readWord : (word : List Char) → Cursor → Except Error Cursor
  | [], cur => .ok cur
  | w :: word, cur =>
    match cur.rest with
    | c :: rest =>
      if c = w then readWord word ⟨cur.offset + 1, rest⟩
      else .error ⟨.unexpectedChar, cur.offset⟩
    | [] => .error ⟨.unexpectedEnd, cur.offset⟩

/-- The literal that is written `word`. -/
def readLiteral (kind : ScalarKind) (word : List Char) (cur : Cursor) :
    Except Error (Node × Cursor) :=
  (readWord word cur).map fun after => (.scalar kind .none (cur.sliceTo after), after)

/-! ## Containers -/

/-- The elements of an array, up to its closing bracket. There are fewer than `fuel`. -/
def readElements (value : Reader Node) : (fuel : Nat) → Reader (List Node)
  | 0, cur => .error (cur.fail .unexpectedChar)
  | fuel + 1, cur => do
    let (element, cur) ← value cur.skipSpace
    let cur := cur.skipSpace
    match cur.rest with
    | ',' :: rest =>
      let (elements, cur) ← readElements value fuel ⟨cur.offset + 1, rest⟩
      .ok (element :: elements, cur)
    | ']' :: rest => .ok ([element], ⟨cur.offset + 1, rest⟩)
    | _ => .error (cur.fail .unexpectedChar)

/-- A member: a name, a colon and a value. -/
def readMember (mode : Mode) (value : Reader Node) (cur : Cursor) :
    Except Error ((Name × Node) × Cursor) := do
  let (name, cur) ← readName mode cur.skipSpace
  let cur := cur.skipSpace
  match cur.rest with
  | ':' :: rest =>
    let (node, cur) ← value (Cursor.skipSpace ⟨cur.offset + 1, rest⟩)
    .ok ((name, node), cur)
  | _ => .error (cur.fail .unexpectedChar)

/-- The members of an object, up to its closing brace. There are fewer than `fuel`. -/
def readMembers (mode : Mode) (value : Reader Node) : (fuel : Nat) → Reader (List (Name × Node))
  | 0, cur => .error (cur.fail .unexpectedChar)
  | fuel + 1, cur => do
    let (member, cur) ← readMember mode value cur
    let cur := cur.skipSpace
    match cur.rest with
    | ',' :: rest =>
      let (members, cur) ← readMembers mode value fuel ⟨cur.offset + 1, rest⟩
      .ok (member :: members, cur)
    | '\x7d' :: rest => .ok ([member], ⟨cur.offset + 1, rest⟩)
    | _ => .error (cur.fail .unexpectedChar)

/-- The object that opens at `cur`, with `rest` after its brace. It has fewer than `limit` members. -/
def readObject (mode : Mode) (limit : Nat) (value : Reader Node) (cur : Cursor) (rest : List Char) :
    Except Error (Node × Cursor) := do
  let inside := Cursor.skipSpace ⟨cur.offset + 1, rest⟩
  match inside.rest with
  | '\x7d' :: rest =>
    let after : Cursor := ⟨inside.offset + 1, rest⟩
    .ok (.object (cur.sliceTo after) [], after)
  | _ =>
    let (members, after) ← readMembers mode value limit inside
    .ok (.object (cur.sliceTo after) members, after)

/-- The array that opens at `cur`, with `rest` after its bracket. It has fewer than `limit` elements. -/
def readArray (limit : Nat) (value : Reader Node) (cur : Cursor) (rest : List Char) :
    Except Error (Node × Cursor) := do
  let inside := Cursor.skipSpace ⟨cur.offset + 1, rest⟩
  match inside.rest with
  | ']' :: rest =>
    let after : Cursor := ⟨inside.offset + 1, rest⟩
    .ok (.array (cur.sliceTo after) [], after)
  | _ =>
    let (elements, after) ← readElements value limit inside
    .ok (.array (cur.sliceTo after) elements, after)

/-- A value that is no container. -/
def readScalar (mode : Mode) (cur : Cursor) : Except Error (Node × Cursor) :=
  match readString? mode cur with
  | some reading => reading.map fun r => (.scalar .string r.1.2 r.1.1, r.2)
  | none =>
    match cur.rest with
    | 't' :: _ => readLiteral .boolean ['t', 'r', 'u', 'e'] cur
    | 'f' :: _ => readLiteral .boolean ['f', 'a', 'l', 's', 'e'] cur
    | 'n' :: _ => readLiteral .null ['n', 'u', 'l', 'l'] cur
    | c :: _ =>
      if c == '-' || c.isDigit then readNumber cur else .error ⟨.unexpectedChar, cur.offset⟩
    | [] => .error ⟨.unexpectedEnd, cur.offset⟩

/-- A value inside which containers nest at most `room` deep, itself included, and have fewer than
`limit` members or elements. -/
def readValue (mode : Mode) (limit : Nat) : (room : Nat) → Reader Node
  | 0, cur =>
    match cur.rest with
    | '\x7b' :: _ => .error ⟨.tooDeep, cur.offset⟩
    | '[' :: _ => .error ⟨.tooDeep, cur.offset⟩
    | _ => readScalar mode cur
  | room + 1, cur =>
    match cur.rest with
    | '\x7b' :: rest => readObject mode limit (readValue mode limit room) cur rest
    | '[' :: rest => readArray limit (readValue mode limit room) cur rest
    | _ => readScalar mode cur

/-- The tree of a whole text. There cannot be more members or elements than characters. -/
def read (mode : Mode) (source : List Char) : Except Error Node := do
  let (root, cur) ← readValue mode (source.length + 1) maxNesting (Cursor.skipSpace ⟨0, source⟩)
  let cur := cur.skipSpace
  if cur.rest.isEmpty then .ok root else .error ⟨.trailingCharacters, cur.offset⟩

end Testbench.Json
