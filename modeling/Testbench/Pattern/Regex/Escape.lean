import Testbench.Pattern.Regex.Flags
import Testbench.Text.Digits

/-!
# Escapes

A backslash takes the meaning from a character that has one, or names a character by its code, a
class or a place.

* `Regex.Primitive` : what an escape or a single character stands for.
* `Regex.readEscape?` : what follows a backslash.
-/

namespace Testbench.Regex

open Text

/-- What an escape or a single character stands for. -/
inductive Primitive where
  | literal (c : Char)
  | set (members : CharSet)
  | place (a : Assertion)
  deriving DecidableEq, Repr

/-- What an escape or a character stands for in an expression. -/
def Primitive.toRegex (flags : Flags) : Primitive → Regex
  | literal c => flags.char c
  | set members => ofSet members
  | place a => .place a

/-- The members of `\D`. -/
def otherThanDigits : CharSet := decimalDigits.complement

/-- The members of `\S`. -/
def otherThanBlanks : CharSet := blanks.complement

/-- The members of `\W`. -/
def otherThanWordChars : CharSet := wordChars.complement

/-- The characters that have a meaning of their own somewhere in an expression. -/
def isMeta (c : Char) : Bool :=
  ['\\', '.', '+', '*', '?', '(', ')', '|', '[', ']', '\x7b', '\x7d', '^', '$', '#', '&', '-',
    '~'].contains c

/-- The characters that a backslash may stand before without changing them. -/
def isEscapable (c : Char) : Bool :=
  isMeta c || (decide (c.toNat < 0x80) && !c.isAlphanum && c != '<' && c != '>')

/-- Exactly `n` hexadecimal digits, `value` being the number read so far. -/
def readHexDigits? (flags : Flags) : (n : Nat) → (value : Nat) → List Char → Option (Nat × List Char)
  | 0, value, s => some (value, s)
  | n + 1, value, s =>
    match flags.skip s with
    | c :: rest => (hexValue? c).bind fun d => readHexDigits? flags n (value * 16 + d) rest
    | [] => none

/-- Hexadecimal digits up to a closing brace; `value` is `none` before the first one. -/
def readHexBraces? (flags : Flags) (value : Option Nat) (s : List Char) :
    Option (Nat × List Char) :=
  match h : flags.skip s with
  | [] => none
  | c :: rest =>
    if c = '\x7d' then value.map fun v => (v, rest)
    else (hexValue? c).bind fun d => readHexBraces? flags (some (value.getD 0 * 16 + d)) rest
termination_by s.length
decreasing_by
  have := flags.length_skip_le s
  simp only [h, List.length_cons] at this
  omega

/-- The character with this code point. -/
def charOf? (n : Nat) : Option Char := if n.isValidChar then some (Char.ofNat n) else none

/-- The character given by its code point, in `digits` digits or in braces. Two digits stand for a
byte, so that within ASCII they make no character beyond. -/
def readCodePoint? (flags : Flags) (digits : Nat) (s : List Char) : Option (Primitive × List Char) :=
  match flags.skip s with
  | '\x7b' :: rest =>
    (readHexBraces? flags none rest).bind fun (n, rest) =>
      (charOf? n).map fun c => (.literal c, rest)
  | rest =>
    (readHexDigits? flags digits 0 rest).bind fun (n, rest) =>
      if digits = 2 && !flags.unicode && decide (0x80 ≤ n) then none
      else (charOf? n).map fun c => (.literal c, rest)

/-- The kind of word boundary that is named in braces. -/
def boundaryNamed? (name : List Char) : Option WordPlace :=
  match String.ofList name with
  | "start" => some .start
  | "end" => some .finish
  | "start-half" => some .startHalf
  | "end-half" => some .finishHalf
  | _ => none

/-- The letters and dashes of a name in braces. -/
def isBoundaryChar (c : Char) : Bool := c.isAlpha || c == '-'

/-- The characters of a name in braces, and what follows them. -/
def readBoundaryName (flags : Flags) (s : List Char) : List Char × List Char :=
  match s with
  | [] => ([], [])
  | c :: rest =>
    if isBoundaryChar c then
      let (name, rest) := readBoundaryName flags (flags.skip rest)
      (c :: name, rest)
    else ([], c :: rest)
termination_by s.length
decreasing_by exact Nat.lt_succ_of_le (flags.length_skip_le rest)

/-- A condition on the words around a place, as the flags read it. -/
def Flags.word (flags : Flags) (p : WordPlace) : Primitive := .place (.word p !flags.unicode)

/-- A word boundary: `\b` alone, or with its kind in braces. Braces that do not start with a letter
or a dash are a count and are left alone. -/
def readBoundary? (flags : Flags) (s : List Char) : Option (Primitive × List Char) :=
  match s with
  | '\x7b' :: rest =>
    let inside := flags.skip rest
    match inside with
    | [] => none
    | c :: _ =>
      if isBoundaryChar c then
        match readBoundaryName flags inside with
        | (name, '\x7d' :: rest) => (boundaryNamed? name).map fun p => (flags.word p, rest)
        | _ => none
      else some (flags.word .boundary, s)
  | _ => some (flags.word .boundary, s)

/-- What follows a backslash. -/
def readEscape? (flags : Flags) (s : List Char) : Option (Primitive × List Char) :=
  match s with
  | [] => none
  | c :: rest =>
    if isEscapable c then some (.literal c, rest)
    else
      let set (unicode : CharSet) (ascii : Option CharSet) : Option (Primitive × List Char) :=
        (flags.pick? unicode ascii).map fun members => (.set members, rest)
      match c with
      | 'x' => readCodePoint? flags 2 rest
      | 'u' => readCodePoint? flags 4 rest
      | 'U' => readCodePoint? flags 8 rest
      | 'd' => set decimalDigits asciiDigits
      | 'D' => set otherThanDigits none
      | 's' => set blanks asciiBlanks
      | 'S' => set otherThanBlanks none
      | 'w' => set wordChars asciiWordChars
      | 'W' => set otherThanWordChars none
      | 'a' => some (.literal '\x07', rest)
      | 'f' => some (.literal '\x0c', rest)
      | 't' => some (.literal '\t', rest)
      | 'n' => some (.literal '\n', rest)
      | 'r' => some (.literal '\r', rest)
      | 'v' => some (.literal '\x0b', rest)
      | 'A' => some (.place .textStart, rest)
      | 'z' => some (.place .textEnd, rest)
      | 'b' => readBoundary? flags rest
      | 'B' => some (flags.word .noBoundary, rest)
      | '<' => some (flags.word .start, rest)
      | '>' => some (flags.word .finish, rest)
      | _ => none

end Testbench.Regex
