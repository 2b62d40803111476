import Testbench.Text.Digits

/-!
# Escapes in JSON strings

* `Json.unescape` : the text that an escaped text stands for. Nothing is refused: a code unit that
  is no character, or is not four hexadecimal digits, becomes U+FFFD, and a backslash before any
  other character vanishes.
* `Json.escape` : the shortest strict spelling between double quotes.
-/

namespace Testbench.Json

open Text

/-- The character that stands for what is no character. -/
def replacement : Char := '\uFFFD'

/-- The code unit that four hexadecimal digits denote. -/
def codeUnit? (s : List Char) : Option Nat :=
  match s with
  | a :: b :: c :: d :: _ => readNat? 16 [a, b, c, d]
  | _ => none

def isHighSurrogate (n : Nat) : Bool := decide (0xD800 ≤ n) && decide (n ≤ 0xDBFF)

def isLowSurrogate (n : Nat) : Bool := decide (0xDC00 ≤ n) && decide (n ≤ 0xDFFF)

/-- The character whose two code units these are. -/
def joinSurrogates (high low : Nat) : Char :=
  Char.ofNat (0x10000 + (high - 0xD800) * 0x400 + (low - 0xDC00))

/-- The low surrogate that an escape right after a high one denotes. -/
def lowSurrogate? (s : List Char) : Option Nat :=
  match s with
  | '\\' :: 'u' :: rest => (codeUnit? rest).filter isLowSurrogate
  | _ => none

/-- The character that a `\u` escape stands for, and how many characters after the `u` belong to
it. Of a code unit that is not four digits, those up to the first that is no digit do. -/
def unicodeEscape (s : List Char) : Char × Nat :=
  match codeUnit? s with
  | none => (replacement, (s.takeWhile fun c => (hexValue? c).isSome).length + 1)
  | some n =>
    if isHighSurrogate n then
      match lowSurrogate? (s.drop 4) with
      | some low => (joinSurrogates n low, 10)
      | none => (replacement, 4)
    else if isLowSurrogate n then (replacement, 4)
    else (Char.ofNat n, 4)

/-- The character that a backslash and `c` stand for. -/
def shortEscape (c : Char) : Char :=
  match c with
  | 'n' => '\n'
  | 'r' => '\r'
  | 't' => '\t'
  | 'b' => '\x08'
  | 'f' => '\x0c'
  | c => c

/-- `unescape` of a text without its first `skip` characters. -/
def unescapeFrom : (skip : Nat) → List Char → List Char
  | _, [] => []
  | skip + 1, _ :: rest => unescapeFrom skip rest
  | 0, ['\\'] => ['\\']
  | 0, '\\' :: c :: rest =>
    if c = 'u' then
      (unicodeEscape rest).1 :: unescapeFrom (unicodeEscape rest).2 rest
    else shortEscape c :: unescapeFrom 0 rest
  | 0, c :: rest => c :: unescapeFrom 0 rest

/-- The text that an escaped text stands for. -/
def unescape (s : List Char) : List Char := unescapeFrom 0 s

/-- A digit of base 16, lower case. -/
def hexDigit (n : Nat) : Char := Nat.digitChar (n % 16)

/-- The spelling of one character between double quotes. -/
def escapeChar (c : Char) : List Char :=
  if c = '\"' then ['\\', '\"']
  else if c = '\\' then ['\\', '\\']
  else if c = '\n' then ['\\', 'n']
  else if c = '\r' then ['\\', 'r']
  else if c = '\t' then ['\\', 't']
  else if c = '\x08' then ['\\', 'b']
  else if c = '\x0c' then ['\\', 'f']
  else if c.toNat < 0x20 then ['\\', 'u', '0', '0', hexDigit (c.toNat / 16), hexDigit c.toNat]
  else [c]

/-- The spelling of a text between double quotes, without the quotes. -/
def escape (s : List Char) : List Char := s.flatMap escapeChar

@[simp] theorem unescape_nil : unescape [] = [] := rfl

@[simp] theorem escape_nil : escape [] = [] := rfl

@[simp] theorem escape_cons (c : Char) (s : List Char) : escape (c :: s) = escapeChar c ++ escape s :=
  rfl

end Testbench.Json
