import Testbench.Pattern.Regex.Escape

/-!
# Classes in brackets

A class holds characters, ranges, escapes, named classes and other classes. Its items are united;
operators between them take intersections and differences, from left to right.

* `Regex.Nested` : what has been read, with how deep its text nests.
* `Regex.Part` : the part of a class that has been read.
* `Regex.readBracket?` : a class after its opening bracket.
-/

namespace Testbench.Regex

open Text

/-- What a text stands for, and how deep operators, groups and classes nest in the text. -/
structure Nested (α : Type) where
  depth : Nat
  value : α
  deriving DecidableEq, Repr

/-- Operators, groups and classes nest at most this deep. -/
def maxDepth : Nat := 250

/-- The named classes, all of them within ASCII. -/
def asciiNamed? (name : List Char) : Option CharSet :=
  match String.ofList name with
  | "alnum" => some [(0x30, 0x39), (0x41, 0x5A), (0x61, 0x7A)]
  | "alpha" => some [(0x41, 0x5A), (0x61, 0x7A)]
  | "ascii" => some [(0x0, 0x7F)]
  | "blank" => some [(0x9, 0x9), (0x20, 0x20)]
  | "cntrl" => some [(0x0, 0x1F), (0x7F, 0x7F)]
  | "digit" => some [(0x30, 0x39)]
  | "graph" => some [(0x21, 0x7E)]
  | "lower" => some [(0x61, 0x7A)]
  | "print" => some [(0x20, 0x7E)]
  | "punct" => some [(0x21, 0x2F), (0x3A, 0x40), (0x5B, 0x60), (0x7B, 0x7E)]
  | "space" => some [(0x9, 0xD), (0x20, 0x20)]
  | "upper" => some [(0x41, 0x5A)]
  | "word" => some [(0x30, 0x39), (0x41, 0x5A), (0x5F, 0x5F), (0x61, 0x7A)]
  | "xdigit" => some [(0x30, 0x39), (0x41, 0x46), (0x61, 0x66)]
  | _ => none

/-- A named class after its opening bracket and colon, if it is one: whether it is negated, and its
members. -/
def readNamed? (s : List Char) : Option ((Bool × CharSet) × List Char) :=
  let (negated, s) := match s with
    | '^' :: rest => (true, rest)
    | rest => (false, rest)
  match s.dropWhile (· != ':') with
  | ':' :: ']' :: rest =>
    (asciiNamed? (s.takeWhile (· != ':'))).map fun set => ((negated, set), rest)
  | _ => none

/-- An operator between the parts of a class. -/
inductive SetOp where
  | inter
  | diff
  | symmDiff
  deriving DecidableEq, Repr

def SetOp.apply (op : SetOp) (a b : CharSet) : CharSet :=
  match op with
  | .inter => a.inter b
  | .diff => a.diff b
  | .symmDiff => a.symmDiff b

/-- The part of a class read so far: what stands left of the last operator, and the items after
it. -/
structure Part where
  left : Option (Nested CharSet × SetOp)
  /-- The runs of the items, in any order. -/
  runs : List (Nat × Nat)
  /-- The number of items. -/
  items : Nat
  /-- The depth of the deepest item. -/
  deepest : Nat
  deriving DecidableEq, Repr

namespace Part

/-- Nothing yet. -/
def start : Part := ⟨none, [], 0, 0⟩

/-- One item more. -/
def add (p : Part) (item : Nested CharSet) : Part :=
  { p with
    runs := item.value ++ p.runs
    items := p.items + 1
    deepest := max p.deepest item.depth }

/-- One character more. -/
def addChar (p : Part) (c : Char) : Part := p.add ⟨0, .single c⟩

/-- The items after the last operator; two or more of them are a level of their own. -/
def right (p : Part) : Nested CharSet :=
  if p.items < 2 then ⟨p.deepest, p.runs⟩ else ⟨p.deepest + 1, .ofRuns p.runs⟩

/-- The class up to here. Letter case is settled on both sides of an operator. -/
def value (flags : Flags) (p : Part) : Nested CharSet :=
  match p.left with
  | none => p.right
  | some (a, op) =>
    ⟨max a.depth p.right.depth + 1, op.apply (flags.closed a.value) (flags.closed p.right.value)⟩

/-- After an operator. -/
def follow (flags : Flags) (p : Part) (op : SetOp) : Part :=
  { start with left := some (p.value flags, op) }

/-- The class at its closing bracket. -/
def close? (flags : Flags) (negated : Bool) (p : Part) : Option (Nested CharSet) :=
  let inside := p.value flags
  (flags.settle? negated inside.value).map fun set => ⟨inside.depth + 1, set⟩

end Part

/-- One character or escape in a class. -/
def readClassItem? (flags : Flags) (s : List Char) : Option (Primitive × List Char) :=
  match s with
  | [] => none
  | '\\' :: rest => readEscape? flags rest
  | c :: rest => some (.literal c, rest)

/-- An item of a class on its own. -/
def Primitive.toSet? (flags : Flags) : Primitive → Option CharSet
  | literal c => if flags.admits c then some (.single c) else none
  | set members => some members
  | place _ => none

/-- The range between two items. -/
def rangeOf? (flags : Flags) (first last : Primitive) : Option CharSet :=
  match first, last with
  | .literal a, .literal b =>
    if a ≤ b && flags.admits b then some [(a.toNat, b.toNat)] else none
  | _, _ => none

/-- An item or a range. A dash in front of a closing bracket or of another dash makes no range. -/
def readRange? (flags : Flags) (s : List Char) : Option (CharSet × List Char) := do
  let (first, rest) ← readClassItem? flags s
  match flags.skip rest with
  | [] => none
  | '-' :: rest' =>
    if flags.peek rest' = some ']' ∨ flags.peek rest' = some '-' then
      (first.toSet? flags).map (·, '-' :: rest')
    else
      let (last, rest) ← readClassItem? flags (flags.skip rest')
      (rangeOf? flags first last).map (·, rest)
  | rest => (first.toSet? flags).map (·, rest)

/-- The dashes at the start of a class, which are characters. -/
def readDashes (flags : Flags) (part : Part) (s : List Char) : Part × List Char :=
  match s with
  | [] => (part, [])
  | c :: rest =>
    if c = '-' then readDashes flags (part.addChar '-') (flags.skip rest) else (part, c :: rest)
termination_by s.length
decreasing_by exact Nat.lt_succ_of_le (flags.length_skip_le rest)

/-- The start of a class after its opening bracket: whether it is negated, and the dashes or the
closing bracket that are characters there. -/
def readOpening (flags : Flags) (s : List Char) : Bool × Part × List Char :=
  let (negated, s) := match flags.skip s with
    | '^' :: rest => (true, flags.skip rest)
    | rest => (false, rest)
  let (part, rest) := readDashes flags .start s
  match rest with
  | ']' :: rest' =>
    if part.items = 0 then (negated, part.addChar ']', flags.skip rest') else (negated, part, rest)
  | rest => (negated, part, rest)

/-- The rest of a class, after its opening, with its closing bracket. At most `levels` classes may
stand open in it. -/
def readBracketFrom? (flags : Flags) (negated : Bool) (levels : Nat) :
    (fuel : Nat) → Part → List Char → Option (Nested CharSet × List Char)
  | 0, _, _ => none
  | fuel + 1, part, s =>
    let continueWith := readBracketFrom? flags negated levels fuel
    let nested (s : List Char) : Option (Nested CharSet × List Char) :=
      match levels with
      | 0 => none
      | levels + 1 =>
        let (negated, part, rest) := readOpening flags s
        readBracketFrom? flags negated levels fuel part rest
    match flags.skip s with
    | [] => none
    | ']' :: rest => (part.close? flags negated).map (·, rest)
    | '&' :: '&' :: rest => continueWith (part.follow flags .inter) rest
    | '-' :: '-' :: rest => continueWith (part.follow flags .diff) rest
    | '~' :: '~' :: rest => continueWith (part.follow flags .symmDiff) rest
    | '[' :: rest =>
      match (if rest.head? = some ':' then readNamed? rest.tail else none) with
      | some ((negated, set), rest) =>
        (flags.settle? negated set).bind fun set => continueWith (part.add ⟨0, set⟩) rest
      | none => (nested rest).bind fun (item, rest) => continueWith (part.add item) rest
    | s => (readRange? flags s).bind fun (set, rest) => continueWith (part.add ⟨0, set⟩) rest

/-- A class after its opening bracket, in a text that is no longer than `fuel`. -/
def readBracket? (flags : Flags) (fuel : Nat) (s : List Char) :
    Option (Nested CharSet × List Char) :=
  let (negated, part, rest) := readOpening flags s
  readBracketFrom? flags negated maxDepth (fuel + 1) part rest

end Testbench.Regex
