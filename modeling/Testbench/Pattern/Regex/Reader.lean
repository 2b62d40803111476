import Testbench.Pattern.Regex.Bracket
import Testbench.Pattern.Regex.Machine
import Testbench.Text.Letter

/-!
# Reading regular expressions

The reader takes the text of an expression from left to right and gives up at the first thing that
is none: an operator without operand, an open group or class, an unknown escape, flag or group
name, a range or a count that runs backwards. There are no references to groups and no conditions
on the text around a match other than those of `Assertion`.

* `Regex.Branches` : what has been read of a group.
* `Regex.readBranches?` : everything up to the end of a group.
* `Regex.read?` : a whole expression, within the limits on its depth and on its machine.
-/

namespace Testbench.Regex

open Text

/-! ## Counts -/

/-- The digits of a count, with the white space that may stand among them; `seen` are the digits so
far, the last one first. -/
def readCountDigits (flags : Flags) (seen s : List Char) : List Char × List Char :=
  match s with
  | [] => (seen.reverse, [])
  | c :: rest =>
    if c.isDigit then readCountDigits flags (c :: seen) (flags.skip rest)
    else (seen.reverse, c :: rest)
termination_by s.length
decreasing_by exact Nat.lt_succ_of_le (flags.length_skip_le rest)

/-- A count below `2 ^ 32`, with white space around it. -/
def readCount? (flags : Flags) (s : List Char) : Option (Nat × List Char) :=
  let (digits, rest) := readCountDigits flags [] (s.dropWhile isBlank)
  (readNatUpTo? 10 4294967295 digits).map (·, flags.skip (rest.dropWhile isBlank))

/-- The least and the greatest count after an opening brace, with the closing brace. -/
def readCounts? (flags : Flags) (s : List Char) : Option ((Nat × Option Nat) × List Char) := do
  let (least, rest) ← readCount? flags (flags.skip s)
  match rest with
  | '\x7d' :: rest => some ((least, some least), rest)
  | ',' :: rest =>
    match flags.skip rest with
    | '\x7d' :: rest => some ((least, none), rest)
    | rest =>
      let (most, rest) ← readCount? flags rest
      match rest with
      | '\x7d' :: rest => if least ≤ most then some ((least, some most), rest) else none
      | _ => none
  | _ => none

/-- Whether a repetition is marked by a question mark, and the text after it. -/
def readMark (s : List Char) : Bool × List Char :=
  match s with
  | '?' :: rest => (true, rest)
  | s => (false, s)

/-! ## Groups -/

/-- Whether a text names a group. -/
def isGroupName (name : List Char) : Bool :=
  match name with
  | [] => false
  | c :: rest =>
    (c == '_' || isAlphabetic c) &&
      rest.all fun c => c == '_' || c == '.' || c == '[' || c == ']' || isAlphanumeric c

/-- The name of a group up to its closing angle bracket. -/
def readGroupName? (s : List Char) : Option (List Char × List Char) :=
  match s.dropWhile (· != '>') with
  | '>' :: rest =>
    let name := s.takeWhile (· != '>')
    if isGroupName name then some (name, rest) else none
  | _ => none

/-- What opens after a parenthesis. -/
inductive Opening where
  | capture
  | named (name : List Char)
  | scope (flags : Flags)
  /-- Flags for the rest of the group around, no group of its own. -/
  | switch (flags : Flags)
  deriving DecidableEq, Repr

/-- What opens after a parenthesis, and the text after it. -/
def readOpening? (flags : Flags) (s : List Char) : Option (Opening × List Char) :=
  match flags.skip s with
  | '?' :: '=' :: _ => none
  | '?' :: '!' :: _ => none
  | '?' :: '<' :: '=' :: _ => none
  | '?' :: '<' :: '!' :: _ => none
  | '?' :: 'P' :: '<' :: rest => (readGroupName? rest).map fun (name, rest) => (.named name, rest)
  | '?' :: '<' :: rest => (readGroupName? rest).map fun (name, rest) => (.named name, rest)
  | '?' :: rest =>
    match readFlags? [] flags rest with
    | some (flags, _, ':' :: rest) => some (.scope flags, rest)
    | some (flags, seen, ')' :: rest) => if seen.isEmpty then none else some (.switch flags, rest)
    | _ => none
  | rest => some (.capture, rest)

/-! ## Expressions -/

/-- Items put together; two or more of them are a level of their own. -/
def Nested.ofItems (join : List Regex → Regex) (items : List (Nested Regex)) : Nested Regex :=
  match items with
  | [] => ⟨0, empty⟩
  | [item] => item
  | items =>
    ⟨items.foldl (fun n item => max n item.depth) 0 + 1, join (items.map Nested.value)⟩

/-- The groups opened so far. -/
structure Groups where
  captures : Nat
  names : List (List Char)
  deriving DecidableEq, Repr

/-- What has been read of a group. The finished branches and the items of the last one are kept
backwards; a flag group is an item that is nothing to repeat. -/
structure Branches where
  finished : List (Nested Regex)
  items : List (Option (Nested Regex))
  groups : Groups
  flags : Flags

namespace Branches

/-- A group with nothing in it yet, after these groups. -/
def start (groups : Groups) (flags : Flags) : Branches := ⟨[], [], groups, flags⟩

/-- The last branch. -/
def branch (b : Branches) : Nested Regex :=
  .ofItems concat (b.items.reverse.map fun item => item.getD ⟨0, empty⟩)

/-- The whole group. -/
def value (b : Branches) : Nested Regex := .ofItems choice (b.branch :: b.finished).reverse

def add (b : Branches) (item : Option (Nested Regex)) : Branches :=
  { b with items := item :: b.items }

/-- After a bar. -/
def next (b : Branches) : Branches := { b with finished := b.branch :: b.finished, items := [] }

/-- The last item repeated, if there is one to repeat. -/
def repeat? (b : Branches) (least : Nat) (most : Option Nat) (marked : Bool) : Option Branches :=
  match b.items with
  | some item :: items =>
    let item := ⟨item.depth + 1, item.value.times least most (b.flags.shortest != marked)⟩
    some { b with items := some item :: items }
  | _ => none

end Branches

/-- What a character that is no operator stands for. -/
def readPlain? (flags : Flags) (c : Char) (rest : List Char) : Option (Regex × List Char) :=
  match c with
  | '\\' => (readEscape? flags rest).map fun (p, rest) => (p.toRegex flags, rest)
  | '.' => flags.dot?.map fun set => (ofSet set, rest)
  | '^' => some (.place flags.startPlace, rest)
  | '$' => some (.place flags.endPlace, rest)
  | c => some (flags.char c, rest)

/-- Everything up to the end of a group or of the whole text: the expression, the groups so far, and
what is left, with the closing parenthesis. At most `levels` groups may stand open in it. -/
def readBranches? (levels : Nat) : (fuel : Nat) → Branches → List Char →
    Option (Nested Regex × Groups × List Char)
  | 0, _, _ => none
  | fuel + 1, b, s =>
    let flags := b.flags
    let continueWith := readBranches? levels fuel
    let inGroup (groups : Groups) (inner : Flags) (wrap : Regex → Regex) (rest : List Char) :
        Option (Nested Regex × Groups × List Char) :=
      match levels with
      | 0 => none
      | levels + 1 =>
        (readBranches? levels fuel (.start groups inner) rest).bind fun (inside, groups, rest) =>
          match rest with
          | ')' :: rest =>
            let group := ⟨inside.depth + 1, wrap inside.value⟩
            continueWith ({ b with groups := groups }.add (some group)) rest
          | _ => none
    let inCapture (names : List (List Char)) (rest : List Char) :
        Option (Nested Regex × Groups × List Char) :=
      let number := b.groups.captures + 1
      inGroup ⟨number, names⟩ flags (capture number) rest
    let repeated (least : Nat) (most : Option Nat) (rest : List Char) :
        Option (Nested Regex × Groups × List Char) :=
      let (marked, rest) := readMark rest
      (b.repeat? least most marked).bind fun b => continueWith b rest
    match flags.skip s with
    | [] => some (b.value, b.groups, [])
    | ')' :: rest => some (b.value, b.groups, ')' :: rest)
    | '|' :: rest => continueWith b.next rest
    | '(' :: rest =>
      match readOpening? flags rest with
      | none => none
      | some (.capture, rest) => inCapture b.groups.names rest
      | some (.named name, rest) =>
        if b.groups.names.contains name then none else inCapture (name :: b.groups.names) rest
      | some (.scope inner, rest) => inGroup b.groups inner id rest
      | some (.switch flags, rest) => continueWith ({ b with flags := flags }.add none) rest
    | '[' :: rest =>
      (readBracket? flags fuel rest).bind fun (set, rest) =>
        continueWith (b.add (some ⟨set.depth, ofSet set.value⟩)) rest
    | '?' :: rest => repeated 0 (some 1) rest
    | '*' :: rest => repeated 0 none rest
    | '+' :: rest => repeated 1 none rest
    | '\x7b' :: rest =>
      (readCounts? flags rest).bind fun ((least, most), rest) =>
        repeated least most (flags.skip rest)
    | c :: rest =>
      (readPlain? flags c rest).bind fun (item, rest) =>
        continueWith (b.add (some ⟨0, item⟩)) rest

/-- A whole expression. No more groups need to be entered than may nest. -/
def read? (source : String) : Option Regex :=
  let s := source.toList
  match readBranches? maxDepth (s.length + 1) (.start ⟨0, []⟩ {}) s with
  | some (r, _, []) => if r.depth ≤ maxDepth && r.value.fits then some r.value else none
  | _ => none

end Testbench.Regex
