import Std.Data.HashMap
import Testbench.Pattern.Regex.Basic

/-!
# Searching a text for a regular expression

The places between the characters of a text are numbered from zero, and a set of places is kept as
the number whose bits they are. An expression takes the set of places where a match may start to
the set of places where it may end.

* `bitsOf` : a set of places as a number.
* `Regex.Walk` : an expression over the places of one text.
* `Regex.Walk.ends` : the places where a walk may end, given those where it starts.
* `Regex.Test` : a question about one place; `Regex.walk` : an expression over a given text.
* `Regex.isMatch` : whether some part of a text matches.
-/

namespace Testbench

open Text

/-- The number whose bit `i` tells whether `p` holds of `first + i`, for `i` below `count`. The two
halves are taken one by one, so that only a few large numbers arise. -/
def bitsOf (p : Nat → Bool) (first count : Nat) : Nat :=
  if count = 0 then 0
  else if count = 1 then (p first).toNat
  else
    let half := count / 2
    bitsOf p first half ||| (bitsOf p (first + half) (count - half) <<< half)
termination_by count
decreasing_by all_goals omega

namespace Regex

/-- Ways through a text. -/
inductive Walk where
  | stay
  /-- From in front of one of the characters of each set to behind it, one set after the other. -/
  | steps (passed : List (Thunk Nat))
  /-- Only from these places. -/
  | hold (held : Thunk Nat)
  | seq (a b : Walk)
  | alt (a b : Walk)
  | repeated (a : Walk) (least : Nat) (most : Option Nat)

/-- `f` applied `n` times, or fewer once nothing changes any more. -/
def iterate (f : Nat → Nat) : (n : Nat) → Nat → Nat
  | 0, s => s
  | n + 1, s =>
    let next := f s
    if next = s then s else iterate f n next

/-- Up to `n` rounds of `f`, added to the places reached before. A round starts only from places where
none has started. -/
def rounds (f : Nat → Nat) : (n : Nat) → (reached tried starts : Nat) → Nat
  | 0, reached, _, _ => reached
  | n + 1, reached, tried, starts =>
    let next := f starts
    let new := next ^^^ (next &&& tried)
    if new = 0 then reached ||| next else rounds f n (reached ||| next) (tried ||| new) new

/-- Steps past one character each. -/
def stepAll (passed : List (Thunk Nat)) (starts : Nat) : Nat :=
  passed.foldl (fun s set => if s = 0 then 0 else (s &&& set.get) <<< 1) starts

/-- Any number of steps past characters of one set. Adding a place in front of such characters to
their set carries up to the place behind the last of them, and every bit on the way changes. -/
def flood (passed starts : Nat) : Nat :=
  starts ||| (((starts &&& passed) + passed) ^^^ passed)

/-- The places where a walk may end that starts at one of `starts`, in a text with `count` places. -/
def Walk.ends (count : Nat) : Walk → (starts : Nat) → Nat
  | stay, starts => starts
  | steps passed, starts => stepAll passed starts
  | hold held, starts => if starts = 0 then 0 else starts &&& held.get
  | seq a b, starts => b.ends count (a.ends count starts)
  | alt a b, starts => a.ends count starts ||| b.ends count starts
  | repeated a least (some most), starts =>
    let base := iterate (a.ends count) least starts
    rounds (a.ends count) (min (most - least) count) base base base
  | repeated a least none, starts =>
    match a with
    | steps [passed] => flood passed.get (iterate (fun s => (s &&& passed.get) <<< 1) least starts)
    | a =>
      let base := iterate (a.ends count) (least - 1) starts
      rounds (a.ends count) count (if least = 0 then base else 0) base base

/-- A question about one place of a text. -/
inductive Test where
  /-- Whether a character of the set comes next. -/
  | member (set : CharSet)
  | holds (condition : Assertion)
  deriving DecidableEq, Hashable

/-- The places of a text that pass a test. -/
def Test.places (text : Array Char) : Test → Nat
  | member set => bitsOf (fun i => text[i]?.any set.contains) 0 text.size
  | holds condition =>
    bitsOf (fun i => condition.holds (if i = 0 then none else text[i - 1]?) text[i]?) 0
      (text.size + 1)

/-- Answers about one text, each found when it is first asked for and kept for the next time. -/
abbrev Answers := Std.HashMap Test (Thunk Nat)

/-- The places of a text that pass a test. -/
def Test.ask (text : Array Char) (test : Test) : StateM Answers (Thunk Nat) := do
  match (← get)[test]? with
  | some places => return places
  | none =>
    let places := .mk fun _ => test.places text
    modify (·.insert test places)
    return places

/-- An expression over the places of one text. -/
def walk (text : Array Char) : Regex → StateM Answers Walk
  | empty => return .stay
  | literal chars => return .steps (← chars.mapM fun c => (Test.member (.single c)).ask text)
  | oneOf set => return .steps [← (Test.member set).ask text]
  | place condition => return .hold (← (Test.holds condition).ask text)
  | seq a b => return .seq (← a.walk text) (← b.walk text)
  | alt a b => return .alt (← a.walk text) (← b.walk text)
  | repeated a least most _ => return .repeated (← a.walk text) least most
  | capture _ a => a.walk text

/-- Whether some part of the text matches. -/
def isMatch (r : Regex) (text : String) : Bool :=
  let chars := text.toList.toArray
  let count := chars.size + 1
  ((r.walk chars).run ∅).1.ends count (1 <<< count - 1) != 0

end Regex

end Testbench
