import Std.Data.HashMap
import Testbench.Pattern.Regex.Basic

/-!
# The machine of a regular expression

An expression is matched by a machine that reads a text byte by byte, and by a second one that
reads it backwards. Only expressions whose two machines are small enough are accepted, so the size
of a machine is part of the language. It is counted here without building the machine.

A state takes `stateBytes`, each of its ways on for a run of bytes takes `wayBytes`, and each branch
of a state that only branches takes `branchBytes`.

* `Regex.Plan` : the states of a machine in the order in which they are made, with repeated parts
  written once.
* `Regex.plan` : the plan for an expression.
* `Regex.Plan.run` : how large a machine grows by a plan.
* `Regex.fits` : whether both machines stay within `maxBytes`.

Sets of characters beyond ASCII need a net of states, one level for each byte. Parts of the net
that lead to the same states are made once, as far as a table of limited size remembers them. A
table has one place for each hash of a part, and a later part takes the place of an earlier one.
-/

namespace Testbench.Regex

open Text

def stateBytes : Nat := 32

def wayBytes : Nat := 8

def branchBytes : Nat := 4

/-- The greatest size of a machine: 10 MiB. -/
def maxBytes : Nat := 10485760

/-- The end at which a machine starts to read. -/
inductive Direction where
  | forward
  | backward
  deriving DecidableEq, Repr

/-- The states of a machine in the order in which they are made. -/
inductive Plan where
  /-- This many states, with this many bytes besides those of the states themselves. -/
  | states (count extra : Nat)
  /-- The net of states for a set of characters. -/
  | net (sequences : Thunk (List (List ByteRun)))
  | both (a b : Plan)
  | copies (n : Nat) (a : Plan)

/-! ## How large a machine grows -/

/-- What has been made of a machine. -/
structure Size where
  states : Nat
  extra : Nat
  deriving DecidableEq, Repr

namespace Size

def bytes (t : Size) : Nat := stateBytes * t.states + t.extra

/-- More states, unless the machine grows too large. -/
def add? (t : Size) (states extra : Nat) : Option Size :=
  let t := ⟨t.states + states, t.extra + extra⟩
  if t.bytes ≤ maxBytes then some t else none

end Size

/-- The hash of a sequence of numbers, by the method of Fowler, Noll and Vo with 64 bits, as one of
the places of a table. -/
def hashPlace (places : Nat) (key : List Nat) : Nat :=
  (key.foldl (fun h n => (h ^^^ n.toUInt64) * 1099511628211) (14695981039346656037 : UInt64)).toNat
    % places

/-- The parts of a net that have been made so far: the states, and a table of the states that later
parts may share. -/
structure Net where
  size : Size
  made : Std.HashMap Nat (List Nat × Nat)

namespace Net

/-- The state for this key, made anew unless the table has it. -/
def share (net : Net) (places : Nat) (key : List Nat) (extra : Nat) : Nat × Net :=
  let place := hashPlace places key
  match net.made[place]? with
  | some (k, state) => if k = key then (state, net) else create place
  | none => create place
where
  create (place : Nat) : Nat × Net :=
    let state := net.size.states
    (state, ⟨⟨state + 1, net.size.extra + extra⟩, net.made.insert place (key, state)⟩)

/-- The sequences in groups that start with the same run, and what follows that run. -/
def groups (sequences : List (List ByteRun)) : List (ByteRun × List (List ByteRun)) :=
  (sequences.foldr (fun s groups =>
    match s, groups with
    | [], groups => groups
    | run :: rest, [] => [(run, [rest])]
    | run :: rest, (first, rests) :: groups =>
      if run = first then (first, rest :: rests) :: groups
      else (run, [rest]) :: (first, rests) :: groups) [])

/-- The state where the sequences start that end in the state `target`, the ways on from it first.
No sequence is longer than `fuel`. -/
def forward (target : Nat) : (fuel : Nat) → List (List ByteRun) → Net → Nat × Net
  | 0, _, net => (target, net)
  | fuel + 1, sequences, net =>
    let step (done : List Nat × Net) (group : ByteRun × List (List ByteRun)) : List Nat × Net :=
      let (next, net) :=
        if group.2 = [[]] then (target, done.2) else forward target fuel group.2 done.2
      (next :: group.1.2 :: group.1.1 :: done.1, net)
    let (key, net) := (groups sequences).foldl step ([], net)
    net.share 10000 key.reverse (wayBytes * (key.length / 3))

/-- One sequence read backwards, from the state `target`, and a branch to where it starts. -/
def backward (target : Nat) (net : Net) (sequence : List ByteRun) : Net :=
  let step (done : Nat × Net) (run : ByteRun) : Nat × Net :=
    done.2.share 1000 [done.1, run.1, run.2] 0
  let net := (sequence.foldl step (target, net)).2
  { net with size := { net.size with extra := net.size.extra + branchBytes } }

/-- All of the net for a set of characters. -/
def whole (direction : Direction) (sequences : List (List ByteRun)) (t : Size) : Size :=
  match direction with
  | .forward =>
    (forward t.states 4 sequences ⟨⟨t.states + 1, t.extra⟩, ∅⟩).2.size
  | .backward =>
    (sequences.foldl (backward (t.states + 1)) ⟨⟨t.states + 2, t.extra⟩, ∅⟩).size

end Net

/-- The same step again and again, as long as it succeeds. -/
def repeat? (step : Size → Option Size) : (n : Nat) → Size → Option Size
  | 0, t => some t
  | n + 1, t =>
    match step t with
    | some t => repeat? step n t
    | none => none

/-- How large a machine grows by a plan, unless it grows too large. -/
def Plan.run (direction : Direction) : Plan → Size → Option Size
  | states count extra, t => t.add? count extra
  | net sequences, t => (Net.whole direction sequences.get t).add? 0 0
  | both a b, t => (a.run direction t).bind fun t => b.run direction t
  | copies n a, t => repeat? (a.run direction) n t

/-! ## The plan for an expression -/

/-- The plan for a part of an expression. -/
structure Fragment where
  plan : Plan
  /-- The bytes for a way on from the part: those of a branch, if its last state branches. -/
  link : Nat
  /-- The bytes that the part reads, if it is a literal. -/
  literal : Option (List Nat)

/-- A part that is no literal. -/
def Fragment.of (plan : Plan) (link : Nat) : Fragment := ⟨plan, link, none⟩

/-- Plans one after the other. -/
def Plan.ofList (plans : List Plan) : Plan := plans.foldr both (states 0 0)

/-- The literals that go on from one state of a tree of literals. The ends of literals divide them
into stretches, which are kept backwards, and so are the literals in a stretch. -/
def stretches (tails : List (List Nat)) : List (List (List Nat)) :=
  tails.foldl (fun done tail =>
    match tail, done with
    | [], [[], []] => done
    | [], done => [] :: done
    | tail, stretch :: done => (tail :: stretch) :: done
    | tail, [] => [[tail]]) [[]]

/-- What follows each first byte in a stretch. -/
def follow (stretch : List (List Nat)) : List (List (List Nat)) :=
  (stretch.foldl (fun (table : Std.HashMap Nat (List (List Nat))) tail =>
    match tail with
    | [] => table
    | b :: rest => table.insert b (rest :: table.getD b [])) ∅).values

/-- The states for the literals that go on from one state of a tree, with a level of the tree
taken from `fuel`. A state branches to the states of its stretches, and to the end after each
literal that ends there. -/
def treeStates : (fuel : Nat) → (level : List (List (List Nat))) → Size → Size
  | 0, _, t => t
  | fuel + 1, level, t =>
    let node (done : List (List (List Nat)) × Size) (tails : List (List Nat)) :
        List (List (List Nat)) × Size :=
      let parts := (stretches tails).map follow
      let filled := parts.filter fun next => !next.isEmpty
      let ways := (filled.map List.length).filter (1 < ·)
      let extra := wayBytes * ways.foldl (· + ·) 0 + branchBytes * (filled.length + parts.length - 1)
      (parts.flatten.filter (fun next => next.any fun tail => !tail.isEmpty) ++ done.1,
        ⟨done.2.states + filled.length + 1, done.2.extra + extra⟩)
    let (next, t) := level.foldl node ([], t)
    if next.isEmpty then t else treeStates fuel next t

/-- The plan for a tree of literals, with the state where they all end. -/
def treePlan (literals : List (List Nat)) : Plan :=
  let longest := literals.foldl (fun n l => max n l.length) 0
  let t := treeStates (longest + 1) [literals] ⟨1, 0⟩
  .states t.states t.extra

/-- Any one of some parts. The state that branches and the one where the branches meet are made after
the second part. -/
def Fragment.ofBranches (direction : Direction) (parts : List Fragment) : Fragment :=
  match parts with
  | [part] => part
  | parts =>
    match parts.mapM Fragment.literal with
    | some literals =>
      let literals := match direction with
        | .forward => literals
        | .backward => literals.map List.reverse
      .of (treePlan literals) 0
    | none =>
      let extra := parts.foldl (fun n part => n + branchBytes + part.link) 0
      let plans := parts.map Fragment.plan
      .of (.ofList (plans.take 2 ++ .states 2 extra :: plans.drop 2)) 0

/-- A part repeated. Rounds that may be left out branch to the end; unlimited rounds branch back. -/
def Fragment.times (part : Fragment) (mayBeEmpty : Bool) (least : Nat) (most : Option Nat) : Fragment :=
  match least, most with
  | 0, some 1 =>
    .of (.ofList [.states 1 0, part.plan, .states 1 (2 * branchBytes + part.link)]) 0
  | 0, none =>
    if mayBeEmpty then .of (.both part.plan (.states 3 (4 * branchBytes + part.link))) 0
    else .of (.ofList [.states 1 0, part.plan, .states 0 (branchBytes + part.link)]) branchBytes
  | least, none =>
    .of (.both (.copies least part.plan) (.states 1 (least * part.link + branchBytes))) branchBytes
  | least, some most =>
    if least = most then
      .of (.both (.copies least part.plan) (.states 0 ((least - 1) * part.link))) part.link
    else
      let first := if least = 0 then .states 1 0 else .copies least part.plan
      let round := .both (.states 1 (2 * branchBytes + part.link)) part.plan
      .of (.ofList [first, .states 1 (least * part.link), .copies (most - least) round]) 0

/-- The parts that an expression is a choice of. -/
def parts (direction : Direction) : Regex → List Fragment
  | empty => [.of (.states 1 0) 0]
  | literal chars =>
    let bytes := chars.flatMap fun c => utf8Bytes c.toNat
    [⟨.states bytes.length 0, 0, some bytes⟩]
  | oneOf set =>
    if set.isEmpty then [.of (.states 1 0) 0]
    else if set.isAscii then [.of (.states 2 (wayBytes * set.length)) 0]
    else [.of (.net (.mk fun _ => set.byteSequences)) 0]
  | place _ => [.of (.states 1 0) 0]
  | seq a b =>
    let x := Fragment.ofBranches direction (a.parts direction)
    let y := Fragment.ofBranches direction (b.parts direction)
    match direction with
    | .forward => [.of (.ofList [x.plan, .states 0 x.link, y.plan]) y.link]
    | .backward => [.of (.ofList [y.plan, .states 0 y.link, x.plan]) x.link]
  | alt a b => a.parts direction ++ b.parts direction
  | repeated a least most _ =>
    let mayBeEmpty := !(a.leastBytes.any (0 < ·))
    [(Fragment.ofBranches direction (a.parts direction)).times mayBeEmpty least most]
  | capture _ a =>
    let part := Fragment.ofBranches direction (a.parts direction)
    match direction with
    | .forward => [.of (.ofList [.states 1 0, part.plan, .states 1 part.link]) 0]
    | .backward => [.of part.plan part.link]

/-- The plan for an expression. A machine whose matches do not all start at its end of the text first
skips any number of bytes. -/
def plan (direction : Direction) (r : Regex) : Plan :=
  let anchored := match direction with
    | .forward => r.startsWith .textStart
    | .backward => r.endsWith .textEnd
  let skip := if anchored then .states 1 0 else .states 3 (wayBytes + 2 * branchBytes)
  let whole := match direction with
    | .forward => capture 0 r
    | .backward => r
  let part := Fragment.ofBranches direction (whole.parts direction)
  .ofList [skip, part.plan, .states 1 part.link]

/-- Choices between at least this many literals are looked up and need no machine. -/
def manyLiterals : Nat := 3000

/-- Whether an expression is a choice between so many literals. -/
def isLookedUp (r : Regex) : Bool :=
  let isLiteral : Regex → Bool
    | literal _ => true
    | _ => false
  decide (manyLiterals ≤ r.branches.length) && r.branches.all isLiteral

/-- Whether both machines are small enough. -/
def fits (r : Regex) : Bool :=
  r.isLookedUp ||
    [Direction.forward, .backward].all fun direction =>
      ((r.plan direction).run direction ⟨0, 0⟩).isSome

end Testbench.Regex
