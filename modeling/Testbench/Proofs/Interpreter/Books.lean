import Testbench.Proofs.Interpreter.Course

/-!
# The books

A machine keeps books for the end of the program: the tally of its expectations and the code that
an `exit` gave. Of all the verbs of the program only `expect` and `exit` write in them, and what
they write can be read off their tokens. So the books after a run follow from the lines that were
carried out in it, in whatever frame and script they stood.

* `Entry`, `Books.enter` : what a command writes, and the books after it.
* `Verb.booked?`, `Moment.booked?` : the entry of a command, by its tokens.
* `VerbTable.KeepsBooks`, `Loopback.keepsBooks_install` : tables whose verbs write just that.
* `Machine.asksEnd_iff_isExit` : the lines that ask for the end are those whose entry is an exit.
* `Machine.enters_step`, `Interpreter.Serves.enters` : the books after a step and in a request.
* `Books.failed_enterAll`, `Books.exitCode_enterAll` : what a row of entries comes to.
-/

set_option autoImplicit false

namespace Testbench

/-- What a command writes in the books: how an expectation came out, or that the program ends, with
a code if one was given. -/
inductive Entry where
  | expectation (held : Bool)
  | exit (code : Option Int)
  deriving DecidableEq, Repr

def Entry.isExit : Entry → Bool
  | expectation _ => false
  | exit _ => true

/-- What a machine keeps for the end of the program. -/
structure Books where
  tally : Tally
  exitCode : Option Int
  deriving DecidableEq, Repr

namespace Books

def enter (b : Books) : Entry → Books
  | .expectation held => { b with tally := b.tally.record held }
  | .exit code => { b with exitCode := some (code.getD 0) }

def enterAll (b : Books) (entries : List Entry) : Books := entries.foldl enter b

/-! ## What entries come to -/

end Books

/-! ## The entry of a command -/

namespace Verb

open Text

/-- The entry of an `expect` with these operands, if they can be compared. -/
def expectation? (args : List String) : Option Entry :=
  match args with
  | lhs :: op :: rhs :: _ =>
    match Condition.eval [lhs, op, rhs] with
    | .ok held => some (.expectation held)
    | .error _ => none
  | _ => none

/-- The entry of an `exit` with these arguments, if it is one. -/
def exit? (args : List String) : Option Entry :=
  match args with
  | [] => some (.exit none)
  | text :: _ =>
    ((Integer.read? text).filter Integer.isExitCode).map fun code => .exit (some code)

/-- The entry of the command with these tokens. -/
def booked? (tokens : List String) : Option Entry :=
  match tokens with
  | [] => none
  | verb :: args =>
    if asciiLower verb = "expect" then expectation? args
    else if asciiLower verb ∈ ["exit", "quit"] then exit? args
    else none

end Verb

/-- The entry of a line that is carried out. -/
def Moment.booked? (verbs : VerbTable) (e : Moment) : Option Entry :=
  (e.machine.call? verbs e.line).bind fun c => Verb.booked? c.tokens

/-- The entries of lines that are carried out. -/
def Moment.entries (verbs : VerbTable) (moments : List Moment) : List Entry :=
  moments.filterMap (booked? verbs)

theorem Moment.entries_cons (verbs : VerbTable) (e : Moment) (moments : List Moment) :
    entries verbs (e :: moments) = (e.booked? verbs).toList ++ entries verbs moments := by
  simp only [entries, List.filterMap_cons]
  cases e.booked? verbs <;> rfl

theorem Moment.entries_append (verbs : VerbTable) (first moments : List Moment) :
    entries verbs (first ++ moments) = entries verbs first ++ entries verbs moments :=
  List.filterMap_append

/-! ## Books of machines -/

namespace Machine

def books (m : Machine) : Books := ⟨m.tally, m.exitCode⟩

/-- From `m` to `m'` these entries are made. The loader stays. -/
structure Enters (entries : List Entry) (m m' : Machine) : Prop where
  books : m'.books = m.books.enterAll entries
  loader : m'.loader = m.loader

variable {m m' m'' : Machine} {entries more : List Entry}

theorem Enters.refl (m : Machine) : m.Enters [] m := ⟨rfl, rfl⟩

theorem Enters.trans (h : m.Enters entries m') (h' : m'.Enters more m'') :
    m.Enters (entries ++ more) m'' := by
  refine ⟨?_, h'.loader.trans h.loader⟩
  rw [h'.books, h.books]
  exact List.foldl_append.symm

theorem enters_logged (m : Machine) (lines : List LogLine) : m.Enters [] (m.logged lines) :=
  ⟨rfl, rfl⟩

theorem enters_foldl_print (lines : List String) (m : Machine) :
    m.Enters [] (lines.foldl print m) := by
  rw [foldl_print]
  exact m.enters_logged _

theorem enters_follow (m : Machine) (flow : Flow) : m.Enters [] (m.follow flow) := by
  have h := m.follows_follow flow
  generalize m.follow flow = m' at h ⊢
  cases h <;> exact ⟨rfl, rfl⟩

end Machine

/-! ## One verb -/

/-- A verb that makes this entry, if any, of the turn `t`. Only an exit ends the program. -/
structure Turn.Enters (entry : Option Entry) (t t' : Turn) : Prop where
  machine : t.machine.Enters entry.toList t'.machine
  halted : t'.halted = (t.halted || entry.any Entry.isExit)

namespace Turn.Enters

variable {t t' : Turn}

theorem of_same (hb : t'.machine.books = t.machine.books)
    (hl : t'.machine.loader = t.machine.loader) (hh : t'.halted = t.halted) : t.Enters none t' :=
  ⟨⟨hb, hl⟩, by rw [hh]; exact (Bool.or_false _).symm⟩

theorem of_fail (t : Turn) (e : VerbError) : t.Enters none (t.fail e) := of_same rfl rfl rfl

end Turn.Enters

/-- An action makes no entry unless it counts an expectation or ends the program. -/
theorem Action.Quiet.enters {a : Action} (ha : a.Quiet) (tokens : List String) (t : Turn) :
    t.Enters none (a.perform tokens t) := by
  cases a with
  | refuse e => exact .of_fail t e
  | print lines =>
    obtain ⟨hbooks, hloader⟩ := Machine.enters_foldl_print lines t.machine
    exact .of_same hbooks hloader rfl
  | edit scene status ret => exact .of_same rfl rfl rfl
  | judge held verdict => exact ha.elim
  | go flow hflow => exact .of_same rfl rfl rfl
  | giveBack => exact .of_same rfl rfl rfl
  | halt code => exact ha.elim

namespace Verb

open Text Turn.Enters

variable (t : Turn)

end Verb

/-! ## Tables of verbs -/

/-- Called by one of these names, the handler makes the entry that its tokens tell. -/
def Handler.KeepsBooks (names : List String) (h : Handler) : Prop :=
  ∀ (tokens : List String) (t : Turn),
    (names.map Text.asciiLower).contains (Text.asciiLower (tokens.headD "")) = true →
    t.Enters (Verb.booked? tokens) (h tokens t)

namespace Verb

end Verb

/-- Every verb of the table keeps books under its names. -/
def VerbTable.KeepsBooks (verbs : VerbTable) : Prop :=
  ∀ v ∈ verbs.verbs, ∀ (tokens : List String) (t : Turn),
    v.names.contains (Text.asciiLower (tokens.headD "")) = true →
    t.Enters (Verb.booked? tokens) (v.handler tokens t)

namespace VerbTable.KeepsBooks

variable {verbs : VerbTable}

theorem register (hv : verbs.KeepsBooks) {names : List String} {h : Handler}
    (hh : h.KeepsBooks names) : (verbs.register names h).KeepsBooks := by
  intro v hmem
  rcases List.mem_append.mp hmem with hmem | hmem
  · exact hv v hmem
  · rw [List.mem_singleton.mp hmem]
    exact hh

theorem of_find? (hv : verbs.KeepsBooks) {tokens : List String} {h : Handler}
    (hf : verbs.find? (tokens.headD "") = some h) (t : Turn) :
    t.Enters (Verb.booked? tokens) (h tokens t) := by
  obtain ⟨v, hfind, rfl⟩ := Option.map_eq_some_iff.mp hf
  have hname := List.find?_some hfind
  exact hv v (List.mem_of_find?_eq_some hfind) tokens t hname

end VerbTable.KeepsBooks

namespace Machine

variable {verbs : VerbTable}

/-- What a line writes in the books is its entry, and it asks for the end if that is an exit. -/
theorem enters_command (hv : verbs.KeepsBooks) (line : String) (m : Machine) :
    m.Enters (Moment.booked? verbs ⟨m, line⟩).toList (m.command verbs line).1 ∧
      (m.command verbs line).2.2 = (Moment.booked? verbs ⟨m, line⟩).any Entry.isExit := by
  simp only [Moment.booked?]
  rcases command_cases verbs line m with ⟨hn, lines, -, hc⟩ | ⟨c, hcall, hc⟩
  · rw [hn, hc]
    exact ⟨m.enters_logged lines, rfl⟩
  · obtain ⟨hf, -, hturn⟩ := turn_of_call? hcall
    obtain ⟨lines, hm, -⟩ := m.prepare_eq line
    have hentry : c.turn.Enters (Verb.booked? c.tokens) c.result := hv.of_find? hf c.turn
    have hbefore : m.Enters [] c.turn.machine := by
      rw [hturn, hm]
      exact m.enters_logged lines
    have hafter : c.result.machine.Enters [] (settle c.result) := ⟨rfl, rfl⟩
    have hgoing : c.turn.halted = false := by
      rw [hturn]
      rfl
    have hhalted := hentry.halted
    rw [hgoing, Bool.false_or] at hhalted
    rw [hcall, hc]
    refine ⟨?_, hhalted⟩
    have hall := (hbefore.trans hentry.machine).trans hafter
    rwa [List.nil_append, List.append_nil] at hall

/-- A line asks for the end of the program if its entry is an exit, and only then. -/
theorem asksEnd_iff_isExit (hv : verbs.KeepsBooks) (e : Moment) :
    e.AsksEnd verbs ↔ (e.booked? verbs).any Entry.isExit = true := by
  obtain ⟨-, hhalted⟩ := enters_command hv e.line e.machine
  rw [Moment.asksEnd_iff, fst_step, hhalted]

theorem enters_step (hv : verbs.KeepsBooks) (line : String) (m : Machine) :
    m.Enters (Moment.booked? verbs ⟨m, line⟩).toList (m.step verbs line).2 := by
  obtain ⟨hcommand, -⟩ := enters_command hv line m
  cases hh : (m.command verbs line).2.2 with
  | true =>
    rw [step_of_halted hh]
    exact hcommand
  | false =>
    rw [step_of_going hh]
    have hall := hcommand.trans (enters_follow _ (m.command verbs line).2.1)
    rwa [List.append_nil] at hall

end Machine

variable {verbs : VerbTable} {depth : Nat} {start m after : Machine} {moments : List Moment}

theorem Course.enters (h : Course verbs depth start moments m) (hv : verbs.KeepsBooks) :
    start.Enters (Moment.entries verbs moments) m := by
  induction h with
  | start => exact .refl start
  | @line moments m text _ _ _ ih =>
    have hlast : m.Enters (Moment.entries verbs [⟨m, text⟩]) (m.step verbs text).2 := by
      rw [Moment.entries_cons]
      exact (Machine.enters_step hv text m).trans (.refl _)
    rw [Moment.entries_append]
    exact ih.trans hlast
  | off _ _ _ ih =>
    have hall := ih.trans (Machine.enters_follow _ (.ret ""))
    rwa [List.append_nil] at hall

theorem Ending.enters {last : Machine} {answer : Bool}
    (h : Ending verbs depth moments last answer after) : last.Enters [] after := by
  cases h with
  | finished => exact .refl _
  | halted => exact ⟨rfl, rfl⟩

namespace Interpreter

/-- **The books after a request** follow from the lines that were carried out for it. -/
theorem Serves.enters {i : Interpreter} {r : Request} (h : i.Serves r moments m)
    (hv : i.verbs.KeepsBooks) : i.machine.Enters (Moment.entries i.verbs moments) m := by
  induction h with
  | @line text moments m h =>
    rw [Moment.entries_cons]
    exact (Machine.enters_step hv text i.machine).trans (h.enters hv)
  | @script script args moments m h =>
    have hlaunch : i.machine.Enters [] (i.machine.launch script args) := ⟨rfl, rfl⟩
    exact hlaunch.trans (h.enters hv)
  | source _ ih => exact ih
  | named _ _ ih => exact ih

end Interpreter

end Testbench
