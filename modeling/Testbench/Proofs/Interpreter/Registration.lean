import Testbench.Proofs.Interpreter.Verbs

/-!
# Which verb a name stands for

A host adds verbs behind those that are there or in front of them, under names in any case, and the
interpreter keeps two lists for it: the verbs in the order in which they are tried, and the names as
they came. From the course of the registrations alone, the latest one in front that has a name
decides what the name stands for, and failing that the earliest one behind. The core verbs are the
earliest of all.

* `Registration`, `Registration.latest?`, `Registration.earliest?` : registrations, and which of
  them decides.
* `VerbTable.find?_register`, `find?_registerFront` : what one registration does to every name.
* `Interpreter.find?_enroll`, `find?_enrollAll` : the same for one and for any registrations.
* `Interpreter.Listed` : the two lists agree; `Listed.enroll`, `Listed.enrollAll` : they stay so.
* `Interpreter.enrollAll_resolves` : **what a name stands for, and which names there are.**
-/

set_option autoImplicit false

namespace Testbench

open Text

/-- A verb that is added, in front of those that are there or behind them. -/
structure Registration where
  inFront : Bool
  names : List String
  handler : Handler

namespace Registration

/-- The verb goes by this name, in any case. -/
def isFor (name : String) (r : Registration) : Bool :=
  r.names.any fun n => asciiLower n == asciiLower name

/-- The last registration in front under a name. -/
def latest? (name : String) (rs : List Registration) : Option Registration :=
  rs.reverse.find? fun r => r.inFront && r.isFor name

/-- The first registration behind under a name. -/
def earliest? (name : String) (rs : List Registration) : Option Registration :=
  rs.find? fun r => !r.inFront && r.isFor name

/-- The core verbs, which every interpreter registers first. -/
def core : List Registration := Verb.core.map fun verb => ⟨false, verb.1, verb.2⟩

variable (name : String) (r : Registration) (rs : List Registration)

theorem latest?_cons :
    latest? name (r :: rs) =
      (latest? name rs).or (if r.inFront && r.isFor name then some r else none) := by
  rw [latest?, List.reverse_cons, List.find?_append, List.find?_singleton]
  rfl

theorem earliest?_cons :
    earliest? name (r :: rs) =
      (if !r.inFront && r.isFor name then some r else none).or (earliest? name rs) := by
  rw [earliest?, List.find?_cons]
  cases !r.inFront && r.isFor name <;> rfl

end Registration

/-! ## One registration -/

namespace VerbTable

variable (t : VerbTable) (name : String) (r : Registration)

theorem contains_asciiLower :
    (r.names.map asciiLower).contains (asciiLower name) = r.isFor name := by
  rw [List.contains_eq_any_beq, List.any_map]
  simp [Registration.isFor, Function.comp_def, Bool.beq_comm]

/-- A verb that is added behind is found if there is no other one under the name. -/
theorem find?_register :
    (t.register r.names r.handler).find? name =
      (t.find? name).or (if r.isFor name then some r.handler else none) := by
  rw [find?, register, List.find?_append, List.find?_singleton, contains_asciiLower, Option.map_or]
  cases r.isFor name <;> rfl

/-- A verb that is added in front is found in place of any other one under the name. -/
theorem find?_registerFront :
    (t.registerFront r.names r.handler).find? name =
      if r.isFor name then some r.handler else t.find? name := by
  rw [find?, registerFront, List.find?_cons, contains_asciiLower]
  cases r.isFor name <;> rfl

end VerbTable

namespace Interpreter

variable (i : Interpreter) (name : String) (r : Registration) (rs : List Registration)

/-- The interpreter with one verb more. -/
def enroll (i : Interpreter) (r : Registration) : Interpreter :=
  if r.inFront then i.registerFront r.names r.handler else i.register r.names r.handler

theorem find?_enroll :
    (i.enroll r).verbs.find? name =
      (if r.inFront && r.isFor name then some r.handler else none).or
        ((i.verbs.find? name).or
          (if !r.inFront && r.isFor name then some r.handler else none)) := by
  obtain ⟨inFront, names, handler⟩ := r
  cases inFront with
  | true =>
    refine (VerbTable.find?_registerFront i.verbs name _).trans ?_
    cases Registration.isFor name ⟨true, names, handler⟩ <;> simp
  | false => exact VerbTable.find?_register i.verbs name _

/-- A name is added to the others if it is not there yet. -/
theorem mem_foldl_addName (names : List String) (listed : List String) (n : String) :
    n ∈ names.foldl addName listed ↔ n ∈ listed ∨ n ∈ names := by
  induction names generalizing listed with
  | nil => simp
  | cons first names ih =>
    have hadd : n ∈ addName listed first ↔ n ∈ listed ∨ n = first := by
      rw [addName]
      split
      · rename_i hlisted
        have hfirst : first ∈ listed := by simpa using hlisted
        exact ⟨.inl, fun h => h.elim id fun heq => heq ▸ hfirst⟩
      · simp
    rw [List.foldl_cons, ih, hadd, List.mem_cons, or_assoc]

theorem mem_verbNames_enroll (n : String) :
    n ∈ (i.enroll r).machine.verbNames ↔
      n ∈ i.machine.verbNames ∨ n ∈ r.names.map asciiLower := by
  rw [enroll]
  split
  · exact mem_foldl_addName _ _ n
  · exact List.mem_append

theorem mem_names_iff :
    asciiLower name ∈ r.names.map asciiLower ↔ r.isFor name = true := by
  rw [← VerbTable.contains_asciiLower, List.contains_iff_mem]

/-- The names that are listed are those that stand for a verb. -/
def Listed (i : Interpreter) : Prop :=
  ∀ name, (i.verbs.find? name).isSome ↔ asciiLower name ∈ i.machine.verbNames

theorem Listed.enroll {i : Interpreter} (hi : i.Listed) (r : Registration) :
    (i.enroll r).Listed := by
  intro name
  rw [find?_enroll, mem_verbNames_enroll, mem_names_iff, ← hi name]
  cases r.inFront <;> cases r.isFor name <;> simp

/-! ## Any registrations -/

/-- The interpreter with more verbs, added one after the other. -/
def enrollAll (i : Interpreter) (rs : List Registration) : Interpreter := rs.foldl enroll i

/-- The verbs in front come before those that were there, and those behind come after them. -/
theorem find?_enrollAll :
    (i.enrollAll rs).verbs.find? name =
      ((Registration.latest? name rs).map (·.handler)).or
        ((i.verbs.find? name).or ((Registration.earliest? name rs).map (·.handler))) := by
  induction rs generalizing i with
  | nil => simp [enrollAll, Registration.latest?, Registration.earliest?]
  | cons r rs ih =>
    have hmap (b : Bool) : (if b then some r else none).map (·.handler) =
        if b then some r.handler else none := by cases b <;> rfl
    have hrest := ih (i.enroll r)
    rw [find?_enroll] at hrest
    rw [enrollAll, List.foldl_cons, ← enrollAll, hrest, Registration.latest?_cons,
      Registration.earliest?_cons, Option.map_or, Option.map_or, hmap, hmap]
    simp only [Option.or_assoc]

theorem Listed.enrollAll {i : Interpreter} (hi : i.Listed) (rs : List Registration) :
    (i.enrollAll rs).Listed := by
  induction rs generalizing i with
  | nil => exact hi
  | cons r rs ih => exact ih (hi.enroll r)

/-- The core verbs are the first that are added to a machine. -/
theorem ofMachine_eq_enrollAll (m : Machine) :
    ofMachine m = enrollAll { machine := m, verbs := {} } Registration.core := by
  rw [enrollAll, Registration.core, List.foldl_map]
  rfl

/-- **What a name stands for after any registrations.** On a machine that has no verbs yet, the verb
of a name in any case is that of the latest registration in front under the name, and if there is
none, that of the earliest one behind, where the core verbs come first; this is the handler that
carries out a command of that name. The names that stand for a verb are those that are listed. -/
theorem enrollAll_resolves (m : Machine) (hm : m.verbNames = []) (rs : List Registration)
    (name : String) :
    let i := (ofMachine m).enrollAll rs
    let all := Registration.core ++ rs
    let decisive? := (Registration.latest? name all).or (Registration.earliest? name all)
    i.verbs.find? name = decisive?.map (·.handler) ∧
      (∀ r, decisive? = some r → ∀ args t,
        Machine.dispatch i.verbs (name :: args) t = r.handler (name :: args) t) ∧
      (decisive?.isSome ↔ asciiLower name ∈ i.machine.verbNames) := by
  intro i all decisive?
  have hi : i = enrollAll { machine := m, verbs := {} } all := by
    simp only [i, all, ofMachine_eq_enrollAll, enrollAll, List.foldl_append]
  have hempty : Interpreter.Listed { machine := m, verbs := {} } := by
    intro name
    rw [hm]
    simp [VerbTable.find?]
  have hfind : i.verbs.find? name = decisive?.map (·.handler) := by
    rw [hi, find?_enrollAll, Option.map_or]
    rfl
  refine ⟨hfind, fun r hr args t => ?_, ?_⟩
  · rw [hr] at hfind
    rw [Machine.dispatch, List.headD_cons, hfind]
    rfl
  · rw [← Option.isSome_map, ← hfind, hi]
    exact hempty.enrollAll all name

/-- Two verbs in front under a name of a core verb, and one behind under another such name. -/
theorem enrollAll_resolves_overridden :
    (Machine.ofArgs ["certsh"]).verbNames = [] ∧
      let i := (ofMachine (.ofArgs ["certsh"])).enrollAll
        [⟨true, ["Echo"], Verb.call⟩, ⟨true, ["say", "ECHO"], Verb.goto⟩,
          ⟨false, ["help"], Verb.run⟩]
      i.verbs.find? "eCHO" = some Verb.goto ∧ i.verbs.find? "Help" = some Verb.help ∧
        "say" ∈ i.machine.verbNames := by
  have hm : (Machine.ofArgs ["certsh"]).verbNames = [] := rfl
  refine ⟨hm, ?_, ?_, ?_⟩
  · exact (enrollAll_resolves _ hm _ "eCHO").1.trans rfl
  · exact (enrollAll_resolves _ hm _ "Help").1.trans rfl
  · exact (enrollAll_resolves _ hm _ "SAY").2.2.mp rfl

end Interpreter

end Testbench
