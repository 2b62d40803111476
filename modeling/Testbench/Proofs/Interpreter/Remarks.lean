import Testbench.Proofs.Interpreter.Course
import Testbench.Proofs.Interpreter.Lockstep

/-!
# A silent line more

Putting a blank line or a comment into a script never changes what the script does. From the same
interpreter, both scripts end or neither does, and they leave the same interpreter, but for the
numbers of lines in diagnostics.

* `Machine.NeverAsks` : the lines of a run never ask one source.
* `Insertion.Unnoticed` : machines that are the same but for twin logs.
* `Insertion.MachineTwins.round` : a round of twins.
* `Insertion.MachineTwins.run`, `Insertion.MachineTwins.run_back` : whole runs of twins.
* `Insertion.runScript_unnoticed` : the two scripts.
-/

set_option autoImplicit false

namespace Testbench

/-! ## The lines of a run -/

namespace Machine

variable {verbs : VerbTable} {depth : Nat}

/-- Once a run has an answer, more fuel does not carry out more lines. -/
theorem mem_moments_of_runTo {fuel fuel' : Nat} {m : Machine}
    (h : (m.runTo verbs depth fuel).isSome) {e : Moment} (he : e ∈ m.moments verbs depth fuel') :
    e ∈ m.moments verbs depth fuel := by
  induction fuel generalizing fuel' m with
  | zero => cases h
  | succ fuel ih =>
    cases fuel' with
    | zero => cases he
    | succ fuel' =>
      by_cases hd : depth < m.stack.depth
      · rw [runTo_of_deeper hd] at h
        rw [moments_of_deeper hd] at he ⊢
        cases hl : m.currentLine? with
        | none =>
          simp only [hl] at he
          cases he
        | some text =>
          cases text with
          | none =>
            simp only [hl] at h he ⊢
            exact ih h he
          | some line =>
            rcases hs : m.step verbs line with ⟨halted, next⟩
            simp only [hl, hs] at h he ⊢
            cases halted with
            | true => exact he
            | false =>
              rcases List.mem_cons.mp he with rfl | he
              · exact List.mem_cons_self ..
              · exact List.mem_cons_of_mem _ (ih h he)
      · rw [moments_of_within (Nat.le_of_not_lt hd)] at he
        cases he

/-- No line that a run carries out asks the source of this name for a value. -/
def NeverAsks (name : String) (verbs : VerbTable) (depth : Nat) (m : Machine) : Prop :=
  ∀ fuel, ∀ e ∈ m.moments verbs depth fuel, ¬ e.machine.Asks name e.line

end Machine

namespace Insertion

variable {n : Insertion} {verbs : VerbTable} {depth : Nat} {start : Array LogLine}
  {R : Nat → Nat → Prop}

/-- A machine that is the same but for twins in the log behind `start`. -/
structure Unnoticed (n : Insertion) (start : Array LogLine) (m m' : Machine) : Prop where
  rest : m' = { m with log := m'.log }
  log : n.LogTwins start m.log m'.log

namespace MachineTwins

variable {m m' : Machine}

/-- Down at the depth, twins are the same but for their logs. -/
theorem unnoticed (h : n.MachineTwins depth start R m m') (hd : m.stack.depth ≤ depth) :
    n.Unnoticed start m m' := by
  cases h with
  | mk hs hl =>
    have hstack := hs.eq_of_depth_le hd
    exact ⟨by rw [hstack], hl⟩

theorem truncate (h : n.MachineTwins depth start R m m') :
    n.Unnoticed start (m.truncate depth) (m'.truncate depth) := by
  cases h with
  | @mk stack log hs hl =>
    have hstack : stack.truncate depth = m.stack.truncate depth := hs.truncate_eq
    refine ⟨?_, hl⟩
    unfold Machine.truncate
    simp only [hstack]

/-- A silent line takes one round and leads to the next line. -/
theorem runTo_silent (hd : depth < m'.stack.depth)
    (hl : m'.currentLine? = some (some n.line)) (fuel : Nat) :
    m'.runTo verbs depth (fuel + 1) = m'.advance.runTo verbs depth fuel := by
  rw [Machine.runTo_of_deeper hd]
  simp only [hl, Machine.step_of_isSilent n.silent]

/-- In a round, twins that are level both end, unnoticed, or both go on and are near. -/
theorem round (h : n.MachineTwins depth start n.Level m m') (hv : verbs.Own)
    (hq : m.NeverAsks "line" verbs depth) :
    (∃ answer r r', n.Unnoticed start r r' ∧
      (∀ fuel, m.runTo verbs depth (fuel + 1) = some (answer, r)) ∧
      ∀ fuel, m'.runTo verbs depth (fuel + 1) = some (answer, r')) ∨
    ∃ next next', n.MachineTwins depth start n.Near next next' ∧
      next.NeverAsks "line" verbs depth ∧
      (∀ fuel, m.runTo verbs depth (fuel + 1) = next.runTo verbs depth fuel) ∧
      ∀ fuel, m'.runTo verbs depth (fuel + 1) = next'.runTo verbs depth fuel := by
  have hdepth := h.depth_eq
  by_cases hd : depth < m.stack.depth
  · have hd' : depth < m'.stack.depth := by
      rw [hdepth]
      exact hd
    have hline := h.currentLine?_eq
    have hmoments := @Machine.moments_of_deeper verbs depth m hd
    cases hl : m.currentLine? with
    | none =>
      -- above the depth every frame has a script
      have hscript := h.top_isSome hd
      unfold Machine.currentLine? at hl
      rw [Option.map_eq_none_iff.mp hl] at hscript
      cases hscript
    | some text =>
      rw [hl] at hline
      cases text with
      | none =>
        refine .inr ⟨_, _, h.follow hd (.ret ""), ?_, ?_, ?_⟩
        · intro fuel e he
          apply hq (fuel + 1) e
          rw [hmoments]
          simp only [hl]
          exact he
        · intro fuel
          rw [Machine.runTo_of_deeper hd]
          simp only [hl]
        · intro fuel
          rw [Machine.runTo_of_deeper hd']
          simp only [hline]
      | some line =>
        have hasks : ¬ m.Asks "line" line := by
          apply hq 1 ⟨m, line⟩
          rw [hmoments]
          simp only [hl]
          exact List.mem_cons_self ..
        obtain ⟨hanswer, hstep⟩ := h.step hv hd hasks
        rcases hs : m.step verbs line with ⟨halted, next⟩
        rcases hs' : m'.step verbs line with ⟨halted', next'⟩
        rw [hs, hs'] at hanswer hstep
        obtain rfl : halted' = halted := hanswer
        have hrun := @Machine.runTo_of_deeper verbs depth m hd
        have hrun' := @Machine.runTo_of_deeper verbs depth m' hd'
        simp only [hl, hs] at hrun hmoments
        simp only [hline, hs'] at hrun'
        cases halted' with
        | true => exact .inl ⟨_, _, _, hstep.truncate, hrun, hrun'⟩
        | false =>
          refine .inr ⟨next, next', hstep, ?_, hrun, hrun'⟩
          intro fuel e he
          apply hq (fuel + 1) e
          rw [hmoments]
          exact List.mem_cons_of_mem _ he
  · have hd := Nat.le_of_not_lt hd
    exact .inl ⟨_, _, _, h.unnoticed hd, Machine.runTo_of_within hd,
      Machine.runTo_of_within (by rw [hdepth]; exact hd)⟩

/-! ## Whole runs -/

/-- What the first of two twins comes to, the second one comes to, in more rounds if need be. -/
theorem run (h : n.MachineTwins depth start n.Near m m') (hv : verbs.Own)
    (hq : m.NeverAsks "line" verbs depth) {fuel : Nat} {answer : Bool} {r : Machine}
    (hrun : m.runTo verbs depth fuel = some (answer, r)) :
    ∃ fuel' r', m'.runTo verbs depth fuel' = some (answer, r') ∧ n.Unnoticed start r r' := by
  induction fuel generalizing m m' with
  | zero => cases hrun
  | succ fuel ih =>
    have hlevel : ∀ m'', n.MachineTwins depth start n.Level m m'' →
        ∃ fuel' r', m''.runTo verbs depth fuel' = some (answer, r') ∧ n.Unnoticed start r r' := by
      intro m'' hl
      rcases hl.round hv hq with ⟨answer', end₁, end₂, hend, hr, hr'⟩ |
        ⟨next, next', hnear, hnext, hgo, hgo'⟩
      · rw [hr] at hrun
        cases hrun
        exact ⟨1, end₂, hr' 0, hend⟩
      · rw [hgo] at hrun
        obtain ⟨fuel', r', hrest, hend⟩ := ih hnear hnext hrun
        exact ⟨fuel' + 1, r', (hgo' fuel').trans hrest, hend⟩
    rcases h.settle_near with hl | ⟨hd, hline, hl⟩
    · exact hlevel m' hl
    · obtain ⟨fuel', r', hrest, hend⟩ := hlevel _ hl
      exact ⟨fuel' + 1, r', (runTo_silent hd hline fuel').trans hrest, hend⟩

/-- What the second of two twins comes to, the first one comes to. -/
theorem run_back (h : n.MachineTwins depth start n.Near m m') (hv : verbs.Own)
    (hq : m.NeverAsks "line" verbs depth) {fuel : Nat} {answer : Bool} {r' : Machine}
    (hrun : m'.runTo verbs depth fuel = some (answer, r')) :
    ∃ fuel' r, m.runTo verbs depth fuel' = some (answer, r) ∧ n.Unnoticed start r r' := by
  induction fuel generalizing m m' with
  | zero => cases hrun
  | succ fuel ih =>
    rcases h.settle_near with hl | ⟨hd, hline, hl⟩
    · rcases hl.round hv hq with ⟨answer', end₁, end₂, hend, hr, hr'⟩ |
        ⟨next, next', hnear, hnext, hgo, hgo'⟩
      · rw [hr'] at hrun
        cases hrun
        exact ⟨1, end₁, hr 0, hend⟩
      · rw [hgo'] at hrun
        obtain ⟨fuel', r, hrest, hend⟩ := ih hnear hnext hrun
        exact ⟨fuel' + 1, r, (hgo fuel').trans hrest, hend⟩
    · -- the second twin alone takes this round
      rw [runTo_silent hd hline] at hrun
      exact ih hl.near hq hrun

end MachineTwins

/-! ## The two scripts -/

/-- The two scripts are started near each other. -/
theorem launch_twins (n : Insertion) (m : Machine) (args : List String) :
    n.MachineTwins m.stack.depth m.log n.Near (m.launch n.script args)
      (m.launch n.result args) := by
  have hnear : n.Near 0 0 := by
    by_cases hz : n.index = 0
    · exact .inr ⟨hz.symm, hz.symm⟩
    · exact .inl (if_pos (Nat.pos_of_ne_zero hz)).symm
  exact .mk (.push (Nat.le_refl _) (.floor (Nat.le_refl _)) (.moved rfl hnear)) .start

/-- **A silent line is not noticed.** Whatever the script, the place of the new line in it and the
interpreter are: if the interpreter has only verbs of the program itself and the script never asks
for the number of a line, then the scripts without and with the line both come to an end or neither
does, the answer is the same, and so are the interpreters that they leave, with all variables,
events, expectations, the exit code and the stack. What they log is the same line by line, but for
the numbers of lines behind the new one in diagnostics. -/
theorem runScript_unnoticed (n : Insertion) {i : Interpreter} (hv : i.verbs.Own)
    (args : List String)
    (hq : (i.machine.launch n.script args).NeverAsks "line" i.verbs i.machine.stack.depth) :
    (∀ fuel answer after, i.runScript fuel n.script args = some (answer, after) →
      ∃ fuel' after', i.runScript fuel' n.result args = some (answer, after') ∧
        after'.verbs = after.verbs ∧ n.Unnoticed i.machine.log after.machine after'.machine) ∧
    ∀ fuel answer after', i.runScript fuel n.result args = some (answer, after') →
      ∃ fuel' after, i.runScript fuel' n.script args = some (answer, after) ∧
        after'.verbs = after.verbs ∧ n.Unnoticed i.machine.log after.machine after'.machine := by
  have htwins := n.launch_twins i.machine args
  constructor
  · intro fuel answer after hrun
    obtain ⟨hr, hverbs⟩ := Interpreter.runScript_eq_some_iff.mp hrun
    obtain ⟨fuel', r', hr', hend⟩ := htwins.run hv hq hr
    exact ⟨fuel', ⟨r', i.verbs⟩, Interpreter.runScript_eq_some_iff.mpr ⟨hr', rfl⟩, hverbs.symm, hend⟩
  · intro fuel answer after' hrun
    obtain ⟨hr', hverbs⟩ := Interpreter.runScript_eq_some_iff.mp hrun
    obtain ⟨fuel', r, hr, hend⟩ := htwins.run_back hv hq hr'
    exact ⟨fuel', ⟨r, i.verbs⟩, Interpreter.runScript_eq_some_iff.mpr ⟨hr, rfl⟩, hverbs, hend⟩

/-- A comment between a jump that fails and a call, in front of the label that is called. -/
theorem runScript_unnoticed_call :
    let i := Interpreter.ofArgs ["sh"]
    let n : Insertion :=
      ⟨⟨"s", #["goto nowhere", "call sub a", "exit 3", ":sub", "setglobal x $\x7barg:1\x7d"]⟩, 1,
        "\t; remark", by decide, by decide⟩
    i.verbs.Own ∧ (i.machine.launch n.script []).NeverAsks "line" i.verbs i.machine.stack.depth ∧
      ∃ fuel after after', i.runScript 10 n.script [] = some (true, after) ∧
        i.runScript fuel n.result [] = some (true, after') ∧
        n.Unnoticed i.machine.log after.machine after'.machine := by
  intro i n
  have hv : i.verbs.Own := Interpreter.own_ofMachine _
  have hanswer : (i.runScript 10 n.script []).map Prod.fst = some true := by decide +kernel
  obtain ⟨⟨answer, after⟩, hrun, ha⟩ := Option.map_eq_some_iff.mp hanswer
  cases ha
  have hten : ∀ e ∈ (i.machine.launch n.script []).moments i.verbs i.machine.stack.depth 10,
      ¬ e.machine.Asks "line" e.line := by decide +kernel
  have hq : (i.machine.launch n.script []).NeverAsks "line" i.verbs i.machine.stack.depth := by
    intro fuel e he
    apply hten e
    obtain ⟨hr, -⟩ := Interpreter.runScript_eq_some_iff.mp hrun
    exact Machine.mem_moments_of_runTo (Option.isSome_of_eq_some hr) he
  obtain ⟨fuel, after', hrun', -, hsame⟩ := (runScript_unnoticed n hv [] hq).1 10 true after hrun
  exact ⟨hv, hq, fuel, after, after', hrun, hrun', hsame⟩

end Insertion

end Testbench
