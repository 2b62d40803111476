import Testbench.Proofs.Interpreter.Callers

/-!
# The stack before and after a request

A request leaves the stack as deep as it found it, and on the way the stack is never less deep. The
reason is that a run stops at the depth at which it began, and that every frame above that depth
has a script, so that the run does not get stuck there.

* `Interpreter.Serves.waits`, `Interpreter.Serves.placedAbove`, `Interpreter.Serves.le_depth` : the
  stack while a request is served.
* `Interpreter.Serves.depth_ending` : the stack at the end of a request.
* `Interpreter.serve_true_iff`, `Interpreter.serve_false_iff` : when a request is answered so.
* `Interpreter.serve_disciplined` : depth and answer of a request.
-/

set_option autoImplicit false

namespace Testbench

theorem Machine.currentLine?_ne_none {m : Machine} (h : m.top.script.isSome) :
    m.currentLine? ≠ none := by
  rw [currentLine?, Ne, Option.map_eq_none_iff]
  exact Option.isSome_iff_ne_none.mp h

namespace Interpreter

variable {i : Interpreter} {r : Request} {moments : List Moment} {m : Machine}

/-- The first line of a request leaves at most one frame more. -/
theorem depth_step_le (hv : i.verbs.Permitted) (text : String) :
    (i.machine.step i.verbs text).2.stack.depth ≤ i.machine.stack.depth + 1 :=
  (Machine.moves_step hv text _).depth_le

/-- While a request is served, the frames above those that it found wait for one another. -/
theorem Serves.waits (hv : i.verbs.Permitted) (h : i.Serves r moments m) {d : Nat}
    (hd : i.machine.stack.depth < d) (hd' : d < m.stack.depth) :
    ∃ e, Waits i.verbs moments m d e := by
  induction h with
  | line h =>
    obtain ⟨e, he⟩ := h.waits hv (depth_step_le hv _) hd hd'
    exact ⟨e, he.cons _⟩
  | script h => exact h.waits hv (Nat.le_refl _) hd hd'
  | source _ ih => exact ih hd'
  | named _ _ ih => exact ih hd'

/-- While a request is served, the frames above those that it found are in their scripts. -/
theorem Serves.placedAbove (hv : i.verbs.Permitted) (h : i.Serves r moments m) :
    m.stack.PlacedAbove i.machine.stack.depth := by
  have hpos := i.machine.stack.depth_pos
  induction h with
  | @line text moments m h =>
    exact h.placedAbove hv hpos (depth_step_le hv text) (Machine.moves_step hv text _).placedAbove
  | @script script args moments m h =>
    have hlaunch : (i.machine.launch script args).stack.PlacedAbove i.machine.stack.depth :=
      .push (.floor (Nat.le_refl _)) (Frame.placed_ofScript (Nat.zero_le _) script.name args)
    exact h.placedAbove hv hpos (Nat.le_refl _) hlaunch
  | source _ ih => exact ih
  | named _ _ ih => exact ih

/-- While a request is served, the stack is at least as deep as it was. A line has to be given to
the base frame, since it could return from any other one. -/
theorem Serves.le_depth (hv : i.verbs.Permitted) (h : i.Serves r moments m)
    (hbase : ∀ text, r = .line text → i.machine.stack.above = []) :
    i.machine.stack.depth ≤ m.stack.depth := by
  induction h with
  | line h =>
    rw [Stack.depth, hbase _ rfl]
    exact Stack.depth_pos _
  | @script script args moments m h =>
    have hlaunch : i.machine.stack.depth ≤ (i.machine.launch script args).stack.depth :=
      Nat.le_succ _
    exact h.le_depth hv hlaunch
  | source _ ih => exact ih fun _ hr => by cases hr
  | named _ _ ih => exact ih fun _ hr => by cases hr

/-- Where the course of a request ends, the stack is as deep as it was. -/
theorem Serves.depth_ending (hv : i.verbs.Permitted) (h : i.Serves r moments m)
    (hbase : ∀ text, r = .line text → i.machine.stack.above = []) {answer : Bool} {final : Machine}
    (he : Ending i.verbs i.machine.stack.depth moments m answer final) :
    final.stack.depth = i.machine.stack.depth := by
  have hfloor := h.le_depth hv hbase
  cases he with
  | finished _ hd =>
    -- the run is not stuck above its depth, because the frames there have scripts
    by_cases hle : m.stack.depth ≤ i.machine.stack.depth
    · exact Nat.le_antisymm hle hfloor
    · have htop := ((h.placedAbove hv).top (Nat.lt_of_not_le hle)).isSome
      exact absurd (hd.resolve_left hle) (Machine.currentLine?_ne_none htop)
  | halted _ _ _ _ =>
    rw [Machine.truncate, Stack.depth_truncate _ i.machine.stack.depth_pos]
    exact Nat.min_eq_right hfloor

/-- Some answer is `true` just when a line of the course asks for the end. -/
theorem serve_true_iff :
    (∃ fuel after, i.serve fuel r = .ok (some (true, after))) ↔
      ∃ moments m, i.Serves r moments m ∧ ∃ e ∈ moments, e.AsksEnd i.verbs := by
  constructor
  · rintro ⟨fuel, after, h⟩
    obtain ⟨-, moments, m, hs, he⟩ := serve_iff.mp ⟨fuel, h⟩
    exact ⟨moments, m, hs, he.answer_iff.mp rfl⟩
  · rintro ⟨moments, m, hs, hend⟩
    obtain ⟨before, e, later, hm, he, hq⟩ := Moment.exists_first hend
    let after : Interpreter :=
      ⟨(e.machine.step i.verbs e.line).2.truncate i.machine.stack.depth, i.verbs⟩
    have hending : Ending i.verbs i.machine.stack.depth (before ++ [e])
        (e.machine.step i.verbs e.line).2 true after.machine := .halted rfl rfl hq he
    have hverbs : after.verbs = i.verbs := rfl
    obtain ⟨fuel, h⟩ := serve_iff.mpr ⟨hverbs, _, _, hs.split hm, hending⟩
    exact ⟨fuel, after, h⟩

/-- Some answer is `false` just when the course gets back to the depth of the stack and no line asks
for the end. -/
theorem serve_false_iff (hv : i.verbs.Permitted)
    (hbase : ∀ text, r = .line text → i.machine.stack.above = []) :
    (∃ fuel after, i.serve fuel r = .ok (some (false, after))) ↔
      ∃ moments m, i.Serves r moments m ∧ m.stack.depth = i.machine.stack.depth ∧
        ∀ e ∈ moments, ¬ e.AsksEnd i.verbs := by
  constructor
  · rintro ⟨fuel, after, h⟩
    obtain ⟨-, moments, m, hs, he⟩ := serve_iff.mp ⟨fuel, h⟩
    have hdepth := hs.depth_ending hv hbase he
    generalize after.machine = final at he hdepth
    cases he with
    | finished hq _ => exact ⟨moments, m, hs, hdepth, hq⟩
  · rintro ⟨moments, m, hs, hdepth, hq⟩
    let after : Interpreter := ⟨m, i.verbs⟩
    have hending : Ending i.verbs i.machine.stack.depth moments m false after.machine :=
      .finished hq (.inl (Nat.le_of_eq hdepth))
    have hverbs : after.verbs = i.verbs := rfl
    obtain ⟨fuel, h⟩ := serve_iff.mpr ⟨hverbs, moments, m, hs, hending⟩
    exact ⟨fuel, after, h⟩

/-- **A request leaves the stack as deep as it was, and never makes it less deep on the way.** It is
answered with `true` just when one of the lines that it carries out asks for the end, and that is
the last one then; it is answered with `false` just when the stack gets back to where it was without
that. A `return` that the base frame carries out is reported, and nothing else comes of it. -/
theorem serve_disciplined (hv : i.verbs.Permitted)
    (hbase : ∀ text, r = .line text → i.machine.stack.above = []) :
    (∀ moments m, i.Serves r moments m → i.machine.stack.depth ≤ m.stack.depth) ∧
    (∀ fuel answer after, i.serve fuel r = .ok (some (answer, after)) →
      after.machine.stack.depth = i.machine.stack.depth ∧
      ∃ moments m, i.Serves r moments m ∧
        Ending i.verbs i.machine.stack.depth moments m answer after.machine ∧
        (answer = true ↔ ∃ e ∈ moments, e.AsksEnd i.verbs) ∧
        ∀ before e later, moments = before ++ e :: later → e.AsksEnd i.verbs → later = []) ∧
    ((∃ fuel after, i.serve fuel r = .ok (some (true, after))) ↔
      ∃ moments m, i.Serves r moments m ∧ ∃ e ∈ moments, e.AsksEnd i.verbs) ∧
    ((∃ fuel after, i.serve fuel r = .ok (some (false, after))) ↔
      ∃ moments m, i.Serves r moments m ∧ m.stack.depth = i.machine.stack.depth ∧
        ∀ e ∈ moments, ¬ e.AsksEnd i.verbs) ∧
    ∀ (m : Machine) (value : String), m.stack.above = [] →
      m.follow (.ret value) =
        { m with log := m.log.push (.diagnostic "return outside of a call") } := by
  refine ⟨fun moments m h => h.le_depth hv hbase, ?_, serve_true_iff, serve_false_iff hv hbase,
    fun m value h => Machine.leave_base h value⟩
  intro fuel answer after h
  obtain ⟨-, moments, m, hs, he⟩ := serve_iff.mp ⟨fuel, h⟩
  exact ⟨hs.depth_ending hv hbase he, moments, m, hs, he, he.answer_iff,
    fun _ _ _ hm hend => he.later_eq_nil hm hend⟩

/-- A script with a subroutine that ends the program, and with lines after it. -/
theorem serve_disciplined_exit :
    let i := Interpreter.ofArgs []
    let r := Request.script ⟨"s", #["call sub", "echo no", ":sub", "exit 3", "return"]⟩ []
    ∃ after, i.serve 2 r = .ok (some (true, after)) ∧ after.machine.stack.depth = 1 ∧
      ∃ moments m, i.Serves r moments m ∧ ∃ e ∈ moments, e.AsksEnd i.verbs := by
  intro i r
  have hv : i.verbs.Permitted := permitted_ofMachine _
  have hend : (i.runScript 2 ⟨"s", #["call sub", "echo no", ":sub", "exit 3", "return"]⟩ []).map
      Prod.fst = some true := by decide +kernel
  obtain ⟨⟨answer, after⟩, hserve, hanswer⟩ := Option.map_eq_some_iff.mp hend
  cases hanswer
  have hok : i.serve 2 r = .ok (some (true, after)) := congrArg Except.ok hserve
  have hbase : ∀ text, r = .line text → i.machine.stack.above = [] := by
    intro text hr
    exact Request.noConfusion hr
  obtain ⟨-, hdone, hasks, -, -⟩ := serve_disciplined hv hbase
  exact ⟨after, hok, (hdone 2 true after hok).1, hasks.mp ⟨2, after, hok⟩⟩

end Interpreter

end Testbench
