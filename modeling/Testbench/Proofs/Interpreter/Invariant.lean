import Testbench.Proofs.Interpreter.Discipline

/-!
# What holds of every reachable state

A host starts with a fresh interpreter, registers verbs, and asks for one thing after the other. Of
all the states on the way the same can be said: the base frame runs no script, every other frame is
in its script, and every caller is at the line that called.

* `Interpreter.Idle` : an interpreter between two requests.
* `Stack.Moves.activation` : the frames of a stack keep their scripts and arguments.
* `PushedBy` : how one frame came to lie on another.
* `Moment.Reports`, `Moment.Chained` : what a step reports, and at which place; the log of a run.
* `Interpreter.Invariant`, `Interpreter.idle_invariant` : what holds of every reachable state.
-/

set_option autoImplicit false

namespace Testbench

/-! ## The base frame -/

namespace Stack

variable {s s' : Stack} {d : Nat}

/-- The base frame runs no script and has not moved. -/
structure BareBase (s : Stack) : Prop where
  script : s.base.script = none
  line : s.base.line = 0

theorem BareBase.modifyTop (h : s.BareBase) {g : Frame → Frame} (hg : s.top.Continues (g s.top)) :
    (s.modifyTop g).BareBase := by
  obtain ⟨base, above⟩ := s
  cases above with
  | nil => exact ⟨hg.script.trans h.script, (hg.bare h.script).trans h.line⟩
  | cons f above => exact ⟨h.script, h.line⟩

theorem BareBase.moves (h : s.BareBase) (hm : s.Moves s') : s'.BareBase := by
  cases hm with
  | stay g hs hg =>
    rw [hs]
    exact h.modifyTop hg
  | enter g f hs hg _ =>
    have hbelow := h.modifyTop hg
    rw [hs]
    exact ⟨hbelow.script, hbelow.line⟩
  | leave g rest callee hr hs hg =>
    have hrest : rest.BareBase := by
      rw [hr] at h
      exact ⟨h.script, h.line⟩
    rw [hs]
    exact hrest.modifyTop hg

/-! ## Frames keep their scripts -/

theorem truncate_of_above {higher rest : List Frame} (h : s.above = higher ++ rest) :
    s.truncate (rest.length + 1) = ⟨s.base, rest⟩ := by
  simp [truncate, h]

theorem lt_depth_of_above {higher under : List Frame} {f g : Frame}
    (h : s.above = higher ++ f :: g :: under) : under.length + 2 < s.depth := by
  rw [depth, h]
  simp only [List.length_append, List.length_cons]
  omega

/-- A change of the top frame keeps script and arguments at every depth. -/
theorem activation_modifyTop {g : Frame → Frame} (hd : d < s.depth)
    (hg : s.top.Continues (g s.top)) :
    ((s.modifyTop g).truncate (d + 1)).top.script = (s.truncate (d + 1)).top.script ∧
      ((s.modifyTop g).truncate (d + 1)).top.args = (s.truncate (d + 1)).top.args := by
  by_cases hlt : d + 1 < s.depth
  · rw [truncate_modifyTop g (Nat.succ_pos d) hlt]
    exact ⟨rfl, rfl⟩
  · have heq : d + 1 = s.depth := by omega
    have hself : (s.modifyTop g).truncate (d + 1) = s.modifyTop g := by
      rw [heq, ← depth_modifyTop g s, truncate_depth]
    rw [hself, heq, truncate_depth, top_modifyTop]
    exact ⟨hg.script, hg.args⟩

/-- As long as the stack stays deeper, a step keeps script and arguments of the next frame. -/
theorem Moves.activation (hm : s.Moves s') (hd : d < s.depth) (hd' : d < s'.depth) :
    (s'.truncate (d + 1)).top.script = (s.truncate (d + 1)).top.script ∧
      (s'.truncate (d + 1)).top.args = (s.truncate (d + 1)).top.args := by
  cases hm with
  | stay g hs hg =>
    rw [hs]
    exact activation_modifyTop hd hg
  | enter g f hs hg _ =>
    have hle : d + 1 ≤ (s.modifyTop g).depth := by
      rw [depth_modifyTop]
      exact hd
    rw [hs, truncate_push _ _ hle]
    exact activation_modifyTop hd hg
  | leave g rest callee hr hs hg =>
    rw [hs, depth_modifyTop] at hd'
    rw [hs, hr, truncate_push _ _ hd']
    exact activation_modifyTop hd' hg

end Stack

variable {verbs : VerbTable} {depth : Nat} {start m : Machine} {moments : List Moment}

/-- The frame that a run is in and above keeps script and arguments. -/
theorem Course.activation (hv : verbs.Permitted) (h : Course verbs depth start moments m)
    (hd : depth < m.stack.depth) :
    (m.stack.truncate (depth + 1)).top.script = (start.stack.truncate (depth + 1)).top.script ∧
      (m.stack.truncate (depth + 1)).top.args = (start.stack.truncate (depth + 1)).top.args := by
  induction h with
  | start => exact ⟨rfl, rfl⟩
  | line text _ hprev _ ih =>
    obtain ⟨hscript, hargs⟩ := (Machine.moves_step hv text _).activation hprev hd
    exact ⟨hscript.trans (ih hprev).1, hargs.trans (ih hprev).2⟩
  | off _ hprev _ ih =>
    obtain ⟨hscript, hargs⟩ := (Machine.moves_follow _ _).activation hprev hd
    exact ⟨hscript.trans (ih hprev).1, hargs.trans (ih hprev).2⟩

theorem Course.bareBase (hv : verbs.Permitted) (h : Course verbs depth start moments m)
    (hs : start.stack.BareBase) : m.stack.BareBase := by
  induction h with
  | start => exact hs
  | line text _ _ _ ih => exact ih.moves (Machine.moves_step hv text _)
  | off _ _ _ ih => exact ih.moves (Machine.moves_follow _ _)

/-! ## How frames came onto one another -/

theorem Machine.Opens.script_eq {label : String} {args : List String} {callee : Frame}
    (h : m.Opens (.call label args) callee) : callee.script = m.top.script := by
  cases h with
  | call hs _ => exact hs.symm

theorem Machine.script_of_call (hv : verbs.Permitted) {line label : String} {args : List String}
    (hflow : (m.command verbs line).2.1 = .call label args)
    (h : m.stack.depth < (m.step verbs line).2.stack.depth) :
    (m.step verbs line).2.top.script = m.top.script := by
  obtain ⟨callee, hopens, hs⟩ := pushed_step hv h
  rw [hflow] at hopens
  calc (m.step verbs line).2.top.script
      = callee.script := by rw [top, hs, Stack.top_push]
    _ = (m.command verbs line).1.top.script := hopens.script_eq
    _ = m.top.script := (workedTo_command hv line m).top_eq.1

/-- How the frame `f` came onto the frame `g`, which lies on the frames `under`: the moment `e` of
the run pushed it. -/
structure PushedBy (verbs : VerbTable) (moments : List Moment) (m : Machine) (f g : Frame)
    (under : List Frame) (e : Moment) : Prop where
  /-- The caller is at the line of the moment. -/
  line : ∃ script, g.script = some script ∧ script.lines[g.line]? = some e.line
  /-- It was the caller that carried the line out. -/
  caller : e.machine.stack.WorkedTo ⟨m.stack.base, g :: under⟩
  /-- The flow of its command put a frame on the caller, which has the script and the arguments that
  `f` has. -/
  pushed : ∃ callee, (e.machine.command verbs e.line).1.Opens
      (e.machine.command verbs e.line).2.1 callee ∧
    (e.machine.step verbs e.line).2.stack = ⟨m.stack.base, callee :: g :: under⟩ ∧
    f.script = callee.script ∧ f.args = callee.args
  /-- A call stays in the script. -/
  call : ∀ label args, (e.machine.command verbs e.line).2.1 = .call label args →
    f.script = g.script
  /-- Since then the run has been in that frame and above it. -/
  since : ∃ before after, moments = before ++ e :: after ∧
    Course verbs (under.length + 2) (e.machine.step verbs e.line).2 after m

theorem Waits.pushedBy {higher under : List Frame} {f g : Frame} {e : Moment}
    (h : Waits verbs moments m (under.length + 2) e) (hv : verbs.Permitted)
    (ha : m.stack.above = higher ++ f :: g :: under) : PushedBy verbs moments m f g under e := by
  have hd := Stack.lt_depth_of_above ha
  have ha' : m.stack.above = (higher ++ [f]) ++ (g :: under) := by simp [ha]
  have hbelow : m.stack.truncate (under.length + 2) = ⟨m.stack.base, g :: under⟩ :=
    Stack.truncate_of_above ha'
  have hwith : m.stack.truncate (under.length + 3) = ⟨m.stack.base, f :: g :: under⟩ :=
    Stack.truncate_of_above ha
  have hline := h.at_line hv hd
  have hcaller := Machine.workedTo_command hv e.line e.machine
  have hpushes : e.machine.stack.depth < (e.machine.step verbs e.line).2.stack.depth := by
    rw [h.depth]
    exact h.pushes
  obtain ⟨callee, hopens, hpushed⟩ := Machine.pushed_step hv hpushes
  obtain ⟨before, after, hm, hrun⟩ := h.since
  obtain ⟨hscript, hargs⟩ := hrun.activation hv hd
  have hstack : (e.machine.command verbs e.line).1.stack = ⟨m.stack.base, g :: under⟩ := by
    rw [← h.truncate_eq hv hd, hbelow]
  rw [hbelow] at hline
  rw [hstack] at hcaller hpushed
  have hlevel : (e.machine.step verbs e.line).2.stack.truncate (under.length + 3) =
      ⟨m.stack.base, callee :: g :: under⟩ := by
    rw [hpushed]
    exact Stack.truncate_depth (⟨m.stack.base, callee :: g :: under⟩ : Stack)
  rw [hwith, hlevel] at hscript hargs
  refine ⟨hline, hcaller, ⟨callee, hopens, hpushed, hscript, hargs⟩, ?_, before, after, hm, hrun⟩
  intro label args hflow
  rw [hflow] at hopens
  have htop : (e.machine.command verbs e.line).1.top = g := by
    rw [Machine.top, hstack]
    rfl
  exact hscript.trans (hopens.script_eq.trans (by rw [htop]))

/-! ## Reports -/

/-- What the step of a moment reports, and at which place: at that of the running script and of the
line, if there is a script. -/
structure Moment.Reports (verbs : VerbTable) (e : Moment) : Prop where
  /-- All that a step reports is diagnosed at its place, unless it calls a verb of the host. -/
  own : (∀ c, e.machine.call? verbs e.line = some c → c.handler.Own) →
    ∃ lines, (e.machine.step verbs e.line).2.log.toList = e.machine.log.toList ++ lines ∧
      Diagnosed e.machine.turn.place lines
  /-- Every verb, be it of the host, has that place put in front of its complaints, and what is
  reported before and after it is diagnosed there. -/
  around : ∀ c, e.machine.call? verbs e.line = some c →
    (∀ message, c.turn.located message = placed e.machine.turn.place message) ∧
    ∃ before after, c.turn.machine.log.toList = e.machine.log.toList ++ before ∧
      (e.machine.step verbs e.line).2.log.toList = c.result.machine.log.toList ++ after ∧
      Diagnosed e.machine.turn.place before ∧ Diagnosed e.machine.turn.place after

theorem Moment.reports (hv : verbs.Permitted) (e : Moment) : e.Reports verbs := by
  refine ⟨Machine.diagnosed_step hv, fun c hc => ⟨fun message => ?_, ?_⟩⟩
  · rw [Turn.located_eq_placed, Machine.place_of_call? hc]
  · obtain ⟨before, hbefore, hb⟩ := Machine.diagnosed_turn hc
    obtain ⟨after, hafter, ha⟩ := Machine.diagnosed_settled hv e.line e.machine
    rw [Machine.command_of_call? hc] at hafter
    exact ⟨before, after, hbefore, hafter, hb, ha⟩

/-- The log is handed on from moment to moment: the first one finds `log`, each of the others finds
what the step before it left, and the last step leaves `log'`. -/
def Moment.Chained (verbs : VerbTable) : Array LogLine → List Moment → Array LogLine → Prop
  | log, [], log' => log' = log
  | log, e :: later, log' =>
    e.machine.log = log ∧ Chained verbs (e.machine.step verbs e.line).2.log later log'

theorem Moment.Chained.concat {log : Array LogLine} (h : Moment.Chained verbs log moments m.log)
    (text : String) :
    Moment.Chained verbs log (moments ++ [⟨m, text⟩]) (m.step verbs text).2.log := by
  induction moments generalizing log with
  | nil => exact ⟨h, rfl⟩
  | cons e moments ih => exact ⟨h.1, ih h.2⟩

/-- Where no verb of the host is called, the log only grows, and all diagnostics that are new in it
are diagnosed at the places of moments. -/
theorem Moment.Chained.diagnosed (hv : verbs.Permitted) {log log' : Array LogLine}
    (h : Moment.Chained verbs log moments log')
    (hown : ∀ e ∈ moments, ∀ c, e.machine.call? verbs e.line = some c → c.handler.Own) :
    ∃ lines, log'.toList = log.toList ++ lines ∧ ∀ text, LogLine.diagnostic text ∈ lines →
      ∃ e ∈ moments, DiagnosisAt e.machine.turn.place text := by
  induction moments generalizing log with
  | nil =>
    have hlog : log' = log := h
    exact ⟨[], by rw [hlog, List.append_nil], by simp⟩
  | cons e moments ih =>
    obtain ⟨hfirst, hrest⟩ := h
    obtain ⟨before, hbefore, hd⟩ := (e.reports hv).own (hown e (List.mem_cons_self ..))
    obtain ⟨after, hafter, hlater⟩ := ih hrest fun e' he' => hown e' (List.mem_cons_of_mem _ he')
    refine ⟨before ++ after, ?_, fun text htext => ?_⟩
    · rw [hafter, hbefore, hfirst, List.append_assoc]
    · rcases List.mem_append.mp htext with htext | htext
      · exact ⟨e, List.mem_cons_self .., hd text htext⟩
      · obtain ⟨e', he', hat⟩ := hlater text htext
        exact ⟨e', List.mem_cons_of_mem _ he', hat⟩

/-- In a run, only the steps of its lines log anything. -/
theorem Course.chained (hpos : 0 < depth) (h : Course verbs depth start moments m) :
    Moment.Chained verbs start.log moments m.log := by
  induction h with
  | start => exact rfl
  | line text _ _ _ ih => exact ih.concat text
  | @off moments m _ hd _ ih =>
    -- the return at the end of a script says nothing
    obtain ⟨rest, -, hm⟩ := m.follow_ret (by omega) ""
    rw [hm]
    exact ih

/-! ## Requests to an interpreter at rest -/

namespace Interpreter

/-- Only the base frame is left, and it has not moved. -/
structure AtRest (i : Interpreter) : Prop where
  verbs : i.verbs.Permitted
  above : i.machine.stack.above = []
  base : i.machine.stack.BareBase

variable {i : Interpreter} {r : Request}

theorem AtRest.depth_eq (hi : i.AtRest) : i.machine.stack.depth = 1 := by
  rw [Stack.depth, hi.above]
  rfl

theorem AtRest.place_eq_none (hi : i.AtRest) : i.machine.turn.place = none := by
  have htop : i.machine.top = i.machine.stack.base := by
    rw [Machine.top, Stack.top, hi.above]
    rfl
  simp only [Machine.turn, htop, hi.base.script, Option.map_none]

theorem Serves.bareBase (hi : i.AtRest) (h : i.Serves r moments m) : m.stack.BareBase := by
  induction h with
  | line h => exact h.bareBase hi.verbs (hi.base.moves (Machine.moves_step hi.verbs _ _))
  | script h => exact h.bareBase hi.verbs ⟨hi.base.script, hi.base.line⟩
  | source _ ih => exact ih
  | named _ _ ih => exact ih

/-- Every line that is carried out for a request is the one that the host gave, or a line of the
script of the top frame. -/
theorem Serves.line_of_mem (h : i.Serves r moments m) {e : Moment} (he : e ∈ moments) :
    e.machine = i.machine ∨ e.machine.currentLine? = some (some e.line) := by
  induction h with
  | @line text moments m h =>
    rcases List.mem_cons.mp he with rfl | he
    · exact .inl rfl
    · obtain ⟨before, after, hm⟩ := List.append_of_mem he
      exact .inr (h.split hm).2.2.1
  | script h =>
    obtain ⟨before, after, hm⟩ := List.append_of_mem he
    exact .inr (h.split hm).2.2.1
  | source _ ih => exact ih he
  | named _ _ ih => exact ih he

/-- The place that is reported for a line is that line of the running script. -/
theorem Serves.place_of_mem (hi : i.AtRest) (h : i.Serves r moments m) {e : Moment}
    (he : e ∈ moments) {name : String} {n : Nat} (hp : e.machine.turn.place = some (name, n)) :
    ∃ script, e.machine.top.script = some script ∧ script.name = name ∧ 1 ≤ n ∧
      n ≤ script.lines.size ∧ script.lines[n - 1]? = some e.line := by
  rcases h.line_of_mem he with hbase | hline
  · rw [hbase, hi.place_eq_none] at hp
    cases hp
  · obtain ⟨script, hs, htext⟩ := Machine.line_of_currentLine? hline
    have hlt := (Array.getElem?_eq_some_iff.mp htext).1
    rw [Machine.turn] at hp
    simp only [hs, Option.map_some, Option.some.injEq, Prod.mk.injEq] at hp
    obtain ⟨rfl, rfl⟩ := hp
    exact ⟨script, hs, rfl, Nat.le_add_left 1 _, hlt, htext⟩

theorem Serves.chained (h : i.Serves r moments m) :
    Moment.Chained i.verbs i.machine.log moments m.log := by
  have hpos := i.machine.stack.depth_pos
  induction h with
  | line h => exact ⟨rfl, h.chained hpos⟩
  | script h =>
    have hchained := h.chained hpos
    exact hchained
  | source _ ih => exact ih
  | named _ _ ih => exact ih

/-! ## Reachable states -/

/-- An interpreter between two requests. It began as a fresh one; the host registers verbs, changes
what it likes of the machine but the stack, where it sets local variables at most, and waits for the
end of each request. -/
inductive Idle : Interpreter → Prop
  | fresh {args : List String} {m : Machine} (h : m.stack = .ofArgs args) : Idle (.ofMachine m)
  | register {i : Interpreter} (h : Idle i) (names : List String) {handler : Handler}
      (hh : handler.Permitted) : Idle (i.register names handler)
  | registerFront {i : Interpreter} (h : Idle i) (names : List String) {handler : Handler}
      (hh : handler.Permitted) : Idle (i.registerFront names handler)
  | change {i : Interpreter} (h : Idle i) {m : Machine} (hm : i.machine.stack.EditedTo m.stack) :
      Idle { i with machine := m }
  | serve {i after : Interpreter} (h : Idle i) {fuel : Nat} {r : Request} {answer : Bool}
      (hs : i.serve fuel r = .ok (some (answer, after))) : Idle after

theorem AtRest.serve (hi : i.AtRest) {fuel : Nat} {answer : Bool} {after : Interpreter}
    (hs : i.serve fuel r = .ok (some (answer, after))) : after.AtRest := by
  obtain ⟨hverbs, moments, last, hserves, he⟩ := serve_iff.mp ⟨fuel, hs⟩
  have hdepth := hserves.depth_ending hi.verbs (fun _ _ => hi.above) he
  have hlast := hserves.bareBase hi
  rw [hi.depth_eq, Stack.depth] at hdepth
  refine ⟨hverbs ▸ hi.verbs, List.eq_nil_of_length_eq_zero (Nat.succ.inj hdepth), ?_⟩
  generalize after.machine = final at he
  cases he with
  | finished _ _ => exact hlast
  | halted _ _ _ _ => exact ⟨hlast.script, hlast.line⟩

theorem Idle.atRest (h : i.Idle) : i.AtRest := by
  induction h with
  | @fresh args m h =>
    have hstack : (ofMachine m).machine.stack = .ofArgs args := (stack_ofMachine m).trans h
    refine ⟨permitted_ofMachine m, ?_, ?_⟩
    · rw [hstack]
      rfl
    · rw [hstack]
      exact ⟨rfl, rfl⟩
  | register _ names hh ih => exact ⟨ih.verbs.register names hh, ih.above, ih.base⟩
  | registerFront _ names hh ih => exact ⟨ih.verbs.registerFront names hh, ih.above, ih.base⟩
  | @change i h m hm ih =>
    obtain ⟨locals, hm⟩ := hm
    have hcontinues : i.machine.stack.top.Continues { i.machine.stack.top with locals := locals } :=
      ⟨rfl, rfl, fun _ => rfl, fun _ _ hlt => Nat.le_of_lt hlt⟩
    have hdepth : m.stack.depth = 1 := by
      rw [hm, Stack.depth_modifyTop]
      exact ih.depth_eq
    refine ⟨ih.verbs, List.eq_nil_of_length_eq_zero (Nat.succ.inj hdepth), ?_⟩
    show m.stack.BareBase
    rw [hm]
    exact ih.base.modifyTop hcontinues
  | serve _ hs ih => exact ih.serve hs

/-- What holds of the machine that the moments of a request lead to. -/
structure Invariant (i : Interpreter) (moments : List Moment) (m : Machine) : Prop where
  /-- The base frame runs no script and is at line 0. -/
  base : m.stack.base.script = none ∧ m.stack.base.line = 0
  /-- Every frame above it is at a line of its script or at the end, and has arguments. -/
  placed : ∀ f ∈ m.stack.above, ∃ script, f.script = some script ∧ f.args ≠ [] ∧
    f.line ≤ script.lines.size
  /-- Every frame above it that is not on top is at a line of its script, and the command of that
  line pushed the frame directly above. -/
  pushed : ∀ higher f g under, m.stack.above = higher ++ f :: g :: under →
    ∃ e, PushedBy i.verbs moments m f g under e
  /-- A call stays in the script of the frame that makes it. -/
  calls : ∀ e ∈ moments, ∀ label args,
    (e.machine.command i.verbs e.line).2.1 = .call label args →
    e.machine.stack.depth < (e.machine.step i.verbs e.line).2.stack.depth →
    (e.machine.step i.verbs e.line).2.top.script = e.machine.top.script
  /-- A run never stops for want of a script. -/
  runs : 1 < m.stack.depth → m.currentLine? ≠ none
  /-- A place has the name of the running script and the number of a line of it. -/
  place : ∀ e ∈ moments, ∀ name n, e.machine.turn.place = some (name, n) →
    ∃ script, e.machine.top.script = some script ∧ script.name = name ∧ 1 ≤ n ∧
      n ≤ script.lines.size ∧ script.lines[n - 1]? = some e.line
  /-- Every step reports at the place of its line, whatever steps come before and after. -/
  reported : ∀ e ∈ moments, e.Reports i.verbs
  /-- So every place in front of a diagnosis is a line of the script that was running. -/
  named : ∀ e ∈ moments, ∀ name n message,
    Diagnosis e.machine.turn.place (some (name, n)) message →
    ∃ script, e.machine.top.script = some script ∧ script.name = name ∧ 1 ≤ n ∧
      n ≤ script.lines.size
  /-- Nothing else is in the log than what was in it before the request and what the steps left. -/
  logged : Moment.Chained i.verbs i.machine.log moments m.log
  /-- With the verbs of the program alone, every diagnostic of the request is one of its steps. -/
  diagnosed : (∀ e ∈ moments, ∀ c, e.machine.call? i.verbs e.line = some c → c.handler.Own) →
    ∃ lines, m.log.toList = i.machine.log.toList ++ lines ∧
      ∀ text, LogLine.diagnostic text ∈ lines →
        ∃ e ∈ moments, DiagnosisAt e.machine.turn.place text

/-- **The invariant of reachable states.** Between two requests only the base frame is there, and it
has not moved; in the course of a request, after any number of rounds, the invariant holds. -/
theorem idle_invariant (hi : i.Idle) :
    (i.machine.stack.above = [] ∧ i.machine.stack.base.script = none ∧
      i.machine.stack.base.line = 0) ∧
    ∀ r moments m, i.Serves r moments m → i.Invariant moments m := by
  have hrest := hi.atRest
  refine ⟨⟨hrest.above, hrest.base.script, hrest.base.line⟩, fun r moments m h => ?_⟩
  have hbase := h.bareBase hrest
  have hplaced := h.placedAbove hrest.verbs
  rw [hrest.depth_eq] at hplaced
  refine ⟨⟨hbase.script, hbase.line⟩, ?_, ?_, ?_, ?_, ?_, ?_, ?_, h.chained,
    h.chained.diagnosed hrest.verbs⟩
  · intro f hf
    obtain ⟨⟨script, hs, hl⟩, hargs⟩ := hplaced.of_mem f hf
    exact ⟨script, hs, hargs, hl⟩
  · intro higher f g under ha
    have hd := Stack.lt_depth_of_above ha
    have hfloor : i.machine.stack.depth < under.length + 2 := by
      rw [hrest.depth_eq]
      omega
    obtain ⟨e, he⟩ := h.waits hrest.verbs hfloor hd
    exact ⟨e, he.pushedBy hrest.verbs ha⟩
  · intro e _ label args hflow hpushes
    exact Machine.script_of_call hrest.verbs hflow hpushes
  · intro hd
    exact Machine.currentLine?_ne_none (hplaced.top hd).isSome
  · intro e he name n hp
    exact h.place_of_mem hrest he hp
  · intro e _
    exact e.reports hrest.verbs
  · intro e he name n message hd
    have hplace : some (name, n) = e.machine.turn.place :=
      hd.named_eq.resolve_left (Option.some_ne_none _)
    obtain ⟨script, hs, hname, hpos, hle, -⟩ := h.place_of_mem hrest he hplace.symm
    exact ⟨script, hs, hname, hpos, hle⟩

/-- The state in which a subroutine has just been called. -/
theorem idle_invariant_sub :
    let i := Interpreter.ofArgs []
    let start := i.machine.launch ⟨"s", #["call sub 1", ":sub"]⟩ []
    let m := (start.step i.verbs "call sub 1").2
    ∃ f g e, m.stack.above = [f, g] ∧
      PushedBy i.verbs [⟨start, "call sub 1"⟩] m f g [] e := by
  intro i start m
  have hi : i.Idle := .fresh (m := .ofArgs []) rfl
  have hd : i.machine.stack.depth < start.stack.depth := by decide +kernel
  have hl : start.currentLine? = some (some "call sub 1") := by decide +kernel
  have hlength : m.stack.above.length = 2 := by decide +kernel
  obtain ⟨f, rest, ha⟩ := List.exists_cons_of_length_eq_add_one hlength
  rw [ha] at hlength
  obtain ⟨g, hrest⟩ := List.length_eq_one_iff.mp (Nat.succ.inj hlength)
  rw [hrest] at ha
  have hserves : i.Serves (.script ⟨"s", #["call sub 1", ":sub"]⟩ []) [⟨start, "call sub 1"⟩] m :=
    .script (.single _ hd hl)
  obtain ⟨-, hinv⟩ := idle_invariant hi
  obtain ⟨e, he⟩ := (hinv _ _ m hserves).pushed [] f g [] ha
  exact ⟨f, g, e, ha, he⟩

end Interpreter

end Testbench
