import Testbench.Proofs.Interpreter.Verbs
import Testbench.Proofs.Placeholder.Hosts

/-!
# One step of a machine

A step carries out one line in the top frame and then follows the flow of its command. What a step
can do is said here once, for all the later theorems about runs.

* `Machine.call?` : the handler that a line calls, with all that it is given.
* `Machine.command_cases`, `Machine.follows_follow` : what the two halves of a step come to.
* `Machine.moves_follow`, `Machine.moves_step` : how a step moves the stack.
* `Diagnosis` : what a machine itself says, and the place that stands in front.
* `Machine.diagnosed_step`, `Machine.diagnosed_settled` : what a step reports, and at which place.
-/

set_option autoImplicit false

namespace Testbench

/-! ## Places -/

/-- A message with a place in front, if there is one. -/
def placed (place : Option (String × Nat)) (message : String) : String :=
  match place with
  | some (script, line) => s!"{script}:{line}: {message}"
  | none => message

theorem Turn.located_eq_placed (t : Turn) (message : String) :
    t.located message = placed t.place message := rfl

theorem RunError.noSuchLabel_placed (script : String) (line : Nat) (label : String) :
    (noSuchLabel script line label).message =
      placed (some (script, line)) ("label '" ++ label ++ "' not found") := by
  have hmessage : (noSuchLabel script line label).message =
      script ++ ":" ++ toString line ++ ": label '" ++ label ++ "' not found" := by
    unfold message
    rfl
  have hplaced : placed (some (script, line)) ("label '" ++ label ++ "' not found") =
      script ++ ":" ++ toString line ++ ": " ++ ("label '" ++ label ++ "' not found") := by
    unfold placed
    rfl
  rw [hmessage, hplaced]
  apply String.toList_inj.mp
  simp

/-- What a machine itself says of a step that is made at a place: a bound of the expansion, a
complaint of a verb, or a flow that cannot be followed. In front of it stands that place or none. -/
inductive Diagnosis (place : Option (String × Nat)) : Option (String × Nat) → String → Prop
  | limit (limit : Placeholder.Limit) : Diagnosis place none limit.message
  | unknownVerb (verb : String) : Diagnosis place place (RunError.unknownVerb verb).message
  | complaint {e : VerbError} (h : e.IsOwn) : Diagnosis place place e.message
  | noSuchLabel (label : String) (h : place.isSome) :
      Diagnosis place place ("label '" ++ label ++ "' not found")
  | notInScript {jump : String} (label : String) (hj : jump = "goto" ∨ jump = "call")
      (h : place = none) : Diagnosis place none (RunError.notInScript jump label).message
  | noScript (name : String) (e : ScriptError) :
      Diagnosis place none (RunError.noScript name e).message
  | returnAtBase : Diagnosis place none RunError.returnAtBase.message

theorem Diagnosis.named_eq {place named : Option (String × Nat)} {message : String}
    (h : Diagnosis place named message) : named = none ∨ named = place := by
  cases h with
  | limit | notInScript | noScript | returnAtBase => exact .inl rfl
  | unknownVerb | complaint | noSuchLabel => exact .inr rfl

/-- A text that a machine itself reports of a step that is made at a place. -/
def DiagnosisAt (place : Option (String × Nat)) (text : String) : Prop :=
  ∃ named message, Diagnosis place named message ∧ text = placed named message

theorem Diagnosis.located {place named : Option (String × Nat)} {message : String}
    (h : Diagnosis place named message) : DiagnosisAt place (placed named message) :=
  ⟨named, message, h, rfl⟩

/-- Lines of which the diagnostics are what a machine itself reports at a place. -/
def Diagnosed (place : Option (String × Nat)) (lines : List LogLine) : Prop :=
  ∀ text, LogLine.diagnostic text ∈ lines → DiagnosisAt place text

theorem Diagnosed.nil (place : Option (String × Nat)) : Diagnosed place [] := by simp [Diagnosed]

theorem Diagnosed.singleton {place : Option (String × Nat)} {text : String}
    (h : DiagnosisAt place text) : Diagnosed place [.diagnostic text] := by
  intro text' htext
  simp only [List.mem_singleton, LogLine.diagnostic.injEq] at htext
  exact htext ▸ h

theorem Diagnosed.append {place : Option (String × Nat)} {a b : List LogLine}
    (ha : Diagnosed place a) (hb : Diagnosed place b) : Diagnosed place (a ++ b) := by
  intro text htext
  rcases List.mem_append.mp htext with htext | htext
  · exact ha text htext
  · exact hb text htext

/-! ## Frames -/

/-- The frame at its next line, if it has lines. -/
def Frame.advance (f : Frame) : Frame :=
  if f.script.isSome then { f with line := f.line + 1 } else f

/-- A caller that gets a value and a status back and is at its next line, if it has lines. -/
def Frame.resume (f : Frame) (value : String) (status : Int) : Frame :=
  { f with ret := value, status := status, line := if f.script.isSome then f.line + 1 else f.line }

/-- The frame is at a line of its script or right after the last one, and knows its name. -/
structure Frame.Placed (f : Frame) : Prop where
  line : ∃ script, f.script = some script ∧ f.line ≤ script.lines.size
  args : f.args ≠ []

theorem Frame.placed_ofScript {script : Script} {line : Nat} (h : line ≤ script.lines.size)
    (name : String) (args : List String) : (Frame.ofScript script line (name :: args)).Placed :=
  ⟨⟨script, rfl, h⟩, List.cons_ne_nil _ _⟩

theorem Frame.Placed.isSome {f : Frame} (h : f.Placed) : f.script.isSome := by
  obtain ⟨script, hs, -⟩ := h.line
  rw [hs]
  rfl

/-- What a frame can become in a step: it keeps script and arguments, it does not leave the script
from a line of it, and without a script it has no lines to go to. -/
structure Frame.Continues (f f' : Frame) : Prop where
  script : f'.script = f.script
  args : f'.args = f.args
  bare : f.script = none → f'.line = f.line
  within : ∀ script, f.script = some script → f.line < script.lines.size →
    f'.line ≤ script.lines.size

namespace Frame

variable {f f' : Frame}

theorem Continues.refl (f : Frame) : f.Continues f :=
  ⟨rfl, rfl, fun _ => rfl, fun _ _ h => Nat.le_of_lt h⟩

/-- A frame that goes on from a line of its script. -/
theorem Continues.placed (h : f.Continues f') (hp : f.Placed) {script : Script} {text : String}
    (hs : f.script = some script) (hl : script.lines[f.line]? = some text) : f'.Placed := by
  have hlt : f.line < script.lines.size := (Array.getElem?_eq_some_iff.mp hl).1
  refine ⟨⟨script, h.script.trans hs, h.within script hs hlt⟩, ?_⟩
  rw [h.args]
  exact hp.args

theorem continues_advance (f : Frame) : f.Continues f.advance := by
  unfold advance
  split
  · rename_i hs
    exact ⟨rfl, rfl, fun hn => by simp [hn] at hs, fun _ _ h => h⟩
  · exact .refl f

theorem continues_resume (f : Frame) (value : String) (status : Int) :
    f.Continues (f.resume value status) := by
  refine ⟨rfl, rfl, fun hn => ?_, fun script hs h => ?_⟩
  · simp [resume, hn]
  · simp only [resume, hs]
    exact h

end Frame

namespace Stack

/-- The stack `s'` is `s` but for status, return value and local variables of the top frame. -/
def WorkedTo (s s' : Stack) : Prop :=
  ∃ status ret locals,
    s' = s.modifyTop fun f => { f with status := status, ret := ret, locals := locals }

theorem WorkedTo.refl (s : Stack) : s.WorkedTo s :=
  ⟨s.top.status, s.top.ret, s.top.locals, (modifyTop_eq_self rfl).symm⟩

theorem EditedTo.workedTo {s s' : Stack} (h : s.EditedTo s') (status : Int) (ret : String) :
    s.WorkedTo (s'.modifyTop fun f => { f with status := status, ret := ret }) := by
  obtain ⟨locals, rfl⟩ := h
  exact ⟨status, ret, locals, modifyTop_modifyTop ..⟩

theorem WorkedTo.top_eq {s s' : Stack} (h : s.WorkedTo s') :
    s'.top.script = s.top.script ∧ s'.top.line = s.top.line ∧ s'.top.args = s.top.args := by
  obtain ⟨status, ret, locals, rfl⟩ := h
  simp

theorem WorkedTo.depth_eq {s s' : Stack} (h : s.WorkedTo s') : s'.depth = s.depth := by
  obtain ⟨status, ret, locals, rfl⟩ := h
  simp

/-- The stack with its top frame back from a call. -/
def resume (s : Stack) (value : String) (status : Int) : Stack :=
  s.modifyTop fun f => f.resume value status

@[simp] theorem depth_resume (s : Stack) (value : String) (status : Int) :
    (s.resume value status).depth = s.depth := depth_modifyTop ..

/-- The ways in which a step moves a stack: it changes the top frame, or it does so and puts a frame
on top, or it takes the top frame off and changes the next one. -/
inductive Moves (s s' : Stack) : Prop
  | stay (g : Frame → Frame) (h : s' = s.modifyTop g) (hg : s.top.Continues (g s.top))
  | enter (g : Frame → Frame) (f : Frame) (h : s' = (s.modifyTop g).push f)
      (hg : s.top.Continues (g s.top)) (hf : f.Placed)
  | leave (g : Frame → Frame) (rest : Stack) (callee : Frame) (hs : s = rest.push callee)
      (h : s' = rest.modifyTop g) (hg : rest.top.Continues (g rest.top))

theorem WorkedTo.pop {s rest : Stack} {callee : Frame} (h : s.WorkedTo (rest.push callee)) :
    ∃ f, s = rest.push f := by
  obtain ⟨status, ret, locals, he⟩ := h
  have hd := congrArg Stack.depth he
  rw [depth_push, depth_modifyTop] at hd
  have hpos := rest.depth_pos
  obtain ⟨rest', f, rfl⟩ := exists_push_of_depth (s := s) (by omega)
  rw [modifyTop_push] at he
  obtain ⟨rfl, -⟩ := push_inj he
  exact ⟨f, rfl⟩

/-- Work in the top frame before a move makes no other move of it. -/
theorem WorkedTo.moves {s s' s'' : Stack} (h : s.WorkedTo s') (hm : s'.Moves s'') :
    s.Moves s'' := by
  have hcontinues : ∀ g : Frame → Frame, s'.top.Continues (g s'.top) →
      s.top.Continues (g s'.top) := by
    intro g hg
    obtain ⟨hscript, hline, hargs⟩ := h.top_eq
    obtain ⟨gscript, gargs, gbare, gwithin⟩ := hg
    rw [hscript, hline] at gwithin gbare
    exact ⟨gscript.trans hscript, gargs.trans hargs, gbare, gwithin⟩
  cases hm with
  | stay g hs hg =>
    have hg := hcontinues g hg
    obtain ⟨status, ret, locals, rfl⟩ := h
    rw [modifyTop_modifyTop] at hs
    rw [top_modifyTop] at hg
    exact .stay _ hs hg
  | enter g f hs hg hf =>
    have hg := hcontinues g hg
    obtain ⟨status, ret, locals, rfl⟩ := h
    rw [modifyTop_modifyTop] at hs
    rw [top_modifyTop] at hg
    exact .enter _ f hs hg hf
  | leave g rest callee hr hs hg =>
    obtain ⟨f, rfl⟩ := (hr ▸ h).pop
    exact .leave g rest f rfl hs hg

theorem WorkedTo.moves_self {s s' : Stack} (h : s.WorkedTo s') : s.Moves s' := by
  have hid : s'.modifyTop id = s' := modifyTop_eq_self rfl
  exact h.moves (.stay id hid.symm (.refl _))

end Stack

/-! ## The first half of a step -/

namespace Machine

/-- The tokens of a line after expansion, and the machine in which its verb is carried out. -/
def prepare (line : String) (m : Machine) : List String × Machine :=
  let (tokens, m) := Placeholder.expandAll host (Line.tokenize line) m
  (tokens, m.trace tokens)

/-- Whether there is no command on a line. -/
def isBlank (line : String) : Bool := ((Line.tokenize line).headD "").isEmpty

/-- A handler with all that it is given. -/
structure Call where
  handler : Handler
  tokens : List String
  turn : Turn

/-- The turn that the handler makes of the one it is given. -/
def Call.result (c : Call) : Turn := c.handler c.tokens c.turn

/-- The call of a handler that a line makes. A blank line and an unknown verb make none. -/
def call? (verbs : VerbTable) (line : String) (m : Machine) : Option Call :=
  if isBlank line then none
  else (verbs.find? ((m.prepare line).1.headD "")).map fun handler =>
    ⟨handler, (m.prepare line).1, (m.prepare line).2.turn⟩

/-- Expansion and tracing only log, and all that is reported then is bounds of the expansion. -/
theorem prepare_eq (line : String) (m : Machine) :
    ∃ lines, (m.prepare line).2 = m.logged lines ∧ Diagnosed m.turn.place lines := by
  let P : Machine → Prop := fun m' => ∃ lines, m' = m.logged lines ∧ Diagnosed m.turn.place lines
  have hstart : P m := ⟨[], m.logged_nil.symm, .nil _⟩
  have hk : host.Keeps P := by
    refine ⟨fun _ _ _ h => h, ?_⟩
    rintro limit m' ⟨lines, rfl, hd⟩
    exact ⟨_, m.report_logged lines limit.message, hd.append (.singleton (Diagnosis.limit limit).located)⟩
  obtain ⟨lines, hlines, hd⟩ := Placeholder.expandAll_keeps hk (Line.tokenize line) hstart
  simp only [prepare, hlines, trace]
  split
  · exact ⟨_, m.print_logged lines _, hd.append (by simp [Diagnosed])⟩
  · exact ⟨lines, rfl, hd⟩

theorem command_of_blank {line : String} (h : isBlank line = true) (verbs : VerbTable)
    (m : Machine) : m.command verbs line = (m, .next, false) := by
  unfold command
  exact if_pos h

theorem command_of_not_blank {line : String} (h : isBlank line = false) (verbs : VerbTable)
    (m : Machine) :
    m.command verbs line =
      let t := dispatch verbs (m.prepare line).1 (m.prepare line).2.turn
      (settle t, t.flow, t.halted) := by
  unfold command
  refine if_neg ?_
  rw [Bool.not_eq_true]
  exact h

/-- A command that writes back the status and the return value it was given changes nothing. -/
theorem settle_turn (m : Machine) : settle m.turn = m := by
  have hs : m.stack.modifyTop (fun f =>
      { f with status := m.top.status, ret := m.top.ret }) = m.stack :=
    Stack.modifyTop_eq_self rfl
  simp only [settle, turn, modifyTop, hs]

/-- A command with an unknown verb is reported. -/
theorem command_of_unknown {verbs : VerbTable} {line : String} {m : Machine}
    (hb : isBlank line = false) (hf : verbs.find? ((m.prepare line).1.headD "") = none) :
    ∃ lines, Diagnosed m.turn.place lines ∧
      m.command verbs line = (m.logged (lines ++ [.diagnostic (placed m.turn.place
        (RunError.unknownVerb ((m.prepare line).1.headD "")).message)]), .next, false) := by
  obtain ⟨lines, hm, hd⟩ := m.prepare_eq line
  refine ⟨lines, hd, ?_⟩
  rw [command_of_not_blank hb, ← report_logged]
  simp only [dispatch, hf, hm, Turn.located_eq_placed]
  exact Prod.ext (settle_turn (report _ _)) rfl

/-- A line either calls no handler, and then it only logs, or it comes to what the handler made of
its turn. -/
theorem command_cases (verbs : VerbTable) (line : String) (m : Machine) :
    (m.call? verbs line = none ∧ ∃ lines, Diagnosed m.turn.place lines ∧
      m.command verbs line = (m.logged lines, .next, false)) ∨
    ∃ c, m.call? verbs line = some c ∧
      m.command verbs line = (settle c.result, c.result.flow, c.result.halted) := by
  cases hb : isBlank line with
  | true =>
    refine .inl ⟨by simp [call?, hb], [], .nil _, ?_⟩
    rw [command_of_blank hb, logged_nil]
  | false =>
    cases hf : verbs.find? ((m.prepare line).1.headD "") with
    | some handler =>
      rw [command_of_not_blank hb]
      refine .inr ⟨⟨handler, (m.prepare line).1, (m.prepare line).2.turn⟩, ?_, ?_⟩
      · rw [call?, hb, hf]
        rfl
      · simp only [dispatch, hf, Call.result]
    | none =>
      obtain ⟨lines, hd, hc⟩ := command_of_unknown hb hf
      exact .inl ⟨by rw [call?, hb, hf]; rfl, _,
        hd.append (.singleton (Diagnosis.unknownVerb _).located), hc⟩

theorem turn_of_call? {verbs : VerbTable} {line : String} {m : Machine} {c : Call}
    (h : m.call? verbs line = some c) :
    verbs.find? (c.tokens.headD "") = some c.handler ∧
      c.tokens = (m.prepare line).1 ∧ c.turn = (m.prepare line).2.turn := by
  unfold call? at h
  split at h
  · cases h
  · obtain ⟨handler, hf, rfl⟩ := Option.map_eq_some_iff.mp h
    exact ⟨hf, rfl, rfl⟩

/-- A handler is given the place where the machine stands. -/
theorem place_of_call? {verbs : VerbTable} {line : String} {m : Machine} {c : Call}
    (h : m.call? verbs line = some c) : c.turn.place = m.turn.place := by
  obtain ⟨lines, hm, -⟩ := m.prepare_eq line
  rw [(turn_of_call? h).2.2, hm]
  rfl

/-- A line that calls a handler comes to what that makes of its turn. -/
theorem command_of_call? {verbs : VerbTable} {line : String} {m : Machine} {c : Call}
    (h : m.call? verbs line = some c) :
    m.command verbs line = (settle c.result, c.result.flow, c.result.halted) := by
  rcases command_cases verbs line m with ⟨hnone, -⟩ | ⟨c', hsome, hc⟩
  · cases hnone.symm.trans h
  · cases hsome.symm.trans h
    exact hc

/-- What is reported before a handler is called. -/
theorem diagnosed_turn {verbs : VerbTable} {line : String} {m : Machine} {c : Call}
    (h : m.call? verbs line = some c) :
    ∃ lines, c.turn.machine.log.toList = m.log.toList ++ lines ∧
      Diagnosed m.turn.place lines := by
  obtain ⟨lines, hm, hd⟩ := m.prepare_eq line
  refine ⟨lines, ?_, hd⟩
  rw [(turn_of_call? h).2.2, hm]
  exact m.log_logged lines

variable {verbs : VerbTable}

/-- A command works in the top frame only. -/
theorem workedTo_command (hv : verbs.Permitted) (line : String) (m : Machine) :
    m.stack.WorkedTo (m.command verbs line).1.stack := by
  rcases command_cases verbs line m with ⟨-, lines, -, hc⟩ | ⟨c, hcall, hc⟩
  · rw [hc]
    exact .refl _
  · obtain ⟨hf, -, hturn⟩ := turn_of_call? hcall
    obtain ⟨lines, hm, -⟩ := m.prepare_eq line
    have he := (hv.of_find? hf).editsLocals c.tokens c.turn
    have hs : c.turn.machine.stack = m.stack := by
      rw [hturn, hm]
      rfl
    rw [hc]
    rw [hs] at he
    exact he.workedTo _ _

/-- Unless the host's own verb was called, all that a command reports is diagnosed at the place of
the machine. -/
theorem diagnosed_command {line : String} {m : Machine}
    (hown : ∀ c, m.call? verbs line = some c → c.handler.Own) :
    ∃ lines, (m.command verbs line).1.log.toList = m.log.toList ++ lines ∧
      Diagnosed m.turn.place lines := by
  rcases command_cases verbs line m with ⟨-, lines, hd, hc⟩ | ⟨c, hcall, hc⟩
  · exact ⟨lines, by rw [hc, log_logged], hd⟩
  · obtain ⟨before, hlog, hb⟩ := diagnosed_turn hcall
    obtain ⟨lines, hl, hd⟩ := ((hown c hcall).effect c.tokens c.turn).log
    refine ⟨before ++ lines, ?_, hb.append fun text htext => ?_⟩
    · rw [hc, ← List.append_assoc, ← hlog, ← hl]
      rfl
    · obtain ⟨e, he, rfl⟩ := hd text htext
      rw [Turn.located_eq_placed, place_of_call? hcall]
      exact (Diagnosis.complaint he).located

/-! ## The second half of a step -/

/-- What becomes of a machine that follows a flow. -/
inductive Follows (m : Machine) : Flow → Machine → Prop
  | next : Follows m .next m.advance
  | goto {label : String} {script : Script} {index : Nat} (hs : m.top.script = some script)
      (hl : script.findLabel? label = some index) :
      Follows m (.goto label) (m.modifyTop fun f => { f with line := index + 1 })
  | call {label : String} {args : List String} {script : Script} {index : Nat}
      (hs : m.top.script = some script) (hl : script.findLabel? label = some index) :
      Follows m (.call label args)
        { m with stack := m.stack.push (.ofScript script (index + 1) (label :: args)) }
  | run {name : String} {args : List String} {script : Script} (hl : m.load name = .ok script) :
      Follows m (.run name args)
        { m with stack := m.stack.push (.ofScript script 0 (name :: args)) }
  | refused {flow : Flow} {e : RunError} (he : DiagnosisAt m.turn.place e.message) :
      Follows m flow (m.complain e).advance
  | ret {value : String} {callee : Frame} {rest : Stack} (hs : m.stack = rest.push callee) :
      Follows m (.ret value) { m with stack := rest.resume value callee.status }
  | base {value : String} (hs : m.stack.above = []) :
      Follows m (.ret value) (m.complain .returnAtBase)

theorem target_cases (m : Machine) {jump : String} (hj : jump = "goto" ∨ jump = "call")
    (label : String) :
    (∃ script index, m.top.script = some script ∧ script.findLabel? label = some index ∧
      m.target jump label = .ok (script, index + 1)) ∨
    ∃ e, m.target jump label = .error e ∧ DiagnosisAt m.turn.place e.message := by
  unfold target
  split
  · rename_i hs
    have hplace : m.turn.place = none := by simp [turn, hs]
    exact .inr ⟨_, rfl, (Diagnosis.notInScript label hj hplace).located⟩
  · rename_i script hs
    split
    · rename_i index hl
      exact .inl ⟨script, index, hs, hl, rfl⟩
    · have hplace : m.turn.place = some (script.name, m.top.line + 1) := by simp [turn, hs]
      have hsome : m.turn.place.isSome := by rw [hplace]; rfl
      refine .inr ⟨_, rfl, _, _, .noSuchLabel label hsome, ?_⟩
      rw [RunError.noSuchLabel_placed, hplace]

theorem leave_push {m : Machine} {rest : Stack} {callee : Frame} (h : m.stack = rest.push callee)
    (value : String) : m.leave value = { m with stack := rest.resume value callee.status } := by
  have hf : ∀ f : Frame, Frame.resume f value callee.status =
      if f.script.isSome then { f with ret := value, status := callee.status, line := f.line + 1 }
      else { f with ret := value, status := callee.status } := fun f => by
    unfold Frame.resume
    split <;> rfl
  simp only [leave, Stack.pop?_eq_some_iff.mpr h, advance, modifyTop, Stack.modifyTop_modifyTop,
    Stack.resume, hf]

theorem leave_base {m : Machine} (h : m.stack.above = []) (value : String) :
    m.leave value = m.complain .returnAtBase := by
  simp only [leave, Stack.pop?_eq_none_iff.mpr h]

theorem follows_follow (m : Machine) (flow : Flow) : m.Follows flow (m.follow flow) := by
  cases flow with
  | next => exact .next
  | goto label =>
    simp only [follow]
    rcases m.target_cases (.inl rfl) label with ⟨script, index, hs, hl, ht⟩ | ⟨e, ht, he⟩
    · rw [ht]
      exact .goto hs hl
    · rw [ht]
      exact .refused he
  | call label args =>
    simp only [follow]
    rcases m.target_cases (.inr rfl) label with ⟨script, index, hs, hl, ht⟩ | ⟨e, ht, he⟩
    · rw [ht]
      exact .call hs hl
    · rw [ht]
      exact .refused he
  | run name args =>
    simp only [follow]
    cases hl : m.load name with
    | ok script => exact .run hl
    | error e => exact .refused (Diagnosis.noScript name e).located
  | ret value =>
    simp only [follow]
    cases hs : m.stack.pop? with
    | none =>
      rw [Stack.pop?_eq_none_iff] at hs
      rw [leave_base hs]
      exact .base hs
    | some p =>
      obtain ⟨callee, rest⟩ := p
      rw [Stack.pop?_eq_some_iff] at hs
      rw [leave_push hs]
      exact .ret hs

@[simp] theorem stack_modifyTop (m : Machine) (g : Frame → Frame) :
    (m.modifyTop g).stack = m.stack.modifyTop g := rfl

@[simp] theorem stack_advance (m : Machine) :
    m.advance.stack = m.stack.modifyTop Frame.advance := rfl

@[simp] theorem stack_complain (m : Machine) (e : RunError) : (m.complain e).stack = m.stack := rfl

theorem moves_follow (m : Machine) (flow : Flow) : m.stack.Moves (m.follow flow).stack := by
  have hid : m.stack.modifyTop id = m.stack := Stack.modifyTop_eq_self rfl
  have h := m.follows_follow flow
  generalize m.follow flow = m' at h ⊢
  cases h with
  | next => exact .stay _ rfl (Frame.continues_advance _)
  | @goto label script index hs hl =>
    have hlt := Script.findLabel?_lt hl
    refine .stay _ (stack_modifyTop ..) ⟨rfl, rfl, fun hn => ?_, fun script' hs' _ => ?_⟩
    · cases hs.symm.trans hn
    · cases hs.symm.trans hs'
      exact hlt
  | call hs hl =>
    exact .enter id _ (by rw [hid]) (.refl _) (Frame.placed_ofScript (Script.findLabel?_lt hl) _ _)
  | run hl => exact .enter id _ (by rw [hid]) (.refl _) (Frame.placed_ofScript (Nat.zero_le _) _ _)
  | refused => exact .stay _ rfl (Frame.continues_advance _)
  | ret hs =>
    exact .leave (fun f => f.resume _ _) _ _ hs rfl (Frame.continues_resume _ _ _)
  | base => exact .stay id hid.symm (.refl _)

/-- Following a flow reports at most one thing, and at the place of the machine. -/
theorem diagnosed_follow (m : Machine) (flow : Flow) :
    ∃ lines, (m.follow flow).log.toList = m.log.toList ++ lines ∧ Diagnosed m.turn.place lines := by
  have h := m.follows_follow flow
  generalize m.follow flow = m' at h ⊢
  cases h with
  | next => exact ⟨[], (List.append_nil _).symm, .nil _⟩
  | goto => exact ⟨[], (List.append_nil _).symm, .nil _⟩
  | call => exact ⟨[], (List.append_nil _).symm, .nil _⟩
  | run => exact ⟨[], (List.append_nil _).symm, .nil _⟩
  | refused he => exact ⟨_, Array.toList_push .., .singleton he⟩
  | ret => exact ⟨[], (List.append_nil _).symm, .nil _⟩
  | base => exact ⟨_, Array.toList_push .., .singleton Diagnosis.returnAtBase.located⟩

/-! ## Both halves -/

theorem step_of_halted {line : String} {m : Machine} (h : (m.command verbs line).2.2 = true) :
    m.step verbs line = (true, (m.command verbs line).1) := by
  rw [step_eq, if_pos h]

theorem step_of_going {line : String} {m : Machine} (h : (m.command verbs line).2.2 = false) :
    m.step verbs line = (false, (m.command verbs line).1.follow (m.command verbs line).2.1) := by
  rw [step_eq, if_neg (by rw [h]; exact Bool.false_ne_true)]

/-- A step asks for the end if its command does. -/
theorem fst_step (verbs : VerbTable) (line : String) (m : Machine) :
    (m.step verbs line).1 = (m.command verbs line).2.2 := by
  cases hh : (m.command verbs line).2.2 with
  | true => rw [step_of_halted hh]
  | false => rw [step_of_going hh]

/-- A line without a command leads to the next one. -/
theorem step_of_isBlank {line : String} (h : isBlank line = true) (verbs : VerbTable)
    (m : Machine) : m.step verbs line = (false, m.advance) := by
  have hcommand := command_of_blank h verbs m
  have hgoing : (m.command verbs line).2.2 = false := by rw [hcommand]
  rw [step_of_going hgoing, hcommand]
  rfl

/-- What the second half of a step reports. -/
theorem diagnosed_settled (hv : verbs.Permitted) (line : String) (m : Machine) :
    ∃ lines, (m.step verbs line).2.log.toList = (m.command verbs line).1.log.toList ++ lines ∧
      Diagnosed m.turn.place lines := by
  cases hh : (m.command verbs line).2.2 with
  | true =>
    rw [step_of_halted hh]
    exact ⟨[], (List.append_nil _).symm, .nil _⟩
  | false =>
    obtain ⟨hscript, hline, -⟩ := (workedTo_command hv line m).top_eq
    have hplace : (m.command verbs line).1.turn.place = m.turn.place := by
      simp only [turn, top, hscript, hline]
    rw [step_of_going hh, ← hplace]
    exact diagnosed_follow _ _

/-- Unless the host's own verb was called, all that a step reports is diagnosed at the place of the
machine. -/
theorem diagnosed_step (hv : verbs.Permitted) {line : String} {m : Machine}
    (hown : ∀ c, m.call? verbs line = some c → c.handler.Own) :
    ∃ lines, (m.step verbs line).2.log.toList = m.log.toList ++ lines ∧
      Diagnosed m.turn.place lines := by
  obtain ⟨before, hbefore, hb⟩ := diagnosed_command hown
  obtain ⟨after, hafter, ha⟩ := diagnosed_settled hv line m
  exact ⟨before ++ after, by rw [hafter, hbefore, List.append_assoc], hb.append ha⟩

theorem moves_step (hv : verbs.Permitted) (line : String) (m : Machine) :
    m.stack.Moves (m.step verbs line).2.stack := by
  have hw := workedTo_command hv line m
  cases hh : (m.command verbs line).2.2 with
  | true =>
    rw [step_of_halted hh]
    exact hw.moves_self
  | false =>
    rw [step_of_going hh]
    exact hw.moves (moves_follow _ _)

end Machine

end Testbench
