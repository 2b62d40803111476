import Testbench.Proofs.Interpreter.Course

/-!
# Frames below the top

A frame that is called runs on top of its caller until it returns. All that time the frames below
it are as they were when it was pushed, and its return changes nothing but the caller.

* `Stack.Moves.truncate_eq` : a step changes nothing below the top frame.
* `Course.truncate_eq` : nor does a run, until it returns from there.
* `Machine.pushed_step`, `Machine.popped_step`, `Machine.follow_ret` : the step that pushes a frame,
  and the two ways in which it is taken off.
* `Course.frames_isolated` : from the push of a frame to its return.
-/

set_option autoImplicit false

namespace Testbench

/-! ## Below the top frame -/

namespace Stack

variable {s s' : Stack} {d : Nat}

/-- A step from above a depth does not lead below it. -/
theorem Moves.le_depth (h : s.Moves s') (hd : d < s.depth) : d ≤ s'.depth := by
  cases h with
  | stay g h _ =>
    rw [h, depth_modifyTop]
    omega
  | enter g f h _ _ =>
    rw [h, depth_push, depth_modifyTop]
    omega
  | leave g rest callee hs h _ =>
    rw [hs, depth_push] at hd
    rw [h, depth_modifyTop]
    omega

/-- A step puts on at most one frame. -/
theorem Moves.depth_le (h : s.Moves s') : s'.depth ≤ s.depth + 1 := by
  cases h with
  | stay g h _ =>
    rw [h, depth_modifyTop]
    omega
  | enter g f h _ _ =>
    have heq : s'.depth = s.depth + 1 := by rw [h, depth_push, depth_modifyTop]
    exact Nat.le_of_eq heq
  | leave g rest callee hs h _ =>
    rw [h, hs, depth_modifyTop, depth_push]
    omega

/-- A step takes off at most one frame. -/
theorem Moves.depth_le_succ (h : s.Moves s') : s.depth ≤ s'.depth + 1 := by
  have hpos := s.depth_pos
  have hle := h.le_depth (d := s.depth - 1) (by omega)
  omega

/-- As long as the stack stays deeper, a step changes nothing up to a depth. -/
theorem Moves.truncate_eq (h : s.Moves s') (hpos : 0 < d) (hd : d < s.depth)
    (hd' : d < s'.depth) : s'.truncate d = s.truncate d := by
  cases h with
  | stay g h _ => rw [h, truncate_modifyTop g hpos hd]
  | enter g f h _ _ =>
    have hle : d ≤ (s.modifyTop g).depth := by
      rw [depth_modifyTop]
      omega
    rw [h, truncate_push _ _ hle, truncate_modifyTop g hpos hd]
  | leave g rest callee hs h _ =>
    have hrest : d < rest.depth := by
      rw [h, depth_modifyTop] at hd'
      exact hd'
    rw [h, hs, truncate_modifyTop g hpos hrest, truncate_push _ _ (Nat.le_of_lt hrest)]

/-- What is below the top frame is the stack up to its depth. -/
theorem truncate_push_depth (rest : Stack) (f : Frame) :
    (rest.push f).truncate rest.depth = rest := by
  rw [truncate_push _ _ (Nat.le_refl _), truncate_depth]

/-- What is left when the frame right above a depth is taken off. -/
theorem eq_truncate_of_push {rest : Stack} {f : Frame} (hs : s = rest.push f) (hd : d < s.depth)
    (hle : rest.depth ≤ d) : rest = s.truncate d := by
  rw [hs, depth_push] at hd
  have heq : d = rest.depth := by omega
  rw [hs, heq, truncate_push_depth]

end Stack

namespace Course

variable {verbs : VerbTable} {depth : Nat} {start m : Machine} {moments : List Moment}

theorem le_depth (hv : verbs.Permitted) (h : Course verbs depth start moments m)
    (hs : depth ≤ start.stack.depth) : depth ≤ m.stack.depth := by
  cases h with
  | start => exact hs
  | line text _ hd _ => exact (Machine.moves_step hv text _).le_depth hd
  | off _ hd _ => exact (Machine.moves_follow _ _).le_depth hd

/-- A run changes nothing up to its depth as long as it is deeper. -/
theorem truncate_eq (hv : verbs.Permitted) (h : Course verbs depth start moments m)
    (hpos : 0 < depth) (hd : depth < m.stack.depth) :
    m.stack.truncate depth = start.stack.truncate depth := by
  induction h with
  | start => rfl
  | line text _ hprev _ ih =>
    rw [← ih hprev]
    exact (Machine.moves_step hv text _).truncate_eq hpos hprev hd
  | off _ hprev _ ih =>
    rw [← ih hprev]
    exact (Machine.moves_follow _ _).truncate_eq hpos hprev hd

end Course

/-! ## The push and the return -/

namespace Machine

variable {verbs : VerbTable} {m : Machine}

/-- The frame that a machine pushes when it follows a flow. -/
inductive Opens (m : Machine) : Flow → Frame → Prop
  | call {label : String} {args : List String} {script : Script} {index : Nat}
      (hs : m.top.script = some script) (hl : script.findLabel? label = some index) :
      Opens m (.call label args) (.ofScript script (index + 1) (label :: args))
  | run {name : String} {args : List String} {script : Script} (hl : m.load name = .ok script) :
      Opens m (.run name args) (.ofScript script 0 (name :: args))

theorem pushed_follow {flow : Flow} (h : m.stack.depth < (m.follow flow).stack.depth) :
    ∃ callee, m.Opens flow callee ∧ (m.follow flow).stack = m.stack.push callee := by
  have hf := m.follows_follow flow
  generalize m.follow flow = m' at h hf ⊢
  cases hf with
  | call hs hl => exact ⟨_, .call hs hl, rfl⟩
  | run hl => exact ⟨_, .run hl, rfl⟩
  | next | goto | refused => simp at h
  | ret hs =>
    simp only [hs, Stack.depth_push, Stack.depth_resume] at h
    omega
  | base => exact absurd h (Nat.lt_irrefl _)

theorem popped_follow {flow : Flow} (h : (m.follow flow).stack.depth < m.stack.depth) :
    ∃ value, flow = .ret value := by
  have hf := m.follows_follow flow
  generalize m.follow flow = m' at h hf
  cases hf with
  | ret _ => exact ⟨_, rfl⟩
  | call | run =>
    simp only [Stack.depth_push] at h
    omega
  | next | goto | refused | base => simp at h

/-- Above the base there is always a caller to return to. -/
theorem follow_ret (h : 1 < m.stack.depth) (value : String) :
    ∃ rest : Stack, m.stack = rest.push m.top ∧
      m.follow (.ret value) = { m with stack := rest.resume value m.top.status } := by
  obtain ⟨rest, callee, hs⟩ := Stack.exists_push_of_depth h
  have htop : m.top = callee := by
    rw [top, hs]
    rfl
  rw [htop]
  exact ⟨rest, hs, leave_push hs value⟩

theorem depth_follow_ret (m : Machine) (value : String) :
    (m.follow (.ret value)).stack.depth ≤ m.stack.depth := by
  rcases Nat.lt_or_ge m.stack.depth (m.follow (.ret value)).stack.depth with h | h
  · obtain ⟨callee, hopens, -⟩ := pushed_follow h
    cases hopens
  · exact h

variable {line : String}

/-- The step that makes the stack deeper puts one frame on the stack that the command left. -/
theorem pushed_step (hv : verbs.Permitted)
    (h : m.stack.depth < (m.step verbs line).2.stack.depth) :
    ∃ callee, (m.command verbs line).1.Opens (m.command verbs line).2.1 callee ∧
      (m.step verbs line).2.stack = (m.command verbs line).1.stack.push callee := by
  have hdepth := (workedTo_command hv line m).depth_eq
  rw [← hdepth] at h
  cases hh : (m.command verbs line).2.2 with
  | true =>
    rw [step_of_halted hh] at h
    exact absurd h (Nat.lt_irrefl _)
  | false =>
    rw [step_of_going hh] at h ⊢
    exact pushed_follow h

/-- The step that makes the stack less deep carries out a command that returns. -/
theorem popped_step (hv : verbs.Permitted)
    (h : (m.step verbs line).2.stack.depth < m.stack.depth) :
    ∃ c value, m.call? verbs line = some c ∧ c.result.flow = .ret value ∧
      c.result.halted = false := by
  rw [← (workedTo_command hv line m).depth_eq] at h
  cases hh : (m.command verbs line).2.2 with
  | true =>
    rw [step_of_halted hh] at h
    exact absurd h (Nat.lt_irrefl _)
  | false =>
    rw [step_of_going hh] at h
    obtain ⟨value, hflow⟩ := popped_follow h
    rcases command_cases verbs line m with ⟨-, lines, -, hc⟩ | ⟨c, hcall, hc⟩
    · rw [hc] at hflow
      cases hflow
    · rw [hc] at hflow hh
      exact ⟨c, value, hcall, hflow, hh⟩

/-- A command that returns gives the caller the value and its own last status. -/
theorem step_ret (hv : verbs.Permitted) {c : Call} {value : String}
    (h : m.call? verbs line = some c) (hflow : c.result.flow = .ret value)
    (hgo : c.result.halted = false) (hdeep : 1 < m.stack.depth) :
    ∃ (rest : Stack) (callee : Frame), (m.command verbs line).1.stack = rest.push callee ∧
      (m.step verbs line).2.stack = rest.resume value c.result.status := by
  have hc : m.command verbs line = (settle c.result, .ret value, false) := by
    rw [command_of_call? h, hflow, hgo]
  have hstatus : (settle c.result).top.status = c.result.status :=
    congrArg Frame.status (Stack.top_modifyTop ..)
  have hstep : (m.step verbs line).2 = (settle c.result).follow (.ret value) := by
    rw [step_of_going (by rw [hc]), hc]
  rw [← (workedTo_command hv line m).depth_eq, hc] at hdeep
  rw [hc]
  obtain ⟨rest, hs, hresume⟩ := (settle c.result).follow_ret hdeep value
  refine ⟨rest, _, hs, ?_⟩
  rw [hstep, hresume, hstatus]

/-- A verb of the program itself that returns is `return`: it hands its arguments over, and leaves
the status as it is. -/
theorem returned_of_call? {c : Call} {value : String} (h : m.call? verbs line = some c)
    (ho : c.handler.Own) (hf : c.result.flow = .ret value) :
    value = Verb.words c.tokens 1 ∧ c.result.status = m.top.status := by
  obtain ⟨-, -, hturn⟩ := turn_of_call? h
  obtain ⟨lines, hm, -⟩ := m.prepare_eq line
  have hnext : c.turn.flow = .next := by
    rw [hturn]
    rfl
  have hstatus : c.turn.status = m.top.status := by
    rw [hturn, hm]
    rfl
  rcases (ho.effect c.tokens c.turn).flow with hkept | hother | hret
  · rw [Call.result, hkept, hnext] at hf
    cases hf
  · exact absurd hf (hother value)
  · rw [Call.result, hret] at hf ⊢
    cases hf
    exact ⟨rfl, hstatus⟩

end Machine

namespace Course

variable {verbs : VerbTable} {depth : Nat} {start m now : Machine} {moments : List Moment}
  {line : String}

/-- The rounds of a run are those of a run to a greater depth, as long as the stack is deeper. -/
theorem deepen (h : Course verbs depth start moments m) {d : Nat}
    (hmoments : ∀ e ∈ moments, d < e.machine.stack.depth) (hd : d < m.stack.depth) :
    Course verbs d start moments m := by
  induction h with
  | start => exact .start
  | @line moments m text _ _ hl ih =>
    have hm : d < m.stack.depth := hmoments ⟨m, text⟩ (by simp)
    exact .line text (ih (fun e he => hmoments e (List.mem_append_left _ he)) hm) hm hl
  | @off moments m _ _ hl ih =>
    have hm : d < m.stack.depth := Nat.lt_of_lt_of_le hd (m.depth_follow_ret "")
    exact .off (ih hmoments hm) hm hl

/-- As long as a frame has not returned, all that is below it is as the command left it that pushed
the frame. -/
theorem caller_eq (hv : verbs.Permitted)
    (hpush : m.stack.depth < (m.step verbs line).2.stack.depth)
    (hrun : Course verbs m.stack.depth (m.step verbs line).2 moments now)
    (hstill : m.stack.depth < now.stack.depth) :
    now.stack.truncate m.stack.depth = (m.command verbs line).1.stack := by
  have hdepth := (Machine.workedTo_command hv line m).depth_eq
  obtain ⟨callee, -, hcallee⟩ := Machine.pushed_step hv hpush
  rw [hrun.truncate_eq hv m.stack.depth_pos hstill, hcallee, ← hdepth, Stack.truncate_push_depth]

/-- **Frames are isolated and resumed exactly.** A line that makes the stack deeper pushes one frame
on a stack that differs from the one before it at most in status, return value and local variables
of the frame that carried it out. As long as that frame has not returned, and so in every run in
which the stack has been deeper all the time, the frames below are as they were at the push,
whatever runs in the frame and above it. Only a command that returns takes the frame off, or the end
of its script: then the caller gets the value and the status and is at its next line, and nothing
else changes. -/
theorem frames_isolated (hv : verbs.Permitted)
    (hpush : m.stack.depth < (m.step verbs line).2.stack.depth)
    (hrun : Course verbs depth (m.step verbs line).2 moments now)
    (hmoments : ∀ e ∈ moments, m.stack.depth < e.machine.stack.depth)
    (hstill : m.stack.depth < now.stack.depth) :
    ∃ caller : Stack, m.stack.WorkedTo caller ∧
      (∃ callee : Frame, (m.step verbs line).2.stack = caller.push callee) ∧
      now.stack.truncate m.stack.depth = caller ∧
      (∀ text, (now.step verbs text).2.stack.depth ≤ m.stack.depth →
        now.stack.depth = m.stack.depth + 1 ∧ ∃ c value, now.call? verbs text = some c ∧
          c.result.flow = .ret value ∧ c.result.halted = false) ∧
      (now.stack.depth = m.stack.depth + 1 →
        (∀ text c value, now.call? verbs text = some c → c.result.flow = .ret value →
          c.result.halted = false →
          (now.step verbs text).2.stack = caller.resume value c.result.status ∧
          (c.handler.Own →
            value = Verb.words c.tokens 1 ∧ c.result.status = now.top.status)) ∧
        (now.follow (.ret "")).stack = caller.resume "" now.top.status) := by
  have hcaller := Machine.workedTo_command hv line m
  obtain ⟨callee, -, hcallee⟩ := Machine.pushed_step hv hpush
  have hbelow := (hrun.deepen hmoments hstill).caller_eq hv hpush hstill
  have hpos := m.stack.depth_pos
  refine ⟨_, hcaller, ⟨callee, hcallee⟩, hbelow, ?_, fun hone => ⟨?_, ?_⟩⟩
  · intro text hpop
    have hless : (now.step verbs text).2.stack.depth < now.stack.depth := by omega
    have hmost := (Machine.moves_step hv text now).depth_le_succ
    exact ⟨by omega, Machine.popped_step hv hless⟩
  · intro text c value hcall hflow hgo
    have hwork := Machine.workedTo_command hv text now
    have hdepth := hwork.depth_eq
    have hdeep : m.stack.depth < (now.command verbs text).1.stack.depth := by omega
    obtain ⟨rest, f, hs, hresume⟩ := Machine.step_ret hv hcall hflow hgo (by omega)
    have hrest : rest.depth ≤ m.stack.depth := by
      rw [hs, Stack.depth_push] at hdepth
      omega
    refine ⟨?_, fun ho => Machine.returned_of_call? hcall ho hflow⟩
    rw [hresume, Stack.eq_truncate_of_push hs hdeep hrest,
      hwork.moves_self.truncate_eq hpos hstill hdeep, hbelow]
  · obtain ⟨rest, hs, hresume⟩ := now.follow_ret (by omega) ""
    have hrest : rest.depth ≤ m.stack.depth := by
      rw [hs, Stack.depth_push] at hone
      omega
    rw [hresume, Stack.eq_truncate_of_push hs hstill hrest, hbelow]

/-- A subroutine that sets a variable and then returns a text. -/
theorem frames_isolated_sub :
    let verbs := (Interpreter.ofArgs []).verbs
    let m := (Machine.ofArgs []).launch
      ⟨"s", #["call sub 1", ":sub", "set y 1", "return ok 3"]⟩ []
    let pushed := (m.step verbs "call sub 1").2
    let now := (pushed.step verbs "set y 1").2
    ∃ caller : Stack, m.stack.WorkedTo caller ∧ now.stack.truncate 2 = caller ∧
      ∃ status, (now.step verbs "return ok 3").2.stack = caller.resume "ok 3" status := by
  intro verbs m pushed now
  have hv : verbs.Permitted := Interpreter.permitted_ofMachine _
  have hpush : m.stack.depth < (m.step verbs "call sub 1").2.stack.depth := by decide +kernel
  have hset : pushed.currentLine? = some (some "set y 1") := by decide +kernel
  have hstill : m.stack.depth < now.stack.depth := by decide +kernel
  have hpop : (now.step verbs "return ok 3").2.stack.depth ≤ m.stack.depth := by decide +kernel
  have hvalue : (now.step verbs "return ok 3").2.stack.top.ret = "ok 3" := by decide +kernel
  have hrun : Course verbs 1 (m.step verbs "call sub 1").2 [⟨pushed, "set y 1"⟩] now :=
    .single _ (Nat.lt_trans (by decide) hpush) hset
  have hmoments : ∀ e ∈ [(⟨pushed, "set y 1"⟩ : Moment)], m.stack.depth < e.machine.stack.depth :=
    List.forall_mem_singleton.mpr hpush
  obtain ⟨caller, hwork, -, hbelow, hpopped, hreturned⟩ :=
    frames_isolated hv hpush hrun hmoments hstill
  obtain ⟨hone, c, value, hcall, hflow, hgo⟩ := hpopped _ hpop
  obtain ⟨hresume, -⟩ := (hreturned hone).1 _ c value hcall hflow hgo
  rw [hresume, Stack.resume, Stack.top_modifyTop] at hvalue
  cases hvalue
  exact ⟨caller, hwork, hbelow, _, hresume⟩

end Course

end Testbench
