import Testbench.Proofs.Interpreter.Frames

/-!
# Callers

Every frame of a run that is not on top has called the frame above it: it is at the line of a moment
of the run, the command of that moment pushed a frame, and since then the run has been in that frame
and above it. So the line that a caller goes on from when it gets the control back is a line of its
script, and no frame ever leaves its script by more than its end.

* `Waits` : the moment that the frame at a depth waits for.
* `Course.waits` : so it is at every depth that a run has reached.
* `Stack.PlacedAbove`, `Course.placedAbove` : all frames of a run are in their scripts.
-/

set_option autoImplicit false

namespace Testbench

variable {verbs : VerbTable} {depth d : Nat} {start m : Machine} {moments : List Moment}

/-! ## Waiting frames -/

theorem Machine.line_of_currentLine? {text : String} (h : m.currentLine? = some (some text)) :
    ∃ script, m.top.script = some script ∧ script.lines[m.top.line]? = some text :=
  Option.map_eq_some_iff.mp h

/-- The frame at a depth waits for the one above it: the moment `e` of the run pushed a frame there,
and since then the stack has been deeper. -/
structure Waits (verbs : VerbTable) (moments : List Moment) (m : Machine) (d : Nat) (e : Moment) :
    Prop where
  depth : e.machine.stack.depth = d
  line : e.machine.currentLine? = some (some e.line)
  pushes : d < (e.machine.step verbs e.line).2.stack.depth
  since : ∃ before after, moments = before ++ e :: after ∧
    Course verbs d (e.machine.step verbs e.line).2 after m

namespace Waits

variable {e : Moment}

theorem more {text : String} (h : Waits verbs moments m d e) (hd : d < m.stack.depth)
    (hl : m.currentLine? = some (some text)) :
    Waits verbs (moments ++ [⟨m, text⟩]) (m.step verbs text).2 d e := by
  obtain ⟨before, after, rfl, hrun⟩ := h.since
  exact ⟨h.depth, h.line, h.pushes, before, after ++ [⟨m, text⟩], List.append_assoc ..,
    .line text hrun hd hl⟩

theorem off (h : Waits verbs moments m d e) (hd : d < m.stack.depth)
    (hl : m.currentLine? = some none) : Waits verbs moments (m.follow (.ret "")) d e := by
  obtain ⟨before, after, hm, hrun⟩ := h.since
  exact ⟨h.depth, h.line, h.pushes, before, after, hm, .off hrun hd hl⟩

theorem cons (h : Waits verbs moments m d e) (first : Moment) :
    Waits verbs (first :: moments) m d e := by
  obtain ⟨before, after, hm, hrun⟩ := h.since
  exact ⟨h.depth, h.line, h.pushes, first :: before, after, by rw [hm]; rfl, hrun⟩

/-- The frames that wait are as the command left them that pushed the frame above. -/
theorem truncate_eq (h : Waits verbs moments m d e) (hv : verbs.Permitted)
    (hd : d < m.stack.depth) :
    m.stack.truncate d = (e.machine.command verbs e.line).1.stack := by
  obtain ⟨rfl, -, hpush, before, after, -, hrun⟩ := h
  exact hrun.caller_eq hv hpush hd

/-- The frame that waits is at the line that pushed the frame above. -/
theorem at_line (h : Waits verbs moments m d e) (hv : verbs.Permitted) (hd : d < m.stack.depth) :
    ∃ script, (m.stack.truncate d).top.script = some script ∧
      script.lines[(m.stack.truncate d).top.line]? = some e.line := by
  obtain ⟨script, hs, htext⟩ := Machine.line_of_currentLine? h.line
  obtain ⟨hscript, hat, -⟩ := (Machine.workedTo_command hv e.line e.machine).top_eq
  refine ⟨script, ?_, ?_⟩
  · rw [h.truncate_eq hv hd, hscript]
    exact hs
  · rw [h.truncate_eq hv hd, hat]
    exact htext

end Waits

/-- Wherever the stack has grown during a run, the frames wait. -/
theorem Course.waits (hv : verbs.Permitted) (h : Course verbs depth start moments m)
    (hs : start.stack.depth ≤ depth + 1) (hd : depth < d) (hd' : d < m.stack.depth) :
    ∃ e, Waits verbs moments m d e := by
  induction h with
  | start => omega
  | @line moments m text h hdeep hl ih =>
    by_cases hold : d < m.stack.depth
    · obtain ⟨e, he⟩ := ih hold
      exact ⟨e, he.more hold hl⟩
    · -- the line itself pushed the frame above this depth
      have hgrow := (Machine.moves_step hv text m).depth_le
      have hdepth : m.stack.depth = d := by omega
      exact ⟨⟨m, text⟩, hdepth, hl, hd', moments, [], rfl, .start⟩
  | @off moments m h hdeep hl ih =>
    have hold : d < m.stack.depth := Nat.lt_of_lt_of_le hd' (m.depth_follow_ret "")
    obtain ⟨e, he⟩ := ih hold
    exact ⟨e, he.off hold hl⟩

/-! ## Frames in their scripts -/

namespace Stack

/-- All frames above a depth are at lines of their scripts. -/
inductive PlacedAbove (depth : Nat) : Stack → Prop
  | floor {s : Stack} (h : s.depth ≤ depth) : PlacedAbove depth s
  | push {s : Stack} {f : Frame} (h : PlacedAbove depth s) (hf : f.Placed) :
      PlacedAbove depth (s.push f)

variable {s : Stack}

theorem PlacedAbove.pop {f : Frame} (h : (s.push f).PlacedAbove d) : s.PlacedAbove d := by
  generalize hp : s.push f = t at h
  cases h with
  | floor hd =>
    rw [← hp, depth_push] at hd
    exact .floor (by omega)
  | push h _ =>
    obtain ⟨rfl, -⟩ := push_inj hp
    exact h

theorem PlacedAbove.top (h : s.PlacedAbove d) (hd : d < s.depth) : s.top.Placed := by
  cases h with
  | floor hle => omega
  | push _ hf => exact hf

theorem PlacedAbove.of_mem (h : s.PlacedAbove 1) : ∀ f ∈ s.above, f.Placed := by
  induction h with
  | @floor s h =>
    intro f hf
    have hpos := List.length_pos_of_mem hf
    simp only [depth] at h
    omega
  | push _ hf ih => exact List.forall_mem_cons.mpr ⟨hf, ih⟩

theorem PlacedAbove.modifyTop (h : s.PlacedAbove d) {g : Frame → Frame}
    (hg : d < s.depth → (g s.top).Placed) : (s.modifyTop g).PlacedAbove d := by
  cases h with
  | floor hle =>
    refine .floor ?_
    rw [depth_modifyTop]
    exact hle
  | @push s f h hf =>
    by_cases hd : d < (s.push f).depth
    · exact .push h (hg hd)
    · refine .floor ?_
      rw [depth_modifyTop]
      omega

/-- A frame that a step puts on top is in its script. -/
theorem Moves.placedAbove {s' : Stack} (hm : s.Moves s') : s'.PlacedAbove s.depth := by
  cases hm with
  | stay g hs hg =>
    rw [hs]
    exact .floor (Nat.le_of_eq (depth_modifyTop g s))
  | enter g f hs hg hf =>
    rw [hs]
    exact .push (.floor (Nat.le_of_eq (depth_modifyTop g s))) hf
  | leave g rest callee hr hs hg =>
    refine .floor ?_
    rw [hs, hr, depth_modifyTop, depth_push]
    omega

end Stack

/-- The frame that a call returns to goes on in its script. -/
theorem Course.placed_caller (hv : verbs.Permitted) (h : Course verbs depth start moments m)
    (hs : start.stack.depth ≤ depth + 1) {rest : Stack} {callee f' : Frame}
    (hm : m.stack = rest.push callee) (hp : m.stack.PlacedAbove depth) (hd : depth < rest.depth)
    (hf : rest.top.Continues f') : f'.Placed := by
  have hdeep : rest.depth < m.stack.depth := by
    rw [hm, Stack.depth_push]
    omega
  have hrest : m.stack.truncate rest.depth = rest := by rw [hm, Stack.truncate_push_depth]
  obtain ⟨e, he⟩ := h.waits hv hs hd hdeep
  obtain ⟨script, hscript, htext⟩ := he.at_line hv hdeep
  rw [hrest] at hscript htext
  rw [hm] at hp
  exact hf.placed (hp.pop.top hd) hscript htext

/-- A run that starts with frames in their scripts keeps them there. -/
theorem Course.placedAbove (hv : verbs.Permitted) (hpos : 0 < depth)
    (h : Course verbs depth start moments m) (hs : start.stack.depth ≤ depth + 1)
    (hp : start.stack.PlacedAbove depth) : m.stack.PlacedAbove depth := by
  induction h with
  | start => exact hp
  | @line moments m text h hd hl ih =>
    obtain ⟨script, hscript, htext⟩ := Machine.line_of_currentLine? hl
    cases Machine.moves_step hv text m with
    | stay g hm hg =>
      rw [hm]
      exact ih.modifyTop fun hd => hg.placed (ih.top hd) hscript htext
    | enter g f hm hg hf =>
      rw [hm]
      exact .push (ih.modifyTop fun hd => hg.placed (ih.top hd) hscript htext) hf
    | leave g rest callee hr hm hg =>
      rw [hm]
      have hrest : rest.PlacedAbove depth := (hr ▸ ih).pop
      exact hrest.modifyTop fun hd => h.placed_caller hv hs hr ih hd hg
  | @off moments m h hd hl ih =>
    obtain ⟨rest, hr, hm⟩ := m.follow_ret (by omega) ""
    rw [hm]
    show (rest.modifyTop fun f => f.resume "" m.top.status).PlacedAbove depth
    have hrest : rest.PlacedAbove depth := (hr ▸ ih).pop
    have hresume := Frame.continues_resume rest.top "" m.top.status
    exact hrest.modifyTop fun hd => h.placed_caller hv hs hr ih hd hresume

end Testbench
