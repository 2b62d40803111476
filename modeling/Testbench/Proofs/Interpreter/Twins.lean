import Testbench.Proofs.Interpreter.Insertion

/-!
# Twins

A script and the same script with a silent line more are run from the same machine. The two runs go
through machines that are twins: they differ in the lines at which frames of the two scripts stand,
and in the line numbers of diagnostics. Nothing that a source tells depends on that, but for the
number of the line itself.

* `Insertion.Level`, `Insertion.Near` : how far two frames are.
* `Insertion.FrameTwins`, `StackTwins`, `LogTwins`, `MachineTwins` : the parts and the whole.
* `Frame.masked` : a frame without its place.
* `Insertion.MachineTwins.resolve?_eq` : what sources tell to twins.
-/

set_option autoImplicit false

namespace Testbench

/-- A frame as it is seen from elsewhere: the name of its script is known, but not its lines. -/
def Frame.masked (f : Frame) : Frame :=
  { f with script := f.scriptName?.map (⟨·, #[]⟩), line := 0 }

namespace Insertion

variable (n : Insertion)

/-! ## Frames -/

/-- The same line of the two scripts. -/
def Level (l l' : Nat) : Prop := l' = n.shift l

/-- The same line, but the second frame may still be at the new line. -/
def Near (l l' : Nat) : Prop := n.Level l l' ∨ l = n.index ∧ l' = n.index

/-- The same frame, or frames of the two scripts at lines that stand to each other so. -/
inductive FrameTwins (R : Nat → Nat → Prop) (f : Frame) : Frame → Prop
  | same (hs : f.script.isSome) : FrameTwins R f f
  | moved {line : Nat} (hs : f.script = some n.script) (hl : R f.line line) :
      FrameTwins R f { f with script := some n.result, line := line }

/-! ## Stacks -/

/-- Stacks that are the same up to a depth and hold twins above it. Only the frames on top may be
at lines that are not level. -/
inductive StackTwins (depth : Nat) : (Nat → Nat → Prop) → Stack → Stack → Prop
  | floor {R : Nat → Nat → Prop} {s : Stack} (hd : s.depth ≤ depth) : StackTwins depth R s s
  | push {R : Nat → Nat → Prop} {s s' : Stack} {f f' : Frame} (hd : depth ≤ s.depth)
      (h : StackTwins depth n.Level s s') (hf : n.FrameTwins R f f') :
      StackTwins depth R (s.push f) (s'.push f')

/-! ## Logs -/

/-- The same line, or diagnostics that differ in the number of a line behind the new one. -/
inductive LineTwins : LogLine → LogLine → Prop
  | same (l : LogLine) : LineTwins l l
  | moved {line : Nat} (h : n.index < line) (message : String) :
      LineTwins (.diagnostic (placed (some (n.script.name, line)) message))
        (.diagnostic (placed (some (n.script.name, line + 1)) message))

/-- Logs that are `start` with twins behind it, one by one. -/
inductive LogTwins (start : Array LogLine) : Array LogLine → Array LogLine → Prop
  | start : LogTwins start start start
  | push {log log' : Array LogLine} {l l' : LogLine} (h : LogTwins start log log')
      (hl : n.LineTwins l l') : LogTwins start (log.push l) (log'.push l')

/-- Places in the same script, or in the two scripts at lines behind the new one. -/
inductive PlaceTwins (place : Option (String × Nat)) : Option (String × Nat) → Prop
  | same : PlaceTwins place place
  | moved {line : Nat} (hp : place = some (n.script.name, line)) (h : n.index < line) :
      PlaceTwins place (some (n.script.name, line + 1))

/-! ## Machines -/

/-- Machines that are the same but for twin stacks and twin logs. -/
inductive MachineTwins (depth : Nat) (start : Array LogLine) (R : Nat → Nat → Prop)
    (m : Machine) : Machine → Prop
  | mk {stack : Stack} {log : Array LogLine} (hs : n.StackTwins depth R m.stack stack)
      (hl : n.LogTwins start m.log log) :
      MachineTwins depth start R m { m with stack := stack, log := log }

/-! ## What twins have in common -/

section

variable {n : Insertion} {depth : Nat} {start : Array LogLine} {R : Nat → Nat → Prop}

theorem Level.near {l l' : Nat} (h : n.Level l l') : n.Near l l' := .inl h

/-- Behind lines that are level, lines are near. -/
theorem Level.succ {l l' : Nat} (h : n.Level l l') : n.Near (l + 1) (l' + 1) := by
  unfold Level at h
  rw [h]
  exact n.shift_succ l

/-- Lines that are level have the same number, or both are behind the new line. -/
theorem Level.place {l l' : Nat} (h : n.Level l l') :
    n.PlaceTwins (some (n.script.name, l + 1)) (some (n.script.name, l' + 1)) := by
  unfold Level shift at h
  by_cases hlt : l < n.index
  · rw [if_pos hlt] at h
    rw [h]
    exact .same
  · rw [if_neg hlt] at h
    rw [h]
    exact .moved rfl (by omega)

theorem PlaceTwins.line {place place' : Option (String × Nat)} (h : n.PlaceTwins place place')
    (message : String) :
    n.LineTwins (.diagnostic (placed place message)) (.diagnostic (placed place' message)) := by
  cases h with
  | same => exact .same _
  | moved hp h =>
    rw [hp]
    exact .moved h message

namespace FrameTwins

variable {f f' : Frame}

theorem masked_eq (h : n.FrameTwins R f f') : f'.masked = f.masked := by
  cases h with
  | same => rfl
  | moved hs hl =>
    unfold Frame.masked Frame.scriptName?
    rw [hs]
    rfl

/-- A change that has nothing to do with script and line. -/
theorem map (h : n.FrameTwins R f f') {g : Frame → Frame}
    (hg : ∀ f script line,
      g { f with script := script, line := line } = { g f with script := script, line := line }) :
    n.FrameTwins R (g f) (g f') := by
  have hscript : (g f).script = f.script := by
    have hself := congrArg Frame.script (hg f f.script f.line)
    exact hself
  have hline : (g f).line = f.line := by
    have hself := congrArg Frame.line (hg f f.script f.line)
    exact hself
  cases h with
  | same hs => exact .same (by rw [hscript]; exact hs)
  | @moved line hs hl =>
    rw [hg f (some n.result) line]
    exact .moved (hscript.trans hs) (by rw [hline]; exact hl)

theorem mono {R' : Nat → Nat → Prop} (h : n.FrameTwins R f f')
    (hn : ∀ l l', R l l' → R' l l') : n.FrameTwins R' f f' := by
  cases h with
  | same hs => exact .same hs
  | moved hs hl => exact .moved hs (hn _ _ hl)

theorem isSome (h : n.FrameTwins R f f') : f.script.isSome ∧ f'.script.isSome := by
  cases h with
  | same hs => exact ⟨hs, hs⟩
  | moved hs hl => exact ⟨by rw [hs]; rfl, rfl⟩

theorem advance (h : n.FrameTwins n.Level f f') : n.FrameTwins n.Near f.advance f'.advance := by
  obtain ⟨hf, hf'⟩ := h.isSome
  unfold Frame.advance
  rw [if_pos hf, if_pos hf']
  cases h with
  | same hs => exact .same hs
  | moved hs hl => exact .moved hs hl.succ

theorem resume (h : n.FrameTwins n.Level f f') (value : String) (status : Int) :
    n.FrameTwins n.Near (f.resume value status) (f'.resume value status) := by
  have hresume : ∀ f : Frame,
      f.resume value status = { f.advance with ret := value, status := status } := by
    intro f
    unfold Frame.resume Frame.advance
    split <;> rfl
  rw [hresume, hresume]
  exact h.advance.map (g := fun f => { f with ret := value, status := status }) fun _ _ _ => rfl

end FrameTwins

namespace StackTwins

variable {s s' : Stack}

theorem depth_eq (h : n.StackTwins depth R s s') : s'.depth = s.depth := by
  induction h with
  | floor => rfl
  | push _ _ _ ih => rw [Stack.depth_push, Stack.depth_push, ih]

theorem eq_of_depth_le (h : n.StackTwins depth R s s') (hd : s.depth ≤ depth) : s' = s := by
  cases h with
  | floor => rfl
  | push hle _ _ =>
    rw [Stack.depth_push] at hd
    omega

theorem exists_push (h : n.StackTwins depth R s s') (hd : depth < s.depth) :
    ∃ r r' f f', s = r.push f ∧ s' = r'.push f' ∧ depth ≤ r.depth ∧
      n.StackTwins depth n.Level r r' ∧ n.FrameTwins R f f' := by
  cases h with
  | floor hle => omega
  | push hle h hf => exact ⟨_, _, _, _, rfl, rfl, hle, h, hf⟩

/-- Below the frames on top, twins are level. -/
theorem mono {R' : Nat → Nat → Prop} (h : n.StackTwins depth R s s')
    (hn : ∀ l l', R l l' → R' l l') : n.StackTwins depth R' s s' := by
  cases h with
  | floor hd => exact .floor hd
  | push hd h hf => exact .push hd h (hf.mono hn)

/-- Other frames on top, above the depth, that are twins. -/
theorem modifyTop_above (h : n.StackTwins depth R s s') (hd : depth < s.depth)
    {R' : Nat → Nat → Prop} {g g' : Frame → Frame} (hg : n.FrameTwins R' (g s.top) (g' s'.top)) :
    n.StackTwins depth R' (s.modifyTop g) (s'.modifyTop g') := by
  obtain ⟨r, r', f, f', rfl, rfl, hle, hr, -⟩ := h.exists_push hd
  exact .push hle hr hg

/-- The same change of both frames on top, if it takes twins to twins. -/
theorem modifyTop (h : n.StackTwins depth n.Level s s') {g : Frame → Frame}
    (hg : ∀ f f', n.FrameTwins n.Level f f' → n.FrameTwins R (g f) (g f')) :
    n.StackTwins depth R (s.modifyTop g) (s'.modifyTop g) := by
  cases h with
  | floor hd => exact .floor (by rw [Stack.depth_modifyTop]; exact hd)
  | push hd h hf => exact .push hd h (hg _ _ hf)

theorem map (h : n.StackTwins depth n.Level s s') {g : Frame → Frame}
    (hg : ∀ f script line,
      g { f with script := script, line := line } = { g f with script := script, line := line }) :
    n.StackTwins depth n.Level (s.modifyTop g) (s'.modifyTop g) :=
  h.modifyTop fun _ _ hf => hf.map hg

/-- Near twins are level, or the frame on top of the second stack is at the new line. -/
theorem settle_near (h : n.StackTwins depth n.Near s s') :
    n.StackTwins depth n.Level s s' ∨
      depth < s'.depth ∧ s'.top.script = some n.result ∧ s'.top.line = n.index ∧
        n.StackTwins depth n.Level s (s'.modifyTop Frame.advance) := by
  cases h with
  | floor hd => exact .inl (.floor hd)
  | @push _ s s' f f' hd h hf =>
    cases hf with
    | same hs => exact .inl (.push hd h (.same hs))
    | @moved line hs hl =>
      rcases hl with hl | ⟨hl, rfl⟩
      · exact .inl (.push hd h (.moved hs hl))
      · have hdepth := h.depth_eq
        have hlevel : n.Level f.line (n.index + 1) := by
          unfold Level
          rw [hl, n.shift_index]
        refine .inr ⟨?_, rfl, rfl, .push hd h (.moved hs hlevel)⟩
        rw [Stack.depth_push]
        omega

/-- Without what is above the depth, twins are the same. -/
theorem truncate_eq (h : n.StackTwins depth R s s') : s'.truncate depth = s.truncate depth := by
  induction h with
  | floor => rfl
  | push hd h _ ih =>
    have hd' := h.depth_eq
    rw [Stack.truncate_push _ _ hd, Stack.truncate_push _ _ (by omega), ih]

theorem masked_eq (h : n.StackTwins depth R s s') :
    s'.frames.map Frame.masked = s.frames.map Frame.masked := by
  induction h with
  | floor => rfl
  | push _ _ hf ih =>
    rw [Stack.frames_push, Stack.frames_push, List.map_append, List.map_append, ih]
    simp only [List.map_cons, hf.masked_eq]

/-- A frame with a number is the same for twins, but for its place. -/
theorem frameAt_masked (h : n.StackTwins depth R s s') (index : Int) :
    (s'.frameAt index).masked = (s.frameAt index).masked := by
  have hframes := h.masked_eq
  have hdepth : s'.above.length = s.above.length := Nat.succ.inj h.depth_eq
  have hmask : ∀ s : Stack, (s.frameAt index).masked =
      (s.frames.map Frame.masked).getD (min index.toNat s.above.length) s.base.masked := by
    intro s
    simp only [Stack.frameAt, List.getD_eq_getElem?_getD, List.getElem?_map, Option.getD_map]
  have hbase : s'.base.masked = s.base.masked := by
    simp only [Stack.frames, List.map_cons] at hframes
    exact (List.cons.inj hframes).1
  rw [hmask, hmask, hframes, hdepth, hbase]

/-- The frames on top are the same, or they are frames of the two scripts. -/
theorem top_cases (h : n.StackTwins depth R s s') :
    s'.top = s.top ∨ ∃ line, s.top.script = some n.script ∧ R s.top.line line ∧
      s'.top = { s.top with script := some n.result, line := line } := by
  cases h with
  | floor => exact .inl rfl
  | push _ _ hf =>
    cases hf with
    | same => exact .inl rfl
    | moved hs hl => exact .inr ⟨_, hs, hl, rfl⟩

theorem top_masked (h : n.StackTwins depth R s s') : s'.top.masked = s.top.masked := by
  cases h with
  | floor => rfl
  | push _ _ hf => exact hf.masked_eq

end StackTwins

theorem LogTwins.append {log log' : Array LogLine} (h : n.LogTwins start log log')
    (lines : List LogLine) : n.LogTwins start (log ++ lines) (log' ++ lines) := by
  induction lines generalizing log log' with
  | nil => simpa using h
  | cons l lines ih =>
    have hpush : ∀ a : Array LogLine, a ++ (l :: lines) = a.push l ++ lines := by
      intro a
      exact Array.toList_inj.mp (by simp)
    rw [hpush, hpush]
    exact ih (h.push (.same l))

namespace MachineTwins

variable {m m' : Machine}

theorem near (h : n.MachineTwins depth start n.Level m m') :
    n.MachineTwins depth start n.Near m m' := by
  cases h with
  | mk hs hl => exact .mk (hs.mono fun _ _ => Level.near) hl

theorem logged (h : n.MachineTwins depth start R m m') (lines : List LogLine) :
    n.MachineTwins depth start R (m.logged lines) (m'.logged lines) := by
  cases h with
  | mk hs hl => exact .mk hs (hl.append lines)

theorem print (h : n.MachineTwins depth start R m m') (text : String) :
    n.MachineTwins depth start R (m.print text) (m'.print text) := by
  cases h with
  | mk hs hl => exact .mk hs (hl.push (.same _))

theorem report (h : n.MachineTwins depth start R m m') {text text' : String}
    (ht : n.LineTwins (.diagnostic text) (.diagnostic text')) :
    n.MachineTwins depth start R (m.report text) (m'.report text') := by
  cases h with
  | mk hs hl => exact .mk hs (hl.push ht)

theorem modifyTop_above (h : n.MachineTwins depth start R m m') (hd : depth < m.stack.depth)
    {R' : Nat → Nat → Prop} {g g' : Frame → Frame} (hg : n.FrameTwins R' (g m.top) (g' m'.top)) :
    n.MachineTwins depth start R' (m.modifyTop g) (m'.modifyTop g') := by
  cases h with
  | mk hs hl => exact .mk (hs.modifyTop_above hd hg) hl

theorem push (h : n.MachineTwins depth start n.Level m m') (hd : depth ≤ m.stack.depth)
    {R' : Nat → Nat → Prop} {f f' : Frame} (hf : n.FrameTwins R' f f') :
    n.MachineTwins depth start R' { m with stack := m.stack.push f }
      { m' with stack := m'.stack.push f' } := by
  cases h with
  | mk hs hl => exact .mk (.push hd hs hf) hl

theorem top_isSome (h : n.MachineTwins depth start R m m') (hd : depth < m.stack.depth) :
    m.top.script.isSome := by
  cases h with
  | mk hs hl =>
    obtain ⟨r, r', f, f', hr, -, -, -, hf⟩ := hs.exists_push hd
    unfold Machine.top
    rw [hr]
    exact hf.isSome.1

theorem modifyTop (h : n.MachineTwins depth start n.Level m m') {g : Frame → Frame}
    (hg : ∀ f f', n.FrameTwins n.Level f f' → n.FrameTwins R (g f) (g f')) :
    n.MachineTwins depth start R (m.modifyTop g) (m'.modifyTop g) := by
  cases h with
  | mk hs hl => exact .mk (hs.modifyTop hg) hl

theorem advance (h : n.MachineTwins depth start n.Level m m') :
    n.MachineTwins depth start n.Near m.advance m'.advance :=
  h.modifyTop fun _ _ hf => hf.advance

theorem depth_eq (h : n.MachineTwins depth start R m m') : m'.stack.depth = m.stack.depth := by
  cases h with
  | mk hs hl => exact hs.depth_eq

theorem top_cases (h : n.MachineTwins depth start R m m') :
    m'.top = m.top ∨ ∃ line, m.top.script = some n.script ∧ R m.top.line line ∧
      m'.top = { m.top with script := some n.result, line := line } := by
  cases h with
  | mk hs hl => exact hs.top_cases

theorem top_masked (h : n.MachineTwins depth start R m m') : m'.top.masked = m.top.masked := by
  cases h with
  | mk hs hl => exact hs.top_masked

/-! ## What sources tell -/

theorem scene_eq (h : n.MachineTwins depth start R m m') : m'.scene = m.scene := by
  have hmasked := congrArg Frame.locals h.top_masked
  have hlocals : m'.top.locals = m.top.locals := hmasked
  unfold Machine.scene
  rw [hlocals]
  cases h
  rfl

theorem frameOf_masked (h : n.MachineTwins depth start R m m') (number : String) :
    (m'.frameOf number).masked = (m.frameOf number).masked := by
  cases h with
  | mk hs hl =>
    unfold Machine.frameOf
    cases Integer.read? number with
    | none => exact hs.top_masked
    | some index => exact hs.frameAt_masked index

theorem frameArgument?_eq (h : n.MachineTwins depth start R m m') (argument : String) :
    m'.frameArgument? argument = m.frameArgument? argument := by
  have hmask : ∀ (f : Frame) (which : String),
      Machine.argument? f which = Machine.argument? f.masked which := fun _ _ => rfl
  unfold Machine.frameArgument?
  cases Text.cutString? ':' argument with
  | none =>
    simp only
    rw [hmask, h.top_masked, ← hmask]
  | some cut =>
    simp only
    rw [hmask, h.frameOf_masked, ← hmask]

theorem of_scene {α : Type} (h : n.MachineTwins depth start R m m') {g : Machine → α}
    (hg : ∀ m, g m = g m.scene.machine) : g m' = g m := by
  rw [hg, h.scene_eq, ← hg]

theorem of_frame {α : Type} (h : n.MachineTwins depth start R m m') (number : String)
    {g : Frame → α} (hg : ∀ f, g f = g f.masked) :
    g (m'.frameOf number) = g (m.frameOf number) := by
  rw [hg, h.frameOf_masked, ← hg]

theorem scriptName?_eq (h : n.MachineTwins depth start R m m') :
    m'.top.scriptName? = m.top.scriptName? := by
  have hmask : ∀ f : Frame, f.masked.scriptName? = f.scriptName? := by
    intro f
    unfold Frame.masked Frame.scriptName?
    cases f.script <;> rfl
  have hname := congrArg Frame.scriptName? h.top_masked
  rw [hmask, hmask] at hname
  exact hname

/-- Of the sources that every machine has, only the number of the line tells twins apart. -/
theorem builtin?_eq (h : n.MachineTwins depth start R m m') {source : String}
    (hs : source ≠ "line") (argument : String) :
    m'.builtin? source argument = m.builtin? source argument := by
  have harg := h.frameArgument?_eq argument
  have hargs := h.of_frame argument (g := fun f => f.args) fun _ => rfl
  have hret := h.of_frame argument (g := fun f => f.ret) fun _ => rfl
  have hstatus := h.of_frame argument (g := fun f => f.status) fun _ => rfl
  have hget := h.of_scene (g := fun m => m.value? argument) fun _ => rfl
  have hgeti := h.of_scene (g := fun m => m.tokenOf? argument) fun _ => rfl
  have hsize := h.of_scene (g := fun m => m.sizeOf? argument) fun _ => rfl
  have hdefined := h.of_scene (g := fun m => m.lookup? argument) fun _ => rfl
  have hjson := h.of_scene (g := fun m => m.jsonText? argument) fun _ => rfl
  have hkey := h.of_scene (g := fun m => m.jsonKey? argument) fun _ => rfl
  have hscript := h.scriptName?_eq
  have hdepth := h.depth_eq
  obtain ⟨htime, hboard, hworld, htally⟩ : m'.calendar = m.calendar ∧ m'.board = m.board ∧
      m'.world = m.world ∧ m'.tally = m.tally := by
    cases h
    exact ⟨rfl, rfl, rfl, rfl⟩
  unfold Machine.builtin?
  simp only [harg, hargs, hret, hstatus, hget, hgeti, hsize, hdefined, hjson, hkey, hdepth, hscript,
    htime, hboard, hworld, htally]
  split
  all_goals first | rfl | exact absurd rfl hs

theorem resolve?_eq (h : n.MachineTwins depth start R m m') {source : String}
    (hs : Text.asciiLower source ≠ "line") (argument : String) :
    m'.resolve? source argument = m.resolve? source argument := by
  have hbuiltin := h.builtin?_eq hs argument
  simp only [Machine.resolve?, hbuiltin]
  cases h
  rfl

end MachineTwins

end

end Insertion

end Testbench
