import Testbench.Script
import Testbench.Variables

/-!
# The call stack

Every call has a frame with variables of its own. The base frame belongs to the program itself; it
runs no script and is never removed.

* `Frame` : an activation; `Stack` : the base frame and the frames above it, the top one first.
* `Stack.push`, `pop?`, `truncate`, `modifyTop` : the changes.
* `Stack.frameAt` : a frame by its number from the base, the nearest one if there is none.
-/

namespace Testbench

/-- An activation. `line` is the index of the line in execution; the first argument is the name of
the script or label. -/
structure Frame where
  script : Option Script := none
  line : Nat := 0
  status : Int := 0
  ret : String := ""
  locals : Variables := {}
  args : List String := []
  deriving DecidableEq, Repr

namespace Frame

/-- A frame of a script. -/
def ofScript (script : Script) (line : Nat) (args : List String) : Frame :=
  { script := some script, line, args }

/-- The number of arguments without the name. -/
def argumentCount (f : Frame) : Nat := f.args.length - 1

/-- The name of the script that runs. -/
def scriptName? (f : Frame) : Option String := f.script.map Script.name

end Frame

/-- The base frame and the frames above it, the top one first. -/
structure Stack where
  base : Frame
  above : List Frame := []
  deriving DecidableEq, Repr

namespace Stack

/-- Only the base frame, with the arguments of the program. -/
def ofArgs (args : List String) : Stack := { base := { args } }

def depth (s : Stack) : Nat := s.above.length + 1

/-- Whether the stack is at most so deep; frames above that depth are not counted. -/
def isWithin (s : Stack) (depth : Nat) : Bool :=
  decide (0 < depth) && (s.above.drop (depth - 1)).isEmpty

def push (s : Stack) (f : Frame) : Stack := { s with above := f :: s.above }

/-- The top frame and the stack without it, if there is one above the base. -/
def pop? (s : Stack) : Option (Frame × Stack) :=
  match s.above with
  | [] => none
  | f :: rest => some (f, { s with above := rest })

def top (s : Stack) : Frame := s.above.headD s.base

/-- Changes the top frame. -/
def modifyTop (g : Frame → Frame) (s : Stack) : Stack :=
  match s.above with
  | [] => { s with base := g s.base }
  | f :: rest => { s with above := g f :: rest }

/-- The frames from the base up. -/
def frames (s : Stack) : List Frame := s.base :: s.above.reverse

/-- The frame with this number from the base; the nearest one if there is none. -/
def frameAt (s : Stack) (index : Int) : Frame :=
  s.frames.getD (min index.toNat s.above.length) s.base

/-- Without the frames above this depth. The base frame stays. -/
def truncate (s : Stack) (depth : Nat) : Stack :=
  { s with above := s.above.drop (s.above.length - (depth - 1)) }

theorem depth_pos (s : Stack) : 0 < s.depth := Nat.succ_pos _

theorem frames_push (s : Stack) (f : Frame) : (s.push f).frames = s.frames ++ [f] := by
  simp [frames, push]

@[simp] theorem depth_push (s : Stack) (f : Frame) : (s.push f).depth = s.depth + 1 := rfl

@[simp] theorem top_push (s : Stack) (f : Frame) : (s.push f).top = f := rfl

@[simp] theorem pop?_push (s : Stack) (f : Frame) : (s.push f).pop? = some (f, s) := rfl

theorem push_inj {s t : Stack} {f g : Frame} (h : s.push f = t.push g) : s = t ∧ f = g := by
  have hpop := congrArg pop? h
  rw [pop?_push, pop?_push] at hpop
  cases hpop
  exact ⟨rfl, rfl⟩

theorem pop?_eq_some_iff {s rest : Stack} {f : Frame} :
    s.pop? = some (f, rest) ↔ s = rest.push f := by
  obtain ⟨base, above⟩ := s
  obtain ⟨base', above'⟩ := rest
  cases above with
  | nil => simp [pop?, push]
  | cons g above =>
    simp only [pop?, push, Option.some.injEq, Prod.mk.injEq, mk.injEq, List.cons.injEq]
    constructor
    · rintro ⟨hf, hb, ha⟩
      exact ⟨hb, hf, ha⟩
    · rintro ⟨hb, hf, ha⟩
      exact ⟨hf, hb, ha⟩

theorem pop?_eq_none_iff {s : Stack} : s.pop? = none ↔ s.above = [] := by
  unfold pop?
  split <;> simp_all

@[simp] theorem modifyTop_push (g : Frame → Frame) (s : Stack) (f : Frame) :
    (s.push f).modifyTop g = s.push (g f) := rfl

theorem modifyTop_modifyTop (g h : Frame → Frame) (s : Stack) :
    (s.modifyTop h).modifyTop g = s.modifyTop fun f => g (h f) := by
  obtain ⟨base, above⟩ := s
  cases above <;> rfl

/-- A change of the top frame that leaves it as it is. -/
theorem modifyTop_eq_self {g : Frame → Frame} {s : Stack} (h : g s.top = s.top) :
    s.modifyTop g = s := by
  obtain ⟨base, above⟩ := s
  cases above <;> simp_all [modifyTop, top]

/-- Above the base there is a top frame that can be taken off. -/
theorem exists_push_of_depth {s : Stack} (h : 1 < s.depth) :
    ∃ (rest : Stack) (f : Frame), s = rest.push f := by
  obtain ⟨base, above⟩ := s
  cases above with
  | nil => simp [depth] at h
  | cons f rest => exact ⟨⟨base, rest⟩, f, rfl⟩

@[simp] theorem depth_modifyTop (g : Frame → Frame) (s : Stack) :
    (s.modifyTop g).depth = s.depth := by
  unfold modifyTop depth
  split <;> simp_all

@[simp] theorem top_modifyTop (g : Frame → Frame) (s : Stack) :
    (s.modifyTop g).top = g s.top := by
  unfold modifyTop top
  split <;> simp_all

theorem isWithin_iff (s : Stack) (depth : Nat) : s.isWithin depth = true ↔ s.depth ≤ depth := by
  simp only [isWithin, Stack.depth, Bool.and_eq_true, decide_eq_true_eq, List.isEmpty_iff,
    List.drop_eq_nil_iff]
  omega

theorem depth_truncate (s : Stack) {depth : Nat} (h : 0 < depth) :
    (s.truncate depth).depth = min s.depth depth := by
  simp only [truncate, Stack.depth, List.length_drop]
  omega

theorem truncate_depth (s : Stack) : s.truncate s.depth = s := by
  simp [truncate, Stack.depth]

theorem truncate_push (s : Stack) (f : Frame) {depth : Nat} (h : depth ≤ s.depth) :
    (s.push f).truncate depth = s.truncate depth := by
  have hlen : s.above.length + 1 - (depth - 1) = s.above.length - (depth - 1) + 1 := by
    simp only [Stack.depth] at h
    omega
  simp only [truncate, push, List.length_cons, hlen, List.drop_succ_cons]

/-- A change of the top frame is not seen below it. -/
theorem truncate_modifyTop (g : Frame → Frame) {s : Stack} {depth : Nat} (h : 0 < depth)
    (hd : depth < s.depth) : (s.modifyTop g).truncate depth = s.truncate depth := by
  obtain ⟨rest, f, rfl⟩ := exists_push_of_depth (s := s) (by omega)
  have hle : depth ≤ rest.depth := by
    rw [depth_push] at hd
    omega
  rw [modifyTop_push, truncate_push _ _ hle, truncate_push _ _ hle]

end Stack

end Testbench
