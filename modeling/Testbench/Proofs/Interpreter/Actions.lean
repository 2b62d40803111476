import Testbench.Loopback

/-!
# What verbs do

A verb of the program itself reads little of its turn: the local variables of the top frame, the
board, the names of the verbs, status and return value. By these and by its tokens it decides on
one action, and that action is all that it does. So whatever holds of the few actions holds of
every such verb, and turns that look alike to a verb are carried on alike.

* `Machine.logged` : a machine with more in its log.
* `Scene`, `Machine.edited` : the local variables and the board, and a machine with others.
* `Turn.View` : what a verb reads of a turn.
* `VerbError.IsOwn` : the complaints of the program itself.
* `Action`, `Action.perform` : what verbs can do, and the turn that comes of it.
* `Action.Quiet` : all but what counts an expectation or ends the program.
* `Handler.ActsBy`, `Handler.Acts` : a handler that decides on an action by the view alone.
* `Handler.Own`, `Handler.Own.acts` : the handlers of the program itself, which all do so.
-/

set_option autoImplicit false

namespace Testbench

/-! ## The log -/

namespace Machine

/-- The machine with more lines in its log. -/
def logged (m : Machine) (lines : List LogLine) : Machine := { m with log := m.log ++ lines }

theorem logged_nil (m : Machine) : m.logged [] = m := by simp [logged]

theorem logged_logged (m : Machine) (lines more : List LogLine) :
    (m.logged lines).logged more = m.logged (lines ++ more) := by
  simp only [logged]
  congr 1
  exact Array.toList_inj.mp (by simp)

theorem report_logged (m : Machine) (lines : List LogLine) (text : String) :
    (m.logged lines).report text = m.logged (lines ++ [.diagnostic text]) := by
  simp only [logged, report]
  congr 1
  exact Array.toList_inj.mp (by simp)

theorem print_logged (m : Machine) (lines : List LogLine) (text : String) :
    (m.logged lines).print text = m.logged (lines ++ [.printed text]) := by
  simp only [logged, print]
  congr 1
  exact Array.toList_inj.mp (by simp)

@[simp] theorem log_logged (m : Machine) (lines : List LogLine) :
    (m.logged lines).log.toList = m.log.toList ++ lines := by simp [logged]

theorem foldl_print (lines : List String) (m : Machine) :
    lines.foldl print m = m.logged (lines.map .printed) := by
  induction lines generalizing m with
  | nil => exact m.logged_nil.symm
  | cons line lines ih =>
    have hfirst : m.print line = m.logged [.printed line] := by
      have hp := m.print_logged [] line
      rw [logged_nil] at hp
      exact hp
    rw [List.foldl_cons, ih, hfirst, logged_logged]
    rfl

end Machine

/-! ## Variables and board -/

/-- What the verbs of the program itself edit. -/
structure Scene where
  locals : Variables
  board : Board
  deriving DecidableEq

/-- A machine with this scene and nothing else. -/
def Scene.machine (s : Scene) : Machine :=
  { stack := { base := { locals := s.locals } }, board := s.board }

namespace Machine

def scene (m : Machine) : Scene := ⟨m.top.locals, m.board⟩

/-- The machine with another scene. -/
def edited (m : Machine) (s : Scene) : Machine :=
  { m with
    stack := m.stack.modifyTop fun f => { f with locals := s.locals }
    board := s.board }

theorem edited_scene (m : Machine) : m.edited m.scene = m := by
  obtain ⟨⟨base, above⟩⟩ := m
  cases above <;> rfl

theorem setLocal_eq (m : Machine) (name value : String) :
    m.setLocal name value = m.edited (m.scene.machine.setLocal name value).scene := by
  obtain ⟨⟨base, above⟩⟩ := m
  cases above <;> rfl

theorem setGlobal_eq (m : Machine) (name value : String) :
    m.setGlobal name value = m.edited (m.scene.machine.setGlobal name value).scene := by
  obtain ⟨⟨base, above⟩⟩ := m
  cases above <;> rfl

/-- Setting a variable edits the scene, and in view of the scene only. -/
theorem setVariable_eq (m : Machine) (scope : Scope) (name value : String) :
    m.setVariable scope name value =
      m.edited (m.scene.machine.setVariable scope name value).scene := by
  cases scope with
  | locals => exact m.setLocal_eq name value
  | globals => exact m.setGlobal_eq name value
  | auto =>
    have hlocal : m.scene.machine.top.locals = m.top.locals := rfl
    have hglobal : m.scene.machine.board = m.board := rfl
    simp only [setVariable, hlocal, hglobal]
    by_cases hl : m.top.locals.contains name = true
    · simp only [if_pos hl]
      exact m.setLocal_eq name value
    · simp only [if_neg hl]
      by_cases hg : m.board.globals.contains name = true
      · simp only [if_pos hg]
        exact m.setGlobal_eq name value
      · simp only [if_neg hg]
        exact m.setLocal_eq name value

theorem unsetVariable?_eq (m : Machine) (name : String) :
    m.unsetVariable? name =
      (m.scene.machine.unsetVariable? name).map fun m' => m.edited m'.scene := by
  have hlocal : m.scene.machine.top.locals = m.top.locals := rfl
  have hglobal : m.scene.machine.board = m.board := rfl
  simp only [unsetVariable?, hlocal, hglobal]
  by_cases hl : m.top.locals.contains name = true
  · simp only [if_pos hl, Option.map_some]
    obtain ⟨⟨base, above⟩⟩ := m
    cases above <;> rfl
  · simp only [if_neg hl]
    by_cases hg : m.board.globals.contains name = true
    · simp only [if_pos hg, Option.map_some]
      obtain ⟨⟨base, above⟩⟩ := m
      cases above <;> rfl
    · simp only [if_neg hg, Option.map_none]

theorem setSize?_eq (m : Machine) (name : String) (size : Nat) :
    m.setSize? name size =
      (m.scene.machine.setSize? name size).map fun m' => m.edited m'.scene := by
  have hlocal : m.scene.machine.top.locals = m.top.locals := rfl
  have hglobal : m.scene.machine.board = m.board := rfl
  simp only [setSize?, hlocal, hglobal]
  cases m.top.locals.setSize? name size with
  | some locals => rfl
  | none =>
    simp only [Option.map_map, Function.comp_def]
    obtain ⟨⟨base, above⟩⟩ := m
    cases above <;> rfl

end Machine

/-! ## Actions -/

/-- The complaint is one that the program itself can make: those about a condition or a document
tell the verb that has one, and the complaints of the host's own verbs are left out. -/
def VerbError.IsOwn : VerbError → Prop
  | condition verb _ => verb = "if" ∨ verb = "expect"
  | badJson verb _ _ => verb = "jsondump" ∨ verb = "jsonxml"
  | other _ => False
  | _ => True

/-- What a verb of the program itself reads of a turn. -/
structure Turn.View where
  scene : Scene
  verbNames : List String
  status : Int
  ret : String

def Turn.view (t : Turn) : Turn.View := ⟨t.machine.scene, t.machine.verbNames, t.status, t.ret⟩

/-- What a verb of the program itself can do. -/
inductive Action where
  /-- It complains. -/
  | refuse (e : VerbError) (h : e.IsOwn)
  | print (lines : List String)
  /-- It leaves another scene, status and return value. -/
  | edit (scene : Scene) (status : Int) (ret : String)
  /-- It counts an expectation and tells how that came out. -/
  | judge (held : Bool) (verdict : String)
  /-- Execution goes on elsewhere, but not in the caller. -/
  | go (flow : Flow) (h : ∀ value, flow ≠ .ret value)
  /-- Execution goes on in the caller, which gets the other tokens. -/
  | giveBack
  | halt (code : Int)

/-- The turn that comes of an action, given all tokens of the command. -/
def Action.perform (tokens : List String) (a : Action) (t : Turn) : Turn :=
  match a with
  | refuse e _ => t.fail e
  | print lines => { t with machine := lines.foldl Machine.print t.machine }
  | edit scene status ret =>
    { t with machine := t.machine.edited scene, status := status, ret := ret }
  | judge held verdict =>
    let m := { t.machine with tally := t.machine.tally.record held }
    { t with machine := m.print verdict, status := if held then 0 else 1 }
  | go flow _ => { t with flow := flow }
  | giveBack => Verb.ret tokens t
  | halt code => Verb.halt code t

/-- With the local variables that there are, an edit changes the board. -/
theorem Action.perform_board (tokens : List String) (t : Turn) (board : Board) (status : Int)
    (ret : String) :
    (Action.edit ⟨t.view.scene.locals, board⟩ status ret).perform tokens t =
      { t with machine := { t.machine with board := board }, status := status, ret := ret } := by
  have hm : t.machine.edited ⟨t.view.scene.locals, board⟩ = { t.machine with board := board } :=
    Machine.edited_scene { t.machine with board := board }
  simp only [perform, hm]

/-- Neither is an expectation counted nor does the program end. -/
def Action.Quiet : Action → Prop
  | judge _ _ => False
  | halt _ => False
  | _ => True

/-- The handler decides on one of these actions by its tokens and by what it reads of the turn. -/
def Handler.ActsBy (allowed : Action → Prop) (h : Handler) : Prop :=
  ∀ (tokens : List String) (v : Turn.View), ∃ a : Action, allowed a ∧
    ∀ t : Turn, t.view = v → h tokens t = a.perform tokens t

/-- The handler decides on any action. -/
abbrev Handler.Acts (h : Handler) : Prop := h.ActsBy fun _ => True

theorem Handler.ActsBy.acts {allowed : Action → Prop} {h : Handler} (ha : h.ActsBy allowed) :
    h.Acts := by
  intro tokens v
  obtain ⟨a, -, hperform⟩ := ha tokens v
  exact ⟨a, trivial, hperform⟩

namespace Verb

theorem acts_echo : Handler.ActsBy Action.Quiet echo :=
  fun tokens _ => ⟨.print [words tokens 1], trivial, fun _ _ => rfl⟩

theorem acts_assign (scope : Scope) : Handler.ActsBy Action.Quiet (assign scope) := by
  intro tokens v
  unfold assign
  cases tokens[1]? with
  | none => exact ⟨.refuse (.usage _) trivial, trivial, fun _ _ => rfl⟩
  | some name =>
    refine ⟨.edit (v.scene.machine.setVariable scope name (words tokens 2)).scene v.status v.ret,
      trivial, ?_⟩
    rintro t rfl
    simp only [Action.perform, t.machine.setVariable_eq]
    rfl

theorem acts_unset : Handler.ActsBy Action.Quiet unset := by
  intro tokens v
  unfold unset
  cases tokens[1]? with
  | none => exact ⟨.refuse (.usage _) trivial, trivial, fun _ _ => rfl⟩
  | some name =>
    cases hu : v.scene.machine.unsetVariable? name with
    | none =>
      refine ⟨.edit v.scene 1 v.ret, trivial, ?_⟩
      rintro t rfl
      have hm : t.machine.unsetVariable? name = none := by
        rw [t.machine.unsetVariable?_eq]
        exact congrArg (Option.map _) hu
      have hself : t.machine.edited t.view.scene = t.machine := t.machine.edited_scene
      simp only [hm, Action.perform, hself]
      rfl
    | some m' =>
      refine ⟨.edit m'.scene 0 v.ret, trivial, ?_⟩
      rintro t rfl
      have hm : t.machine.unsetVariable? name = some (t.machine.edited m'.scene) := by
        rw [t.machine.unsetVariable?_eq]
        exact congrArg (Option.map _) hu
      simp only [hm, Action.perform]
      rfl

theorem acts_setSize : Handler.ActsBy Action.Quiet setSize := by
  intro tokens v
  unfold setSize
  cases tokens[1]? with
  | none => exact ⟨.refuse (.usage _) trivial, trivial, fun _ _ => rfl⟩
  | some name =>
    cases tokens[2]?.bind Integer.read? with
    | none => exact ⟨.refuse (.usage _) trivial, trivial, fun _ _ => rfl⟩
    | some size =>
      by_cases hn : size < 0
      · exact ⟨.refuse (.negativeSize _) trivial, trivial, fun t _ => if_pos hn⟩
      · simp only [if_neg hn]
        cases hs : v.scene.machine.setSize? name size.toNat with
        | none =>
          refine ⟨.refuse (.sizeOfNothing name) trivial, trivial, ?_⟩
          rintro t rfl
          have hm : t.machine.setSize? name size.toNat = none := by
            rw [t.machine.setSize?_eq]
            exact congrArg (Option.map _) hs
          simp only [hm, Action.perform]
        | some m' =>
          refine ⟨.edit m'.scene 0 v.ret, trivial, ?_⟩
          rintro t rfl
          have hm : t.machine.setSize? name size.toNat = some (t.machine.edited m'.scene) := by
            rw [t.machine.setSize?_eq]
            exact congrArg (Option.map _) hs
          simp only [hm, Action.perform]
          rfl

theorem acts_listVariables : Handler.ActsBy Action.Quiet listVariables := by
  intro tokens v
  refine ⟨.print (v.scene.locals.entries.map (listing "local") ++
    v.scene.board.globals.entries.map (listing "global")), trivial, ?_⟩
  rintro t rfl
  rfl

theorem acts_goto : Handler.ActsBy Action.Quiet goto := by
  intro tokens v
  unfold goto
  cases tokens[1]? with
  | none => exact ⟨.refuse (.usage _) trivial, trivial, fun _ _ => rfl⟩
  | some label => exact ⟨.go (.goto label) (by simp), trivial, fun _ _ => rfl⟩

theorem acts_call : Handler.ActsBy Action.Quiet call := by
  intro tokens v
  unfold call
  cases tokens[1]? with
  | none => exact ⟨.refuse (.usage _) trivial, trivial, fun _ _ => rfl⟩
  | some label => exact ⟨.go (.call label (tokens.drop 2)) (by simp), trivial, fun _ _ => rfl⟩

theorem acts_run : Handler.ActsBy Action.Quiet run := by
  intro tokens v
  unfold run
  cases tokens[1]? with
  | none => exact ⟨.refuse (.usage _) trivial, trivial, fun _ _ => rfl⟩
  | some script => exact ⟨.go (.run script (tokens.drop 2)) (by simp), trivial, fun _ _ => rfl⟩

theorem acts_ret : Handler.ActsBy Action.Quiet ret :=
  fun _ _ => ⟨.giveBack, trivial, fun _ _ => rfl⟩

theorem acts_branch : Handler.ActsBy Action.Quiet branch := by
  intro tokens v
  simp only [branch]
  split
  · exact ⟨.refuse .noJump trivial, trivial, fun _ _ => rfl⟩
  · exact ⟨.refuse (.noLabel _) trivial, trivial, fun _ _ => rfl⟩
  · rename_i jump label args _
    cases Condition.eval ((tokens.drop 1).takeWhile fun token => !isJump token) with
    | error e => exact ⟨.refuse (.condition _ e) (.inl rfl), trivial, fun _ _ => rfl⟩
    | ok held =>
      cases held with
      | false => exact ⟨.print [], trivial, fun _ _ => rfl⟩
      | true =>
        have hflow : ∀ value, (if Text.sameAscii jump "goto" then Flow.goto label
            else .call label args) ≠ .ret value := by
          intro value
          split <;> simp
        exact ⟨.go _ hflow, trivial, fun _ _ => rfl⟩

theorem acts_exit : Handler.Acts exit := by
  intro tokens v
  unfold exit
  cases tokens[1]? with
  | none => exact ⟨.halt 0, trivial, fun _ _ => rfl⟩
  | some text =>
    simp only
    cases (Integer.read? text).filter Integer.isExitCode with
    | none => exact ⟨.refuse (.badExitCode _) trivial, trivial, fun _ _ => rfl⟩
    | some code => exact ⟨.halt code, trivial, fun _ _ => rfl⟩

theorem acts_setStatus : Handler.ActsBy Action.Quiet setStatus := by
  intro tokens v
  unfold setStatus
  cases tokens[1]?.bind Integer.read? with
  | none => exact ⟨.refuse (.usage _) trivial, trivial, fun _ _ => rfl⟩
  | some status =>
    refine ⟨.edit v.scene status v.ret, trivial, ?_⟩
    rintro t rfl
    have hself : t.machine.edited t.view.scene = t.machine := t.machine.edited_scene
    simp only [Action.perform, hself]
    rfl

theorem acts_expect : Handler.Acts expect := by
  intro tokens v
  unfold expect
  split
  · rename_i lhs op rhs message
    simp only
    cases Condition.eval [lhs, op, rhs] with
    | error e => exact ⟨.refuse (.condition _ e) (.inr rfl), trivial, fun _ _ => rfl⟩
    | ok held => exact ⟨.judge held _, trivial, fun _ _ => rfl⟩
  · exact ⟨.refuse (.usage _) trivial, trivial, fun _ _ => rfl⟩

/-- The status of a `wait` that came to this outcome. -/
def waitStatus : Outcome → Int
  | .events _ => 0
  | .timeout => 1

theorem acts_wait : Handler.ActsBy Action.Quiet wait := by
  intro tokens v
  unfold wait
  cases tokens[1]?.bind Integer.readSize? with
  | none => exact ⟨.refuse (.usage _) trivial, trivial, fun _ _ => rfl⟩
  | some limit =>
    let outcome := (v.scene.board.wait limit (waitMode tokens[2]?)).1
    let board := (v.scene.board.wait limit (waitMode tokens[2]?)).2
    refine ⟨.edit ⟨v.scene.locals, board⟩ (waitStatus outcome) outcome.text, trivial, ?_⟩
    rintro t rfl
    exact (Action.perform_board ..).symm

theorem acts_sleep : Handler.ActsBy Action.Quiet sleep := by
  intro tokens v
  unfold sleep
  cases tokens[1]?.bind Integer.readSize? with
  | none => exact ⟨.refuse (.usage _) trivial, trivial, fun _ _ => rfl⟩
  | some ms =>
    refine ⟨.edit ⟨v.scene.locals, v.scene.board.pass ms⟩ v.status v.ret, trivial, ?_⟩
    rintro t rfl
    exact (Action.perform_board ..).symm

theorem acts_reset : Handler.ActsBy Action.Quiet reset := by
  intro tokens v
  refine ⟨.edit ⟨v.scene.locals, v.scene.board.reset⟩ v.status v.ret, trivial, ?_⟩
  rintro t rfl
  exact (Action.perform_board ..).symm

/-- An error of two steps is one of the first or of the second. -/
theorem error_of_bind {ε α β : Type} {x : Except ε α} {f : α → Except ε β} {e : ε}
    (h : x >>= f = .error e) : x = .error e ∨ ∃ a, x = .ok a ∧ f a = .error e := by
  cases x with
  | error e' =>
    cases h
    exact .inl rfl
  | ok a => exact .inr ⟨a, rfl, h⟩

theorem isOwn_readOverrides {e : VerbError} {texts : List String} :
    ∀ {o : Json.Overrides}, readOverrides o texts = .error e → e.IsOwn := by
  induction texts with
  | nil =>
    intro o h
    cases h
  | cons text rest ih =>
    intro o h
    rw [readOverrides] at h
    split at h
    · exact ih h
    · cases h
      trivial

theorem isOwn_document {verb name : String} (hverb : verb = "jsondump" ∨ verb = "jsonxml")
    {m : Machine} {e : VerbError} (h : document verb m name = .error e) : e.IsOwn := by
  unfold document at h
  split at h
  · cases h
    trivial
  · rename_i text _
    cases hp : Json.Document.parse .relaxed text with
    | ok d =>
      rw [hp] at h
      cases h
    | error error =>
      rw [hp] at h
      cases h
      exact hverb

theorem acts_store (out : String) (text : Turn.View → Except VerbError String)
    (hown : ∀ v e, text v = .error e → e.IsOwn) :
    Handler.ActsBy Action.Quiet fun _ t => store out (text t.view) t := by
  intro tokens v
  cases ht : text v with
  | error e =>
    refine ⟨.refuse e (hown v e ht), trivial, ?_⟩
    rintro t rfl
    simp only [ht]
    rfl
  | ok value =>
    refine ⟨.edit (v.scene.machine.setVariable .auto out value).scene 0 v.ret, trivial, ?_⟩
    rintro t rfl
    simp only [ht, store, Action.perform, t.machine.setVariable_eq]
    rfl

theorem acts_jsonDump : Handler.ActsBy Action.Quiet jsonDump := by
  intro tokens v
  unfold jsonDump
  split
  · rename_i out name overrides
    -- the source is looked up in the scene, which is all that the look-up reads of the machine
    refine acts_store out (fun v => do
      let o ← readOverrides {} overrides
      let d ← document "jsondump" v.scene.machine name
      return d.dump o) ?_ _ v
    intro v e he
    rcases error_of_bind he with ho | ⟨o, -, he⟩
    · exact isOwn_readOverrides ho
    · rcases error_of_bind he with hd | ⟨d, -, he⟩
      · exact isOwn_document (.inl rfl) hd
      · cases he
  · exact ⟨.refuse (.usage _) trivial, trivial, fun _ _ => rfl⟩

theorem acts_jsonXml : Handler.ActsBy Action.Quiet jsonXml := by
  intro tokens v
  unfold jsonXml
  split
  · rename_i out name tag
    refine acts_store out (fun v => do
      let d ← document "jsonxml" v.scene.machine name
      return d.toXml tag.head?) ?_ _ v
    intro v e he
    rcases error_of_bind he with hd | ⟨d, -, he⟩
    · exact isOwn_document (.inr rfl) hd
    · cases he
  · exact ⟨.refuse (.usage _) trivial, trivial, fun _ _ => rfl⟩

theorem acts_help : Handler.ActsBy Action.Quiet help := by
  intro tokens v
  refine ⟨.print [" ".intercalate v.verbNames], trivial, ?_⟩
  rintro t rfl
  rfl

theorem acts_core {verb : List String × Handler} (h : verb ∈ core) : verb.2.Acts := by
  simp only [core, List.mem_cons, List.not_mem_nil, or_false] at h
  rcases h with rfl | rfl | rfl | rfl | rfl | rfl | rfl | rfl | rfl | rfl | rfl | rfl | rfl | rfl |
    rfl | rfl | rfl | rfl | rfl | rfl | rfl
  · exact acts_echo.acts
  · exact (acts_assign .auto).acts
  · exact (acts_assign .locals).acts
  · exact (acts_assign .globals).acts
  · exact acts_unset.acts
  · exact acts_setSize.acts
  · exact acts_listVariables.acts
  · exact acts_goto.acts
  · exact acts_call.acts
  · exact acts_run.acts
  · exact acts_ret.acts
  · exact acts_branch.acts
  · exact acts_exit
  · exact acts_setStatus.acts
  · exact acts_expect
  · exact acts_wait.acts
  · exact acts_sleep.acts
  · exact acts_reset.acts
  · exact acts_jsonDump.acts
  · exact acts_jsonXml.acts
  · exact acts_help.acts

end Verb

namespace Loopback

theorem acts_notify : Handler.ActsBy Action.Quiet notify := by
  intro tokens v
  unfold notify
  split
  · rename_i event delay
    split
    · refine ⟨.edit ⟨v.scene.locals, v.scene.board.schedule 0 event⟩ 0 v.ret, trivial, ?_⟩
      rintro t rfl
      exact (Action.perform_board ..).symm
    · rename_i text _
      cases Integer.readSize? text with
      | none => exact ⟨.refuse (.badDelay _) trivial, trivial, fun _ _ => rfl⟩
      | some ms =>
        refine ⟨.edit ⟨v.scene.locals, v.scene.board.schedule ms event⟩ 0 v.ret, trivial, ?_⟩
        rintro t rfl
        exact (Action.perform_board ..).symm
  · exact ⟨.refuse (.usage _) trivial, trivial, fun _ _ => rfl⟩

theorem acts_post : Handler.ActsBy Action.Quiet post := by
  intro tokens v
  let board := (tokens.drop 1).foldl Board.post v.scene.board
  refine ⟨.edit ⟨v.scene.locals, board⟩ v.status v.ret, trivial, ?_⟩
  rintro t rfl
  exact (Action.perform_board ..).symm

end Loopback

/-- The handlers of the program itself. -/
inductive Handler.Own : Handler → Prop
  | core {verb : List String × Handler} : verb ∈ Verb.core → Own verb.2
  | notify : Own Loopback.notify
  | post : Own Loopback.post

theorem Handler.Own.acts {h : Handler} (ho : h.Own) : h.Acts := by
  cases ho with
  | core hv => exact Verb.acts_core hv
  | notify => exact Loopback.acts_notify.acts
  | post => exact Loopback.acts_post.acts

end Testbench
