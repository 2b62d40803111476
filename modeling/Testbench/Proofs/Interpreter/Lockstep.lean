import Testbench.Proofs.Interpreter.Twins

/-!
# Twins in step

Twins that are level stand at the same line. If they carry it out and no placeholder of it asks for
the number of the line, they are twins again, and near: the second one may have arrived in front of
the new line, which takes it one more step.

* `Machine.Asks` : a placeholder of a line asks a source for a value.
* `Insertion.MachineTwins.prepare` : twins make the same tokens of a line.
* `Insertion.TurnTwins`, `Handler.Own.twins` : verbs carry twin turns on alike.
* `Insertion.MachineTwins.command`, `follow`, `step` : both halves of a step, and a step.
* `Insertion.MachineTwins.settle_near` : twins that are near are level, or will be after one line.
-/

set_option autoImplicit false

namespace Testbench

/-! ## What a line asks -/

/-- The event is a query of the source of this name, in any case. -/
def Placeholder.Event.isFor (name : String) : Event → Bool
  | query q => Text.asciiLower q.source == name
  | report _ => false

namespace Machine

/-- What is logged of the events of an expansion. -/
def limitLines (events : List Placeholder.Event) : List LogLine :=
  events.filterMap fun
    | .query _ => none
    | .report limit => some (.diagnostic limit.message)

theorem limitLines_query (events : List Placeholder.Event) (q : Placeholder.Query) :
    limitLines (events ++ [.query q]) = limitLines events := by simp [limitLines]

theorem limitLines_report (events : List Placeholder.Event) (limit : Placeholder.Limit) :
    limitLines (events ++ [.report limit]) =
      limitLines events ++ [.diagnostic limit.message] := by simp [limitLines]

/-- Tokens expanded in view of a machine, and the events of the expansion. -/
def heard (m : Machine) (tokens : List String) : List String × List Placeholder.Event :=
  Placeholder.expandAll (Placeholder.recorder m.resolve?) tokens []

/-- When the line is carried out, a placeholder asks the source of this name for a value. -/
def Asks (name line : String) (m : Machine) : Prop :=
  isBlank line = false ∧ ∃ e ∈ (m.heard (Line.tokenize line)).2, e.isFor name

instance (name line : String) (m : Machine) : Decidable (m.Asks name line) :=
  inferInstanceAs (Decidable (isBlank line = false ∧
    ∃ e ∈ (m.heard (Line.tokenize line)).2, e.isFor name = true))

/-- Expansion makes the tokens that were heard, and logs its bounds. -/
theorem expandAll_host (tokens : List String) (m : Machine) :
    Placeholder.expandAll host tokens m =
      ((m.heard tokens).1, m.logged (limitLines (m.heard tokens).2)) := by
  have hextends : (Placeholder.recorder m.resolve?).Extends
      (fun events => m.logged (limitLines events)) host := by
    constructor
    · intro source argument events
      simp only [Placeholder.recorder, Prod.map_apply, limitLines_query]
      rfl
    · intro limit events
      simp only [Placeholder.recorder, limitLines_report]
      exact (m.report_logged _ _).symm
  have hall := hextends.expandAll tokens []
  have hstart : m.logged (limitLines []) = m := m.logged_nil
  rw [hstart] at hall
  exact hall.symm

end Machine

namespace Insertion

variable {n : Insertion} {depth : Nat} {start : Array LogLine} {R : Nat → Nat → Prop}

namespace MachineTwins

variable {m m' : Machine}

theorem heard_eq (h : n.MachineTwins depth start R m m') {line : String}
    (hb : Machine.isBlank line = false) (hq : ¬ m.Asks "line" line) :
    m'.heard (Line.tokenize line) = m.heard (Line.tokenize line) := by
  apply Placeholder.expandAll_recorder
  rintro ⟨q, hmem, hne⟩
  by_cases hline : Text.asciiLower q.source = "line"
  · exact hq ⟨hb, .query q, hmem, beq_iff_eq.mpr hline⟩
  · exact hne (h.resolve?_eq hline q.argument)

theorem trace (h : n.MachineTwins depth start R m m') (tokens : List String) :
    n.MachineTwins depth start R (m.trace tokens) (m'.trace tokens) := by
  have hecho : m'.echo = m.echo := by
    cases h
    rfl
  unfold Machine.trace
  rw [hecho]
  by_cases he : m.echo = true
  · rw [if_pos he, if_pos he]
    exact h.print _
  · rw [if_neg he, if_neg he]
    exact h

/-- If no placeholder asks for the number of the line, twins make the same tokens of it. -/
theorem prepare (h : n.MachineTwins depth start R m m') {line : String}
    (hb : Machine.isBlank line = false) (hq : ¬ m.Asks "line" line) :
    (m'.prepare line).1 = (m.prepare line).1 ∧
      n.MachineTwins depth start R (m.prepare line).2 (m'.prepare line).2 := by
  unfold Machine.prepare
  rw [Machine.expandAll_host, Machine.expandAll_host, h.heard_eq hb hq]
  exact ⟨rfl, (h.logged _).trace _⟩

theorem place (h : n.MachineTwins depth start n.Level m m') :
    n.PlaceTwins m.turn.place m'.turn.place := by
  unfold Machine.turn
  rcases h.top_cases with htop | ⟨line, hscript, hl, htop⟩
  · simp only [htop]
    exact .same
  · simp only [htop, hscript, Option.map_some]
    exact hl.place

end MachineTwins

/-! ## Turns -/

variable (n depth start) in
/-- Turns that are the same but for twin machines and twin places. -/
inductive TurnTwins (t : Turn) : Turn → Prop
  | mk {machine : Machine} {place : Option (String × Nat)}
      (hm : n.MachineTwins depth start n.Level t.machine machine)
      (hp : n.PlaceTwins t.place place) :
      TurnTwins t { t with machine := machine, place := place }

theorem MachineTwins.turn {m m' : Machine} (h : n.MachineTwins depth start n.Level m m') :
    n.TurnTwins depth start m.turn m'.turn := by
  have hstatus := congrArg Frame.status h.top_masked
  have hret := congrArg Frame.ret h.top_masked
  have hturn : m'.turn = { m.turn with machine := m', place := m'.turn.place } := by
    have hs : m'.top.status = m.top.status := hstatus
    have hr : m'.top.ret = m.top.ret := hret
    simp only [Machine.turn, hs, hr]
  rw [hturn]
  exact .mk h h.place

namespace TurnTwins

variable {t t' : Turn}

theorem view_eq (h : n.TurnTwins depth start t t') : t'.view = t.view := by
  cases h with
  | @mk machine place hm hp =>
    have hscene := hm.scene_eq
    have hnames : machine.verbNames = t.machine.verbNames := by
      cases hm
      rfl
    unfold Turn.view
    simp only [hscene, hnames]

theorem fail (h : n.TurnTwins depth start t t') (e : VerbError) :
    n.TurnTwins depth start (t.fail e) (t'.fail e) := by
  cases h with
  | mk hm hp => exact .mk (hm.report (hp.line e.message)) hp

/-- Every action carries twin turns on alike. -/
theorem perform (h : n.TurnTwins depth start t t') (a : Action) (tokens : List String) :
    n.TurnTwins depth start (a.perform tokens t) (a.perform tokens t') := by
  cases a with
  | refuse e _ => exact h.fail e
  | print lines =>
    cases h with
    | mk hm hp =>
      simp only [Action.perform, Machine.foldl_print]
      exact .mk (hm.logged _) hp
  | edit scene status ret =>
    cases h with
    | mk hm hp =>
      cases hm with
      | mk hs hl =>
        have hedited := hs.map (g := fun f => { f with locals := scene.locals })
          fun _ _ _ => rfl
        exact .mk (.mk hedited hl) hp
  | judge held verdict =>
    cases h with
    | mk hm hp =>
      cases hm with
      | mk hs hl => exact .mk (.mk hs (hl.push (.same _))) hp
  | go flow hf =>
    cases h with
    | mk hm hp => exact .mk hm hp
  | giveBack =>
    cases h with
    | mk hm hp => exact .mk hm hp
  | halt code =>
    cases h with
    | mk hm hp =>
      cases hm with
      | mk hs hl => exact .mk (.mk hs hl) hp

theorem settle (h : n.TurnTwins depth start t t') :
    n.MachineTwins depth start n.Level (Machine.settle t) (Machine.settle t') := by
  cases h with
  | mk hm hp =>
    cases hm with
    | mk hs hl =>
      have hsettled := hs.map (g := fun f => { f with status := t.status, ret := t.ret })
        fun _ _ _ => rfl
      exact .mk hsettled hl

/-- The verbs of the program itself carry twin turns on alike. -/
theorem carry (ht : n.TurnTwins depth start t t') {h : Handler} (ho : h.Own)
    (tokens : List String) : n.TurnTwins depth start (h tokens t) (h tokens t') := by
  obtain ⟨a, -, ha⟩ := ho.acts tokens t.view
  rw [ha t rfl, ha t' ht.view_eq]
  exact ht.perform a tokens

theorem dispatch (ht : n.TurnTwins depth start t t') {verbs : VerbTable} (hv : verbs.Own)
    (tokens : List String) :
    n.TurnTwins depth start (Machine.dispatch verbs tokens t)
      (Machine.dispatch verbs tokens t') := by
  unfold Machine.dispatch
  simp only
  cases hf : verbs.find? (tokens.headD "") with
  | some handler =>
    simp only
    obtain ⟨v, hmem, rfl⟩ := Option.map_eq_some_iff.mp hf
    exact ht.carry (hv v (List.mem_of_find?_eq_some hmem)) tokens
  | none =>
    cases ht with
    | mk hm hp => exact .mk (hm.report (hp.line _)) hp

end TurnTwins

/-! ## Both halves of a step -/

namespace MachineTwins

variable {verbs : VerbTable} {m m' : Machine}

/-- Twins that are level carry a line out alike. -/
theorem command (h : n.MachineTwins depth start n.Level m m')
    (hv : verbs.Own) {line : String} (hq : ¬ m.Asks "line" line) :
    (m'.command verbs line).2 = (m.command verbs line).2 ∧
      n.MachineTwins depth start n.Level (m.command verbs line).1 (m'.command verbs line).1 := by
  cases hb : Machine.isBlank line with
  | true =>
    rw [Machine.command_of_blank hb, Machine.command_of_blank hb]
    exact ⟨rfl, h⟩
  | false =>
    obtain ⟨htokens, hprepared⟩ := h.prepare hb hq
    have hturn := hprepared.turn.dispatch hv (m.prepare line).1
    rw [Machine.command_of_not_blank hb, Machine.command_of_not_blank hb, htokens]
    refine ⟨?_, hturn.settle⟩
    generalize Machine.dispatch verbs (m.prepare line).1 (m.prepare line).2.turn = t at hturn ⊢
    generalize Machine.dispatch verbs (m.prepare line).1 (m'.prepare line).2.turn = t' at hturn ⊢
    cases hturn
    rfl

/-- A jump that cannot be made. -/
theorem refused (h : n.MachineTwins depth start n.Level m m') {e e' : RunError}
    (he : n.LineTwins (.diagnostic e.message) (.diagnostic e'.message)) :
    n.MachineTwins depth start n.Near (m.complain e).advance (m'.complain e').advance :=
  (h.report he).advance

/-- Twins find a label in the same place, or where its line went, or neither finds it. -/
theorem target_cases (h : n.MachineTwins depth start n.Level m m') (jump label : String) :
    (m'.top = m.top ∧ m'.target jump label = m.target jump label) ∨
    (∃ l line, m.top.script = some n.script ∧
      m'.top = { m.top with script := some n.result, line := line } ∧
      m.target jump label = .ok (n.script, l + 1) ∧
      m'.target jump label = .ok (n.result, n.shift l + 1)) ∨
    ∃ e e', m.target jump label = .error e ∧ m'.target jump label = .error e' ∧
      n.LineTwins (.diagnostic e.message) (.diagnostic e'.message) := by
  unfold Machine.target
  rcases h.top_cases with htop | ⟨line, hscript, hl, htop⟩
  · exact .inl ⟨htop, by rw [htop]⟩
  · refine .inr ?_
    simp only [htop, hscript, n.findLabel?_result]
    cases n.script.findLabel? label with
    | some l => exact .inl ⟨l, line, trivial, rfl, rfl, rfl⟩
    | none =>
      refine .inr ⟨_, _, rfl, rfl, ?_⟩
      rw [RunError.noSuchLabel_placed, RunError.noSuchLabel_placed]
      exact hl.place.line _

theorem jump (h : n.MachineTwins depth start n.Level m m') (hd : depth < m.stack.depth)
    (label : String) :
    n.MachineTwins depth start n.Near (m.jump (m.target "goto" label))
      (m'.jump (m'.target "goto" label)) := by
  rcases h.target_cases "goto" label with ⟨htop, ht⟩ | ⟨l, line, hs, htop, ht, ht'⟩ |
    ⟨e, e', ht, ht', he⟩
  · rw [ht]
    cases m.target "goto" label with
    | error e => exact h.refused (.same _)
    | ok place =>
      refine h.modifyTop_above hd ?_
      rw [htop]
      exact .same (h.top_isSome hd)
  · rw [ht, ht']
    refine h.modifyTop_above hd ?_
    rw [htop]
    exact .moved hs (n.shift_succ l)
  · rw [ht, ht']
    exact h.refused he

theorem enter (h : n.MachineTwins depth start n.Level m m') (hd : depth < m.stack.depth)
    (name : String) (args : List String) (place : Except RunError (Script × Nat)) :
    n.MachineTwins depth start n.Near (m.enter name args place) (m'.enter name args place) := by
  cases place with
  | error e => exact h.refused (.same _)
  | ok place => exact h.push (Nat.le_of_lt hd) (.same rfl)

theorem call (h : n.MachineTwins depth start n.Level m m') (hd : depth < m.stack.depth)
    (label : String) (args : List String) :
    n.MachineTwins depth start n.Near (m.enter label args (m.target "call" label))
      (m'.enter label args (m'.target "call" label)) := by
  rcases h.target_cases "call" label with ⟨-, ht⟩ | ⟨l, line, -, -, ht, ht'⟩ |
    ⟨e, e', ht, ht', he⟩
  · rw [ht]
    exact h.enter hd label args _
  · rw [ht, ht']
    exact h.push (Nat.le_of_lt hd) (.moved rfl (n.shift_succ l))
  · rw [ht, ht']
    exact h.refused he

/-- What is left by twins are twins, and the callers that get the value are near behind that. -/
theorem leave (h : n.MachineTwins depth start n.Level m m') (hd : depth < m.stack.depth)
    (value : String) : n.MachineTwins depth start n.Near (m.leave value) (m'.leave value) := by
  cases h with
  | @mk stack log hs hl =>
    obtain ⟨r, r', f, f', hr, hr', -, hrest, hf⟩ := hs.exists_push hd
    have hstatus : f'.status = f.status := by
      have hmasked := congrArg Frame.status hf.masked_eq
      exact hmasked
    rw [Machine.leave_push hr, Machine.leave_push (m := { m with stack := stack, log := log }) hr',
      hstatus]
    exact .mk (hrest.modifyTop fun _ _ hframe => hframe.resume value f.status) hl

/-- Twins that are level follow a flow alike, and are near behind it. -/
theorem follow (h : n.MachineTwins depth start n.Level m m') (hd : depth < m.stack.depth)
    (flow : Flow) : n.MachineTwins depth start n.Near (m.follow flow) (m'.follow flow) := by
  cases flow with
  | next => exact h.advance
  | goto label => exact h.jump hd label
  | call label args => exact h.call hd label args
  | run name args =>
    have hload : m'.load name = m.load name := by
      cases h
      rfl
    simp only [Machine.follow, hload]
    exact h.enter hd name args _
  | ret value => exact h.leave hd value

/-- Twins that are level carry out a line with the same answer, and are near behind it. -/
theorem step (h : n.MachineTwins depth start n.Level m m')
    (hv : verbs.Own) (hd : depth < m.stack.depth) {line : String}
    (hq : ¬ m.Asks "line" line) :
    (m'.step verbs line).1 = (m.step verbs line).1 ∧
      n.MachineTwins depth start n.Near (m.step verbs line).2 (m'.step verbs line).2 := by
  obtain ⟨hsame, htwins⟩ := h.command hv hq
  have hdepth := (Machine.workedTo_command hv.permitted line m).depth_eq
  cases hh : (m.command verbs line).2.2 with
  | true =>
    rw [Machine.step_of_halted hh, Machine.step_of_halted (by rw [hsame]; exact hh)]
    exact ⟨rfl, htwins.near⟩
  | false =>
    rw [Machine.step_of_going hh, Machine.step_of_going (by rw [hsame]; exact hh), hsame]
    exact ⟨rfl, htwins.follow (by rw [hdepth]; exact hd) _⟩

/-- Twins that are level stand at the same line. -/
theorem currentLine?_eq (h : n.MachineTwins depth start n.Level m m') :
    m'.currentLine? = m.currentLine? := by
  unfold Machine.currentLine?
  rcases h.top_cases with htop | ⟨line, hscript, hl, htop⟩
  · rw [htop]
  · unfold Level at hl
    rw [htop, hscript, hl]
    exact congrArg some (n.getElem?_shift _)

/-- Twins that are near are level, or the second one is at the new line and level behind it. -/
theorem settle_near (h : n.MachineTwins depth start n.Near m m') :
    n.MachineTwins depth start n.Level m m' ∨
      depth < m'.stack.depth ∧ m'.currentLine? = some (some n.line) ∧
        n.MachineTwins depth start n.Level m m'.advance := by
  cases h with
  | @mk stack log hs hl =>
    rcases hs.settle_near with hlevel | ⟨hd, hscript, hline, hlevel⟩
    · exact .inl (.mk hlevel hl)
    · refine .inr ⟨hd, ?_, .mk hlevel hl⟩
      unfold Machine.currentLine? Machine.top
      rw [hscript, hline]
      exact congrArg some n.getElem?_index

end MachineTwins

end Insertion

end Testbench
