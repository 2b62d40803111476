import Testbench.Proofs.Interpreter.Actions

/-!
# What verbs may change

A handler is given the whole machine, but the verbs of the program itself keep to a small part of
it: of the stack they touch the local variables of the top frame only, and they complain only in
words of their own, with the place of the command in front.

* `Stack.EditedTo` : a stack with other local variables in its top frame.
* `Turn.Effect` : what a verb of the program itself may leave of a turn.
* `Action.effect`, `Handler.Own.effect` : every action does so, and thus every such verb.
* `VerbTable.Own`, `VerbTable.Permitted` : tables of such verbs, and tables that may also have verbs
  of the host that leave the stack alone.
-/

set_option autoImplicit false

namespace Testbench

/-! ## Local variables of the top frame -/

namespace Stack

/-- The stack `s'` is `s` but for the local variables of the top frame. -/
def EditedTo (s s' : Stack) : Prop :=
  ∃ locals, s' = s.modifyTop fun f => { f with locals := locals }

theorem EditedTo.refl (s : Stack) : s.EditedTo s :=
  ⟨s.top.locals, (modifyTop_eq_self rfl).symm⟩

end Stack

/-! ## One verb -/

/-- What a verb of the program itself may leave of the turn `t`: local variables of the top frame
are changed and lines are logged, the diagnostics among them being complaints made at the place of
the command. It returns only as `return` does, with the other tokens as the value. Globals, events,
tally and exit code are free. -/
structure Turn.Effect (tokens : List String) (t t' : Turn) : Prop where
  stack : t.machine.stack.EditedTo t'.machine.stack
  log : ∃ lines, t'.machine.log.toList = t.machine.log.toList ++ lines ∧
    ∀ text, LogLine.diagnostic text ∈ lines → ∃ e : VerbError, e.IsOwn ∧ text = t.located e.message
  flow : t'.flow = t.flow ∨ (∀ value, t'.flow ≠ .ret value) ∨ t' = Verb.ret tokens t

/-- Every action keeps to its part of the turn. -/
theorem Action.effect (a : Action) (tokens : List String) (t : Turn) :
    t.Effect tokens (a.perform tokens t) := by
  have hquiet : ∀ m : Machine, m.log.toList = m.log.toList ++ [] := fun _ =>
    (List.append_nil _).symm
  cases a with
  | refuse e h =>
    refine ⟨.refl _, ⟨[.diagnostic (t.located e.message)],
      by simp [perform, Turn.fail, Machine.report], ?_⟩, .inl rfl⟩
    intro text htext
    simp only [List.mem_singleton, LogLine.diagnostic.injEq] at htext
    exact ⟨e, h, htext⟩
  | print lines =>
    simp only [perform, Machine.foldl_print]
    exact ⟨.refl _, ⟨lines.map .printed, Machine.log_logged .., by simp⟩, .inl rfl⟩
  | edit scene status ret => exact ⟨⟨scene.locals, rfl⟩, ⟨[], hquiet _, by simp⟩, .inl rfl⟩
  | judge held verdict =>
    exact ⟨.refl _, ⟨[.printed verdict], by simp [perform, Machine.print], by simp⟩, .inl rfl⟩
  | go flow h => exact ⟨.refl _, ⟨[], hquiet _, by simp⟩, .inr (.inl h)⟩
  | giveBack => exact ⟨.refl _, ⟨[], hquiet _, by simp⟩, .inr (.inr rfl)⟩
  | halt code => exact ⟨.refl _, ⟨[], hquiet _, by simp⟩, .inl rfl⟩

/-! ## Tables of verbs -/

theorem Handler.Own.effect {h : Handler} (ho : h.Own) (tokens : List String) (t : Turn) :
    t.Effect tokens (h tokens t) := by
  obtain ⟨a, -, ha⟩ := ho.acts tokens t.view
  rw [ha t rfl]
  exact a.effect tokens t

/-- Of the stack, the handler changes at most the local variables of the top frame. -/
def Handler.EditsLocals (h : Handler) : Prop :=
  ∀ (tokens : List String) (t : Turn), t.machine.stack.EditedTo (h tokens t).machine.stack

/-- The handlers that a program can have: those of the program itself, and those of the host that
do not touch the stack, apart from local variables that they set. -/
def Handler.Permitted (h : Handler) : Prop := h.Own ∨ h.EditsLocals

theorem Handler.Permitted.editsLocals {h : Handler} (hp : h.Permitted) : h.EditsLocals := by
  intro tokens t
  rcases hp with ho | he
  · exact (ho.effect tokens t).stack
  · exact he tokens t

namespace VerbTable

/-- All handlers are those of the program itself. -/
def Own (verbs : VerbTable) : Prop := ∀ v ∈ verbs.verbs, v.handler.Own

/-- All handlers are permitted. -/
def Permitted (verbs : VerbTable) : Prop := ∀ v ∈ verbs.verbs, v.handler.Permitted

variable {verbs : VerbTable}

theorem Own.permitted (ho : verbs.Own) : verbs.Permitted := fun v hv => .inl (ho v hv)

theorem Permitted.register (hp : verbs.Permitted) (names : List String) {h : Handler}
    (hh : h.Permitted) : (verbs.register names h).Permitted := by
  intro v hv
  rcases List.mem_append.mp hv with hv | hv
  · exact hp v hv
  · rw [List.mem_singleton.mp hv]
    exact hh

theorem Permitted.registerFront (hp : verbs.Permitted) (names : List String) {h : Handler}
    (hh : h.Permitted) : (verbs.registerFront names h).Permitted := by
  intro v hv
  rcases List.mem_cons.mp hv with rfl | hv
  · exact hh
  · exact hp v hv

theorem Permitted.of_find? (hp : verbs.Permitted) {name : String} {h : Handler}
    (hf : verbs.find? name = some h) : h.Permitted := by
  obtain ⟨v, hv, rfl⟩ := Option.map_eq_some_iff.mp hf
  exact hp v (List.mem_of_find?_eq_some hv)

end VerbTable

namespace Interpreter

/-- The verbs before the host adds verbs of its own. -/
theorem verbs_ofMachine (m : Machine) :
    (ofMachine m).verbs.verbs =
      Verb.core.map fun verb => ⟨verb.1.map Text.asciiLower, verb.2⟩ := by
  have hfold : ∀ (verbs : List (List String × Handler)) (i : Interpreter),
      (verbs.foldl (fun i verb => i.register verb.1 verb.2) i).verbs.verbs =
        i.verbs.verbs ++ verbs.map fun verb => ⟨verb.1.map Text.asciiLower, verb.2⟩ := by
    intro verbs
    induction verbs with
    | nil => exact fun i => (List.append_nil _).symm
    | cons verb verbs ih =>
      intro i
      rw [List.foldl_cons, ih, List.map_cons]
      exact List.append_assoc ..
  exact hfold Verb.core _

/-- An interpreter has only the core verbs before the host adds verbs of its own. -/
theorem own_ofMachine (m : Machine) : (ofMachine m).verbs.Own := by
  intro v hv
  rw [verbs_ofMachine] at hv
  obtain ⟨verb, hverb, rfl⟩ := List.mem_map.mp hv
  exact .core hverb

theorem permitted_ofMachine (m : Machine) : (ofMachine m).verbs.Permitted :=
  (own_ofMachine m).permitted

theorem stack_ofMachine (m : Machine) : (ofMachine m).machine.stack = m.stack := by
  have hfold : ∀ (verbs : List (List String × Handler)) (i : Interpreter),
      (verbs.foldl (fun i verb => i.register verb.1 verb.2) i).machine.stack =
        i.machine.stack := by
    intro verbs
    induction verbs with
    | nil => exact fun _ => rfl
    | cons verb verbs ih => exact fun i => ih (i.register verb.1 verb.2)
  exact hfold Verb.core _

end Interpreter

end Testbench
