import Testbench.Proofs.Interpreter.Step

/-!
# The course of a run

A run is a row of rounds. In a round the top frame carries out the line that it is at, or it
returns because it is at the end of its script. The lines that are carried out are kept as moments,
so that theorems can say what happened on the way to a machine.

* `Moment` : a line that is carried out, with the machine at that moment.
* `Course` : the rounds of a run that goes down to a depth.
* `Machine.moments` : the lines that a run carries out.
* `Machine.runTo_iff` : a run answers exactly what its course comes to.
* `Request`, `Interpreter.serve`, `Interpreter.Serves` : what a host asks for, and the course of it.
* `Interpreter.serve_iff` : the answers to a host are what such courses come to.
-/

set_option autoImplicit false

namespace Testbench

/-- A line that is carried out, and the machine that carries it out. -/
structure Moment where
  machine : Machine
  line : String

/-- The line calls a handler, which asks for the end of the program. -/
def Moment.AsksEnd (verbs : VerbTable) (e : Moment) : Prop :=
  ∃ c, e.machine.call? verbs e.line = some c ∧ c.result.halted = true

theorem Moment.asksEnd_iff {verbs : VerbTable} {e : Moment} :
    e.AsksEnd verbs ↔ (e.machine.step verbs e.line).1 = true := by
  unfold AsksEnd
  rw [Machine.fst_step]
  rcases Machine.command_cases verbs e.line e.machine with ⟨hn, lines, -, hc⟩ | ⟨c, hcall, hc⟩
  · simp [hn, hc]
  · simp [hcall, hc]

/-- The rounds of a run from `start` that goes on while the stack is deeper than `depth`: the lines
that are carried out, and the machine that they lead to. That a command asks for the end does not
stop a course; it is left to `Ending` to say where a run stops. -/
inductive Course (verbs : VerbTable) (depth : Nat) (start : Machine) : List Moment → Machine → Prop
  | start : Course verbs depth start [] start
  | line {moments : List Moment} {m : Machine} (text : String)
      (h : Course verbs depth start moments m) (hd : depth < m.stack.depth)
      (hl : m.currentLine? = some (some text)) :
      Course verbs depth start (moments ++ [⟨m, text⟩]) (m.step verbs text).2
  | off {moments : List Moment} {m : Machine} (h : Course verbs depth start moments m)
      (hd : depth < m.stack.depth) (hl : m.currentLine? = some none) :
      Course verbs depth start moments (m.follow (.ret ""))

namespace Course

variable {verbs : VerbTable} {depth : Nat} {start m m' : Machine} {first moments : List Moment}

theorem trans (h : Course verbs depth start first m) (h' : Course verbs depth m moments m') :
    Course verbs depth start (first ++ moments) m' := by
  induction h' with
  | start =>
    rw [List.append_nil]
    exact h
  | line text _ hd hl ih =>
    rw [← List.append_assoc]
    exact .line text ih hd hl
  | off _ hd hl ih => exact .off ih hd hl

/-- A course parts at each of its moments. -/
theorem split (h : Course verbs depth start moments m) {before after : List Moment} {e : Moment}
    (hm : moments = before ++ e :: after) :
    Course verbs depth start before e.machine ∧ depth < e.machine.stack.depth ∧
      e.machine.currentLine? = some (some e.line) ∧
      Course verbs depth (e.machine.step verbs e.line).2 after m := by
  induction h generalizing after with
  | start => simp at hm
  | line text h hd hl ih =>
    rcases List.eq_nil_or_concat after with rfl | ⟨after, last, rfl⟩
    · obtain ⟨rfl, he⟩ := List.append_inj' hm rfl
      cases he
      exact ⟨h, hd, hl, .start⟩
    · rw [List.concat_eq_append] at hm ⊢
      rw [← List.cons_append, ← List.append_assoc] at hm
      obtain ⟨hinit, hlast⟩ := List.append_inj' hm rfl
      cases hlast
      obtain ⟨hb, hdb, hlb, ha⟩ := ih hinit
      exact ⟨hb, hdb, hlb, .line text ha hd hl⟩
  | off _ hd hl ih =>
    obtain ⟨hb, hdb, hlb, ha⟩ := ih hm
    exact ⟨hb, hdb, hlb, .off ha hd hl⟩

theorem single (text : String) (hd : depth < m.stack.depth)
    (hl : m.currentLine? = some (some text)) :
    Course verbs depth m [⟨m, text⟩] (m.step verbs text).2 :=
  .line text .start hd hl

end Course

/-- How a run ends: it answers `false` where the stack is no deeper than `depth` or no script runs,
and `true` right after the first command that asks for the end, with the frames above `depth` taken
away. -/
inductive Ending (verbs : VerbTable) (depth : Nat) (moments : List Moment) (last : Machine) :
    Bool → Machine → Prop
  | finished (hq : ∀ e ∈ moments, ¬ e.AsksEnd verbs)
      (hd : last.stack.depth ≤ depth ∨ last.currentLine? = none) :
      Ending verbs depth moments last false last
  | halted {before : List Moment} {e : Moment} (hm : moments = before ++ [e])
      (hl : last = (e.machine.step verbs e.line).2) (hq : ∀ e' ∈ before, ¬ e'.AsksEnd verbs)
      (he : e.AsksEnd verbs) : Ending verbs depth moments last true (last.truncate depth)

theorem Ending.cons {verbs : VerbTable} {depth : Nat} {moments : List Moment} {last after : Machine}
    {answer : Bool} (h : Ending verbs depth moments last answer after) {e : Moment}
    (he : ¬ e.AsksEnd verbs) : Ending verbs depth (e :: moments) last answer after := by
  have hcons : ∀ l : List Moment, (∀ e' ∈ l, ¬ e'.AsksEnd verbs) →
      ∀ e' ∈ e :: l, ¬ e'.AsksEnd verbs := by
    intro l hl e' he'
    rcases List.mem_cons.mp he' with rfl | he'
    · exact he
    · exact hl e' he'
  cases h with
  | finished hq hd => exact .finished (hcons _ hq) hd
  | halted hm hl hq hend => exact .halted (by rw [hm]; rfl) hl (hcons _ hq) hend

theorem Ending.of_cons {verbs : VerbTable} {depth : Nat} {moments : List Moment}
    {last after : Machine} {answer : Bool} {e : Moment}
    (h : Ending verbs depth (e :: moments) last answer after) (he : ¬ e.AsksEnd verbs) :
    Ending verbs depth moments last answer after := by
  cases h with
  | finished hq hd => exact .finished (fun e' he' => hq e' (List.mem_cons_of_mem _ he')) hd
  | @halted before e' hm hl hq hend =>
    cases before with
    | nil =>
      cases hm
      exact absurd hend he
    | cons first before =>
      obtain ⟨rfl, hrest⟩ := List.cons.inj hm
      exact .halted hrest hl (fun e'' he' => hq e'' (List.mem_cons_of_mem _ he')) hend

theorem Ending.of_asks {verbs : VerbTable} {depth : Nat} {moments : List Moment}
    {last after : Machine} {answer : Bool} {e : Moment}
    (h : Ending verbs depth (e :: moments) last answer after) (he : e.AsksEnd verbs) :
    moments = [] ∧ last = (e.machine.step verbs e.line).2 ∧ answer = true ∧
      after = last.truncate depth := by
  cases h with
  | finished hq hd => exact absurd he (hq e (List.mem_cons_self ..))
  | @halted before e' hm hl hq hend =>
    cases before with
    | nil =>
      cases hm
      exact ⟨rfl, hl, rfl, rfl⟩
    | cons first before =>
      obtain ⟨rfl, -⟩ := List.cons.inj hm
      exact absurd he (hq e (List.mem_cons_self ..))

/-- Nothing is carried out after a line that asks for the end. -/
theorem Ending.later_eq_nil {verbs : VerbTable} {depth : Nat} {moments before later : List Moment}
    {last after : Machine} {answer : Bool} {e : Moment}
    (h : Ending verbs depth moments last answer after) (hm : moments = before ++ e :: later)
    (he : e.AsksEnd verbs) : later = [] := by
  cases h with
  | finished hq _ => exact absurd he (hq e (by simp [hm]))
  | halted hm' _ hq _ =>
    rcases List.eq_nil_or_concat later with rfl | ⟨between, e', rfl⟩
    · rfl
    · rw [hm, List.concat_eq_append, ← List.cons_append, ← List.append_assoc] at hm'
      obtain ⟨rfl, -⟩ := List.append_inj' hm' rfl
      exact absurd he (hq e (by simp))

theorem Ending.answer_iff {verbs : VerbTable} {depth : Nat} {moments : List Moment}
    {last after : Machine} {answer : Bool} (h : Ending verbs depth moments last answer after) :
    answer = true ↔ ∃ e ∈ moments, e.AsksEnd verbs := by
  cases h with
  | finished hq _ =>
    constructor
    · intro h
      cases h
    · rintro ⟨e, he, hend⟩
      exact absurd hend (hq e he)
  | halted hm _ _ hend => exact ⟨fun _ => ⟨_, by simp [hm], hend⟩, fun _ => rfl⟩

/-- The first of the lines that ask for the end. -/
theorem Moment.exists_first {verbs : VerbTable} {moments : List Moment}
    (h : ∃ e ∈ moments, e.AsksEnd verbs) :
    ∃ before e later, moments = before ++ e :: later ∧ e.AsksEnd verbs ∧
      ∀ e' ∈ before, ¬ e'.AsksEnd verbs := by
  simp only [asksEnd_iff] at h ⊢
  cases hf : moments.find? fun e => (e.machine.step verbs e.line).1 with
  | none =>
    obtain ⟨e, he, hend⟩ := h
    exact absurd hend (List.find?_eq_none.mp hf e he)
  | some e =>
    obtain ⟨hend, before, later, hm, hq⟩ := List.find?_eq_some_iff_append.mp hf
    refine ⟨before, e, later, hm, hend, fun e' he' => ?_⟩
    have hquiet := hq e' he'
    rw [Bool.not_eq_true'] at hquiet
    rw [hquiet]
    exact Bool.false_ne_true

namespace Machine

variable {verbs : VerbTable} {depth : Nat}

/-! ## Runs with fuel -/

theorem runTo_of_within {m : Machine} (h : m.stack.depth ≤ depth) (fuel : Nat) :
    m.runTo verbs depth (fuel + 1) = some (false, m) := by
  rw [runTo_succ, if_pos ((Stack.isWithin_iff _ _).mpr h)]

theorem not_isWithin {m : Machine} (h : depth < m.stack.depth) :
    ¬ m.stack.isWithin depth = true := by
  rw [Stack.isWithin_iff]
  omega

theorem runTo_of_deeper {m : Machine} (h : depth < m.stack.depth) (fuel : Nat) :
    m.runTo verbs depth (fuel + 1) =
      match m.currentLine? with
      | none => some (false, m)
      | some none => runTo verbs depth fuel (m.follow (.ret ""))
      | some (some line) =>
        match m.step verbs line with
        | (true, m) => some (true, m.truncate depth)
        | (false, m) => runTo verbs depth fuel m :=
  (runTo_succ ..).trans (if_neg (not_isWithin h))

/-- The lines that at most `fuel` rounds of a run carry out. -/
def moments (verbs : VerbTable) (depth : Nat) : (fuel : Nat) → Machine → List Moment
  | 0, _ => []
  | fuel + 1, m =>
    if m.stack.isWithin depth then []
    else match m.currentLine? with
      | none => []
      | some none => moments verbs depth fuel (m.follow (.ret ""))
      | some (some line) =>
        ⟨m, line⟩ :: match m.step verbs line with
          | (true, _) => []
          | (false, m) => moments verbs depth fuel m

theorem moments_of_within {m : Machine} (h : m.stack.depth ≤ depth) (fuel : Nat) :
    m.moments verbs depth (fuel + 1) = [] :=
  if_pos ((Stack.isWithin_iff _ _).mpr h)

theorem moments_of_deeper {m : Machine} (h : depth < m.stack.depth) (fuel : Nat) :
    m.moments verbs depth (fuel + 1) =
      match m.currentLine? with
      | none => []
      | some none => moments verbs depth fuel (m.follow (.ret ""))
      | some (some line) =>
        ⟨m, line⟩ :: match m.step verbs line with
          | (true, _) => []
          | (false, m) => moments verbs depth fuel m :=
  if_neg (not_isWithin h)

/-- The lines that a run carries out make a course, which comes to the answer of the run. -/
theorem course_of_runTo {fuel : Nat} {m after : Machine} {answer : Bool}
    (h : m.runTo verbs depth fuel = some (answer, after)) :
    ∃ last, Course verbs depth m (m.moments verbs depth fuel) last ∧
      Ending verbs depth (m.moments verbs depth fuel) last answer after := by
  induction fuel generalizing m with
  | zero => cases h
  | succ fuel ih =>
    by_cases hd : m.stack.depth ≤ depth
    · rw [runTo_of_within hd] at h
      rw [moments_of_within hd]
      cases h
      exact ⟨_, .start, .finished (by simp) (.inl hd)⟩
    · rw [Nat.not_le] at hd
      rw [runTo_of_deeper hd] at h
      rw [moments_of_deeper hd]
      cases hl : m.currentLine? with
      | none =>
        simp only [hl] at h ⊢
        cases h
        exact ⟨_, .start, .finished (by simp) (.inr hl)⟩
      | some text =>
        cases text with
        | none =>
          simp only [hl] at h ⊢
          obtain ⟨last, hc, he⟩ := ih h
          exact ⟨last, (Course.off .start hd hl).trans hc, he⟩
        | some line =>
          have hone : Course verbs depth m [⟨m, line⟩] (m.step verbs line).2 := .single line hd hl
          rcases hs : m.step verbs line with ⟨halted, m'⟩
          simp only [hl, hs] at h ⊢
          rw [hs] at hone
          cases halted with
          | true =>
            cases h
            have hend : Moment.AsksEnd verbs ⟨m, line⟩ := Moment.asksEnd_iff.mpr (by rw [hs])
            exact ⟨_, hone, .halted (List.nil_append _).symm (by rw [hs]) (by simp) hend⟩
          | false =>
            obtain ⟨last, hc, he⟩ := ih h
            refine ⟨last, hone.trans hc, he.cons ?_⟩
            rw [Moment.asksEnd_iff, hs]
            exact Bool.false_ne_true

/-- As long as no command asks for the end, a run takes the rounds of the course. -/
theorem runTo_of_course {start m : Machine} {moments : List Moment}
    (h : Course verbs depth start moments m) (hq : ∀ e ∈ moments, ¬ e.AsksEnd verbs) :
    ∃ rounds, ∀ fuel, start.runTo verbs depth (fuel + rounds) = m.runTo verbs depth fuel := by
  induction h with
  | start => exact ⟨0, fun _ => rfl⟩
  | @line moments m text _ hd hl ih =>
    obtain ⟨rounds, hr⟩ := ih fun e he => hq e (List.mem_append_left _ he)
    have hgo := hq ⟨m, text⟩ (List.mem_append_right _ (List.mem_singleton.mpr rfl))
    rw [Moment.asksEnd_iff, Bool.not_eq_true] at hgo
    refine ⟨rounds + 1, fun fuel => ?_⟩
    rw [← Nat.add_assoc, Nat.add_right_comm, hr, runTo_of_deeper hd]
    rcases hs : m.step verbs text with ⟨halted, m'⟩
    rw [hs] at hgo
    subst hgo
    simp only [hl, hs]
  | off _ hd hl ih =>
    obtain ⟨rounds, hr⟩ := ih hq
    refine ⟨rounds + 1, fun fuel => ?_⟩
    rw [← Nat.add_assoc, Nat.add_right_comm, hr, runTo_of_deeper hd]
    simp only [hl]

/-- **A run is its course.** With enough fuel, a run answers what its course comes to, and nothing
else. -/
theorem runTo_iff {m after : Machine} {answer : Bool} :
    (∃ fuel, m.runTo verbs depth fuel = some (answer, after)) ↔
      ∃ moments last, Course verbs depth m moments last ∧
        Ending verbs depth moments last answer after := by
  constructor
  · rintro ⟨fuel, h⟩
    exact ⟨_, course_of_runTo h⟩
  · rintro ⟨moments, last, hc, he⟩
    cases he with
    | finished hq hd =>
      obtain ⟨rounds, hr⟩ := runTo_of_course hc hq
      refine ⟨1 + rounds, (hr 1).trans ?_⟩
      by_cases hle : after.stack.depth ≤ depth
      · exact runTo_of_within hle 0
      · rw [runTo_of_deeper (Nat.lt_of_not_le hle), hd.resolve_left hle]
    | @halted before e hm hl hq hend =>
      obtain ⟨hbefore, hd, hline, -⟩ := hc.split hm
      obtain ⟨rounds, hr⟩ := runTo_of_course hbefore hq
      rw [Moment.asksEnd_iff] at hend
      refine ⟨1 + rounds, (hr 1).trans ?_⟩
      rcases hs : e.machine.step verbs e.line with ⟨halted, m'⟩
      rw [hs] at hend hl
      subst hend hl
      rw [runTo_of_deeper hd]
      simp only [hline, hs]

end Machine

/-! ## Requests -/

/-- What a host asks an interpreter for. -/
inductive Request where
  | line (text : String)
  | script (script : Script) (args : List String)
  | source (name text : String) (args : List String)
  | named (name : String) (args : List String)

namespace Interpreter

/-- The answer to a request, or why the script of a name cannot be had. -/
def serve (i : Interpreter) (fuel : Nat) :
    Request → Except ScriptError (Option (Bool × Interpreter))
  | .line text => .ok (i.executeLine fuel text)
  | .script script args => .ok (i.runScript fuel script args)
  | .source name text args => .ok (i.runSource fuel name text args)
  | .named name args => i.runNamed fuel name args

/-- The course of a request: the lines that are carried out for it, and the machine that they lead
to. A line that the host gives is carried out in the frame that is on top, and the frames that it
pushes run down to where the stack was. -/
inductive Serves (i : Interpreter) : Request → List Moment → Machine → Prop
  | line {text : String} {moments : List Moment} {m : Machine}
      (h : Course i.verbs i.machine.stack.depth (i.machine.step i.verbs text).2 moments m) :
      i.Serves (.line text) (⟨i.machine, text⟩ :: moments) m
  | script {script : Script} {args : List String} {moments : List Moment} {m : Machine}
      (h : Course i.verbs i.machine.stack.depth (i.machine.launch script args) moments m) :
      i.Serves (.script script args) moments m
  | source {name text : String} {args : List String} {moments : List Moment} {m : Machine}
      (h : i.Serves (.script (.ofSource name text) args) moments m) :
      i.Serves (.source name text args) moments m
  | named {name : String} {args : List String} {script : Script} {moments : List Moment}
      {m : Machine} (hl : i.machine.load name = .ok script)
      (h : i.Serves (.script script args) moments m) : i.Serves (.named name args) moments m

/-- The rounds of a request up to one of its moments. -/
theorem Serves.split {i : Interpreter} {r : Request} {moments before later : List Moment}
    {e : Moment} {m : Machine} (h : i.Serves r moments m) (hm : moments = before ++ e :: later) :
    i.Serves r (before ++ [e]) (e.machine.step i.verbs e.line).2 := by
  induction h with
  | @line text moments m h =>
    cases before with
    | nil =>
      cases hm
      exact .line .start
    | cons first before =>
      obtain ⟨rfl, hrest⟩ := List.cons.inj hm
      obtain ⟨hbefore, hd, hl, -⟩ := h.split hrest
      exact .line (.line _ hbefore hd hl)
  | script h =>
    obtain ⟨hbefore, hd, hl, -⟩ := h.split hm
    exact .script (.line _ hbefore hd hl)
  | source _ ih => exact .source (ih hm)
  | named hl _ ih => exact .named hl (ih hm)

variable {i after : Interpreter} {answer : Bool}

theorem after_eq_some_iff {run : Option (Bool × Machine)} :
    i.after run = some (answer, after) ↔
      run = some (answer, after.machine) ∧ after.verbs = i.verbs := by
  constructor
  · intro h
    obtain ⟨⟨halted, m⟩, hr, he⟩ := Option.map_eq_some_iff.mp h
    cases he
    exact ⟨hr, rfl⟩
  · rintro ⟨rfl, hv⟩
    obtain ⟨m, verbs⟩ := after
    cases hv
    rfl

theorem runScript_eq_some_iff {fuel : Nat} {script : Script} {args : List String} :
    i.runScript fuel script args = some (answer, after) ↔
      (i.machine.launch script args).runTo i.verbs i.machine.stack.depth fuel =
          some (answer, after.machine) ∧ after.verbs = i.verbs := by
  rw [runScript_eq, after_eq_some_iff]

theorem runScript_iff {script : Script} {args : List String} :
    (∃ fuel, i.runScript fuel script args = some (answer, after)) ↔
      after.verbs = i.verbs ∧ ∃ moments last, i.Serves (.script script args) moments last ∧
        Ending i.verbs i.machine.stack.depth moments last answer after.machine := by
  constructor
  · rintro ⟨fuel, h⟩
    obtain ⟨hr, hv⟩ := runScript_eq_some_iff.mp h
    obtain ⟨last, hc, he⟩ := Machine.course_of_runTo hr
    exact ⟨hv, _, last, .script hc, he⟩
  · rintro ⟨hv, moments, last, hs, he⟩
    cases hs with
    | script hc =>
      obtain ⟨fuel, hr⟩ := Machine.runTo_iff.mpr ⟨moments, last, hc, he⟩
      exact ⟨fuel, runScript_eq_some_iff.mpr ⟨hr, hv⟩⟩

theorem executeLine_of_halted {text : String} (h : (i.machine.step i.verbs text).1 = true)
    (fuel : Nat) : i.executeLine fuel text =
      i.after (some (true, (i.machine.step i.verbs text).2.truncate i.machine.stack.depth)) := by
  rw [executeLine_eq]
  generalize i.machine.step i.verbs text = s at h ⊢
  obtain ⟨halted, m⟩ := s
  cases h
  rfl

theorem executeLine_of_going {text : String} (h : (i.machine.step i.verbs text).1 = false)
    (fuel : Nat) : i.executeLine fuel text =
      i.after ((i.machine.step i.verbs text).2.runTo i.verbs i.machine.stack.depth fuel) := by
  rw [executeLine_eq]
  generalize i.machine.step i.verbs text = s at h ⊢
  obtain ⟨halted, m⟩ := s
  cases h
  rfl

theorem executeLine_iff {text : String} :
    (∃ fuel, i.executeLine fuel text = some (answer, after)) ↔
      after.verbs = i.verbs ∧ ∃ moments last, i.Serves (.line text) moments last ∧
        Ending i.verbs i.machine.stack.depth moments last answer after.machine := by
  have hasks : Moment.AsksEnd i.verbs ⟨i.machine, text⟩ ↔
      (i.machine.step i.verbs text).1 = true := Moment.asksEnd_iff
  cases hend : (i.machine.step i.verbs text).1 with
  | true =>
    constructor
    · rintro ⟨fuel, h⟩
      obtain ⟨hr, hv⟩ := after_eq_some_iff.mp ((executeLine_of_halted hend fuel).symm.trans h)
      obtain ⟨rfl, hafter⟩ := Prod.mk.inj (Option.some.inj hr)
      refine ⟨hv, _, _, .line .start, ?_⟩
      rw [← hafter]
      exact .halted (List.nil_append _).symm rfl (by simp) (hasks.mpr hend)
    · rintro ⟨hv, moments, last, hs, he⟩
      cases hs
      obtain ⟨rfl, rfl, rfl, hafter⟩ := he.of_asks (hasks.mpr hend)
      exact ⟨0, (executeLine_of_halted hend 0).trans (after_eq_some_iff.mpr ⟨by rw [hafter], hv⟩)⟩
  | false =>
    have hgo : ¬ Moment.AsksEnd i.verbs ⟨i.machine, text⟩ := by
      rw [hasks, hend]
      exact Bool.false_ne_true
    constructor
    · rintro ⟨fuel, h⟩
      obtain ⟨hr, hv⟩ := after_eq_some_iff.mp ((executeLine_of_going hend fuel).symm.trans h)
      obtain ⟨last, hc, he⟩ := Machine.course_of_runTo hr
      exact ⟨hv, _, last, .line hc, he.cons hgo⟩
    · rintro ⟨hv, moments, last, hs, he⟩
      cases hs with
      | line hc =>
        obtain ⟨fuel, hr⟩ := Machine.runTo_iff.mpr ⟨_, last, hc, he.of_cons hgo⟩
        exact ⟨fuel, (executeLine_of_going hend fuel).trans (after_eq_some_iff.mpr ⟨hr, hv⟩)⟩

/-- **A request is its course.** With enough fuel, a request is answered by what its course comes
to, and by nothing else. -/
theorem serve_iff {r : Request} :
    (∃ fuel, i.serve fuel r = .ok (some (answer, after))) ↔
      after.verbs = i.verbs ∧ ∃ moments last, i.Serves r moments last ∧
        Ending i.verbs i.machine.stack.depth moments last answer after.machine := by
  cases r with
  | line text =>
    simp only [serve, Except.ok.injEq]
    exact executeLine_iff
  | script script args =>
    simp only [serve, Except.ok.injEq]
    exact runScript_iff
  | source name text args =>
    simp only [serve, Except.ok.injEq, runSource]
    rw [runScript_iff]
    constructor
    · rintro ⟨hv, moments, last, hs, he⟩
      exact ⟨hv, moments, last, .source hs, he⟩
    · rintro ⟨hv, moments, last, hs, he⟩
      cases hs with
      | source hs => exact ⟨hv, moments, last, hs, he⟩
  | named name args =>
    simp only [serve, runNamed_eq]
    cases hl : i.machine.load name with
    | error e =>
      constructor
      · rintro ⟨fuel, h⟩
        cases h
      · rintro ⟨hv, moments, last, hs, he⟩
        cases hs with
        | named hl' _ => cases hl.symm.trans hl'
    | ok script =>
      simp only [Except.map, Except.ok.injEq]
      rw [runScript_iff]
      constructor
      · rintro ⟨hv, moments, last, hs, he⟩
        exact ⟨hv, moments, last, .named hl hs, he⟩
      · rintro ⟨hv, moments, last, hs, he⟩
        cases hs with
        | named hl' hs =>
          cases hl.symm.trans hl'
          exact ⟨hv, moments, last, hs, he⟩

end Interpreter

end Testbench
