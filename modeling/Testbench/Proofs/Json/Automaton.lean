import Testbench.Proofs.Json.Token

/-!
# An automaton for strict texts

A strict text is taken one character after another: a state is what may come next together with the
containers that are open. There is no state from which no document can be reached, so that the texts
that the automaton runs over are those with which a document may begin.

* `Automaton.State.step?`, `Automaton.State.run?` : one character and a text.
* `Automaton.State.run?_completion` : **a document can be reached from every state.**
* `Automaton.State.step?_of_not_ascii` : all characters outside of ASCII are alike.
* `openContainers`, `Automaton.State.run?_depth` : the brackets outside of strings tell how many
  containers are open.
-/

set_option autoImplicit false

namespace Testbench.Json

open Text

/-! ## Containers that are open -/

/-- Where a place is with respect to strings. -/
inductive Side where
  | outside
  | inside
  /-- Behind a backslash in a string. -/
  | escaped
  deriving DecidableEq, Repr

/-- How many containers are open at a place, and where it is with respect to strings. -/
structure Scan where
  depth : Nat
  side : Side
  deriving DecidableEq, Repr

/-- The same behind one more character. -/
def Scan.next (place : Scan) (c : Char) : Scan :=
  match place.side with
  | .outside =>
    if c = '\"' then ⟨place.depth, .inside⟩
    else if c ∈ ['\x7b', '['] then ⟨place.depth + 1, .outside⟩
    else if c ∈ ['\x7d', ']'] then ⟨place.depth - 1, .outside⟩
    else ⟨place.depth, .outside⟩
  | .inside =>
    if c = '\"' then ⟨place.depth, .outside⟩
    else if c = '\\' then ⟨place.depth, .escaped⟩
    else ⟨place.depth, .inside⟩
  | .escaped => ⟨place.depth, .inside⟩

/-- The number of containers that a text leaves open, by its brackets outside of strings. -/
def openContainers (text : List Char) : Nat := (text.foldl Scan.next ⟨0, .outside⟩).depth

theorem Scan.next_outside {c : Char} (hc : c ∉ ['\"', '\x7b', '[', '\x7d', ']']) (depth : Nat) :
    Scan.next ⟨depth, .outside⟩ c = ⟨depth, .outside⟩ := by
  simp only [List.mem_cons, List.not_mem_nil, or_false, not_or] at hc
  simp [Scan.next, hc]

/-- What is not in a class is not one of its characters. -/
theorem not_mem_of_class {p : Char → Bool} {c : Char} (h : p c = true) {l : List Char}
    (hl : (l.all fun d => !p d) = true) : c ∉ l := by
  intro hc
  have hp := List.all_eq_true.mp hl c hc
  rw [h] at hp
  cases hp

namespace Automaton

/-- A container whose closing bracket has not been read. -/
inductive Opened where
  | object
  | array
  deriving DecidableEq, Repr

def Opened.opener : Opened → Char
  | .object => '\x7b'
  | .array => '['

def Opened.closer : Opened → Char
  | .object => '\x7d'
  | .array => ']'

/-- What may come next. -/
inductive Phase where
  | value
  | member
  /-- The first member or element of a container, or the end of one that has none. -/
  | first (o : Opened)
  | colon
  /-- What may come behind a value. -/
  | after
  /-- The rest of a string, which is a name or a value. -/
  | string (name : Bool) (state : StringState)
  /-- The rest of a literal. -/
  | word (next : Char) (rest : List Char)
  /-- The digits behind the sign of a number. -/
  | sign
  /-- The digits behind a decimal point. -/
  | point
  /-- The digits behind the letter of an exponent, or their sign. -/
  | exponent
  /-- The digits behind the sign of an exponent. -/
  | exponentSign
  /-- A number that may end here, or go on with any of these. -/
  | figures (digit point exponent : Bool)
  deriving DecidableEq, Repr

/-- What a container has between its commas. -/
def Opened.item : Opened → Phase
  | .object => .member
  | .array => .value

/-- Before the rest of a literal. -/
def Phase.spelling : List Char → Phase
  | [] => .after
  | next :: rest => .word next rest

/-- White space makes no difference here. -/
def Phase.idle : Phase → Bool
  | .value => true
  | .member => true
  | .first _ => true
  | .colon => true
  | .after => true
  | _ => false

/-- What may come next, inside of the containers that are open, the innermost one first. -/
structure State where
  stack : List Opened
  phase : Phase
  deriving DecidableEq, Repr

namespace State

/-- The beginning of a text. -/
def start : State := ⟨[], .value⟩

def toPhase (q : State) (phase : Phase) : State := ⟨q.stack, phase⟩

/-- Behind an opening bracket, if there is room for one more container. -/
def enter? (q : State) (o : Opened) : Option State :=
  if q.stack.length < maxNesting then some ⟨o :: q.stack, .first o⟩ else none

/-- Behind a closing bracket. -/
def leave (q : State) : State := ⟨q.stack.tail, .after⟩

/-- The first digit of a number. -/
def whole? (q : State) (c : Char) : Option State :=
  if c = '0' then some (q.toPhase (.figures false true true))
  else if c.isDigit then some (q.toPhase (.figures true true true))
  else none

/-- The first one of several digits, and what may come behind them. -/
def digit? (q : State) (exponent : Bool) (c : Char) : Option State :=
  if c.isDigit then some (q.toPhase (.figures true false exponent)) else none

/-- The quote in front of a name. -/
def name? (q : State) (c : Char) : Option State :=
  if c = '\"' then some (q.toPhase (.string true .plain)) else none

/-- The first character of a value. -/
def begin? (q : State) (c : Char) : Option State :=
  if c = '\x7b' then q.enter? .object
  else if c = '[' then q.enter? .array
  else if c = '\"' then some (q.toPhase (.string false .plain))
  else if c = 't' then some (q.toPhase (.spelling ['r', 'u', 'e']))
  else if c = 'f' then some (q.toPhase (.spelling ['a', 'l', 's', 'e']))
  else if c = 'n' then some (q.toPhase (.spelling ['u', 'l', 'l']))
  else if c = '-' then some (q.toPhase .sign)
  else q.whole? c

/-- The first character of a member or an element. -/
def item? (q : State) (o : Opened) (c : Char) : Option State :=
  match o with
  | .object => q.name? c
  | .array => q.begin? c

/-- A character behind a value. -/
def resume? (q : State) (c : Char) : Option State :=
  if isSpace c then some (q.toPhase .after)
  else
    match q.stack with
    | [] => none
    | o :: _ =>
      if c = ',' then some (q.toPhase o.item) else if c = o.closer then some q.leave else none

/-- A character in a string. -/
def spell? (q : State) (name : Bool) (state : StringState) (c : Char) : Option State :=
  match state with
  | .plain =>
    if c = '\"' then some (q.toPhase (if name then .colon else .after))
    else if c = '\\' then some (q.toPhase (.string name .afterBackslash))
    else if c.toNat < 0x20 then none
    else some (q.toPhase (.string name .plain))
  | .afterBackslash =>
    if isShortEscape .strict c then some (q.toPhase (.string name .plain))
    else if c = 'u' then some (q.toPhase (.string name (.digits 3)))
    else none
  | .digits more =>
    if (hexValue? c).isSome then
      match more with
      | 0 => some (q.toPhase (.string name .plain))
      | more + 1 => some (q.toPhase (.string name (.digits more)))
    else none

/-- The state behind one more character, if a document can go on with it. -/
def step? (q : State) (c : Char) : Option State :=
  if q.phase.idle && isSpace c then some q
  else
    match q.phase with
    | .value => q.begin? c
    | .member => q.name? c
    | .first o => if c = o.closer then some q.leave else q.item? o c
    | .colon => if c = ':' then some (q.toPhase .value) else none
    | .after => q.resume? c
    | .string name state => q.spell? name state c
    | .word next rest => if c = next then some (q.toPhase (.spelling rest)) else none
    | .sign => q.whole? c
    | .point => q.digit? true c
    | .exponent => if c == '+' || c == '-' then some (q.toPhase .exponentSign) else q.digit? false c
    | .exponentSign => q.digit? false c
    | .figures digit point exponent =>
      if digit && c.isDigit then some q
      else if point && c == '.' then some (q.toPhase .point)
      else if exponent && (c == 'e' || c == 'E') then some (q.toPhase .exponent)
      else q.resume? c

/-- The state behind a text, if a document can go on with it. -/
def run? (q : State) : List Char → Option State
  | [] => some q
  | c :: s => (q.step? c).bind fun q' => q'.run? s

/-- A document may end here. -/
def final (q : State) : Bool :=
  q.stack.isEmpty &&
    match q.phase with
    | .after => true
    | .figures .. => true
    | _ => false

@[simp] theorem run?_nil (q : State) : q.run? [] = some q := rfl

theorem run?_append (q : State) (s t : List Char) :
    q.run? (s ++ t) = (q.run? s).bind fun q' => q'.run? t := by
  induction s generalizing q with
  | nil => rfl
  | cons c s ih =>
    rw [List.cons_append, run?, run?]
    cases q.step? c with
    | none => rfl
    | some q' => exact ih q'

end State

/-! ## Every state can be completed -/

/-- A way to the end of a value, of the innermost container that is open. -/
def Phase.completion : Phase → List Char
  | .value => ['0', ' ']
  | .member => ['\"', '\"', ':', '0', ' ']
  | .first .object => ['\"', '\"', ':', '0', ' ']
  | .first .array => ['0', ' ']
  | .colon => [':', '0', ' ']
  | .after => []
  | .string name state =>
    (match state with
      | .plain => []
      | .afterBackslash => ['n']
      | .digits more => List.replicate (more + 1) '0') ++
      '\"' :: if name then [':', '0', ' '] else []
  | .word next rest => next :: rest
  | .sign => ['0', ' ']
  | .point => ['0', ' ']
  | .exponent => ['0', ' ']
  | .exponentSign => ['0', ' ']
  | .figures .. => [' ']

/-- A way to the end of a document. -/
def State.completion (q : State) : List Char := q.phase.completion ++ q.stack.map Opened.closer

namespace State

theorem run?_spelling (stack : List Opened) (word : List Char) :
    run? ⟨stack, .spelling word⟩ word = some ⟨stack, .after⟩ := by
  induction word with
  | nil => rfl
  | cons c word ih =>
    have hstep : step? ⟨stack, .word c word⟩ c = some ⟨stack, .spelling word⟩ := if_pos rfl
    rw [run?, Phase.spelling, hstep]
    exact ih

theorem run?_zeros (stack : List Opened) (name : Bool) (more : Nat) :
    run? ⟨stack, .string name (.digits more)⟩ (List.replicate (more + 1) '0') =
      some ⟨stack, .string name .plain⟩ := by
  induction more with
  | zero => rfl
  | succ more ih => exact ih

theorem run?_phase_completion (q : State) :
    q.run? q.phase.completion = some (q.toPhase .after) := by
  obtain ⟨stack, phase⟩ := q
  cases phase with
  | string name state =>
    have hclose : run? ⟨stack, .string name .plain⟩ ('\"' :: if name then [':', '0', ' '] else []) =
        some ⟨stack, .after⟩ := by cases name <;> rfl
    cases state with
    | plain => exact hclose
    | afterBackslash => exact hclose
    | digits more =>
      simp only [Phase.completion, run?_append, run?_zeros, Option.bind_some]
      exact hclose
  | word next rest => exact run?_spelling stack (next :: rest)
  | first o => cases o <;> rfl
  | figures digit point exponent => cases digit <;> cases point <;> cases exponent <;> rfl
  | _ => rfl

theorem run?_closers (stack : List Opened) :
    run? ⟨stack, .after⟩ (stack.map Opened.closer) = some ⟨[], .after⟩ := by
  induction stack with
  | nil => rfl
  | cons o stack ih =>
    have hstep : step? ⟨o :: stack, .after⟩ o.closer = some ⟨stack, .after⟩ := by cases o <;> rfl
    rw [List.map_cons, run?, hstep]
    exact ih

/-- **A document can be reached from every state.** -/
theorem run?_completion (q : State) : q.run? q.completion = some ⟨[], .after⟩ := by
  rw [completion, run?_append, run?_phase_completion]
  exact run?_closers q.stack

/-! ## What the brackets tell -/

/-- The literal that is being read has only small letters. -/
def Lettered (q : State) : Prop :=
  match q.phase with
  | .word next rest => ∀ c ∈ next :: rest, c.isLower = true
  | _ => True

end State

def Phase.side : Phase → Side
  | .string _ .afterBackslash => .escaped
  | .string _ _ => .inside
  | _ => .outside

namespace State

/-- How many containers are open, and where the place is with respect to strings. -/
def scan (q : State) : Scan := ⟨q.stack.length, q.phase.side⟩

variable {q q' : State} {c : Char}

theorem scan_to_outside (hc : c ∉ ['\"', '\x7b', '[', '\x7d', ']']) {phase : Phase}
    (hphase : phase.side = .outside) :
    (q.toPhase phase).scan = Scan.next ⟨q.stack.length, .outside⟩ c := by
  rw [Scan.next_outside hc, scan, toPhase, hphase]

theorem whole?_scan (h : q.whole? c = some q') :
    q'.Lettered ∧ q'.scan = Scan.next ⟨q.stack.length, .outside⟩ c := by
  unfold whole? at h
  split at h
  · rename_i hc
    cases h
    exact ⟨trivial, scan_to_outside (by simp [hc]) rfl⟩
  · split at h
    · rename_i hc
      cases h
      exact ⟨trivial, scan_to_outside (not_mem_of_class hc rfl) rfl⟩
    · cases h

theorem digit?_scan {exponent : Bool} (h : q.digit? exponent c = some q') :
    q'.Lettered ∧ q'.scan = Scan.next ⟨q.stack.length, .outside⟩ c := by
  unfold digit? at h
  split at h
  · rename_i hc
    cases h
    exact ⟨trivial, scan_to_outside (not_mem_of_class hc rfl) rfl⟩
  · cases h

theorem name?_scan (h : q.name? c = some q') :
    q'.Lettered ∧ q'.scan = Scan.next ⟨q.stack.length, .outside⟩ c := by
  unfold name? at h
  split at h
  · rename_i hc
    cases h
    exact ⟨trivial, by simp [scan, Scan.next, toPhase, Phase.side, hc]⟩
  · cases h

theorem enter?_scan {o : Opened} (h : q.enter? o = some q') :
    q'.Lettered ∧ q'.scan = Scan.next ⟨q.stack.length, .outside⟩ o.opener := by
  unfold enter? at h
  split at h
  · cases h
    exact ⟨trivial, by cases o <;> simp [scan, Scan.next, Opened.opener, Phase.side]⟩
  · cases h

theorem leave_scan (q : State) (o : Opened) :
    q.leave.Lettered ∧ q.leave.scan = Scan.next ⟨q.stack.length, .outside⟩ o.closer :=
  ⟨trivial, by cases o <;> simp [scan, Scan.next, Opened.closer, leave, Phase.side]⟩

theorem begin?_scan (h : q.begin? c = some q') :
    q'.Lettered ∧ q'.scan = Scan.next ⟨q.stack.length, .outside⟩ c := by
  have hword : ∀ {next : Char} {rest : List Char}, c ∉ ['\"', '\x7b', '[', '\x7d', ']'] →
      (next :: rest).all Char.isLower = true →
      (q.toPhase (.spelling (next :: rest))).Lettered ∧
        (q.toPhase (.spelling (next :: rest))).scan = Scan.next ⟨q.stack.length, .outside⟩ c :=
    fun hc hrest => ⟨List.all_eq_true.mp hrest, scan_to_outside hc rfl⟩
  unfold begin? at h
  split at h
  · rename_i hc
    exact hc ▸ enter?_scan h
  split at h
  · rename_i hc
    exact hc ▸ enter?_scan h
  split at h
  · rename_i hc
    cases h
    exact ⟨trivial, by simp [scan, Scan.next, toPhase, Phase.side, hc]⟩
  split at h
  · rename_i hc
    cases h
    exact hword (by simp [hc]) rfl
  split at h
  · rename_i hc
    cases h
    exact hword (by simp [hc]) rfl
  split at h
  · rename_i hc
    cases h
    exact hword (by simp [hc]) rfl
  split at h
  · rename_i hc
    cases h
    exact ⟨trivial, scan_to_outside (by simp [hc]) rfl⟩
  · exact whole?_scan h

theorem item?_scan {o : Opened} (h : q.item? o c = some q') :
    q'.Lettered ∧ q'.scan = Scan.next ⟨q.stack.length, .outside⟩ c := by
  cases o with
  | object => exact name?_scan h
  | array => exact begin?_scan h

theorem resume?_scan (h : q.resume? c = some q') :
    q'.Lettered ∧ q'.scan = Scan.next ⟨q.stack.length, .outside⟩ c := by
  unfold resume? at h
  split at h
  · rename_i hc
    cases h
    exact ⟨trivial, scan_to_outside (not_mem_of_class hc rfl) rfl⟩
  · split at h
    · cases h
    · rename_i o stack _
      split at h
      · rename_i hc
        cases h
        cases o <;> exact ⟨trivial, scan_to_outside (by simp [hc]) rfl⟩
      · split at h
        · rename_i hc
          cases h
          exact hc ▸ leave_scan q o
        · cases h

theorem spell?_scan {name : Bool} {state : StringState} (h : q.spell? name state c = some q') :
    q'.Lettered ∧
      q'.scan = Scan.next ⟨q.stack.length, (Phase.string name state).side⟩ c := by
  unfold spell? at h
  split at h
  · split at h
    · rename_i hc
      cases h
      cases name <;> exact ⟨trivial, by simp [scan, Scan.next, toPhase, Phase.side, hc]⟩
    split at h
    · rename_i hquote hc
      cases h
      exact ⟨trivial, by simp [scan, Scan.next, toPhase, Phase.side, hc]⟩
    split at h
    · cases h
    · rename_i hquote hbackslash _
      cases h
      exact ⟨trivial, by simp [scan, Scan.next, toPhase, Phase.side, hquote, hbackslash]⟩
  · split at h
    · cases h
      exact ⟨trivial, rfl⟩
    split at h
    · cases h
      exact ⟨trivial, rfl⟩
    · cases h
  · split at h
    · rename_i hc
      have hout : c ∉ ['\"', '\\'] := not_mem_of_class (p := fun d => (hexValue? d).isSome) hc rfl
      simp only [List.mem_cons, List.not_mem_nil, or_false, not_or] at hout
      split at h
      · cases h
        exact ⟨trivial, by simp [scan, Scan.next, toPhase, Phase.side, hout]⟩
      · cases h
        exact ⟨trivial, by simp [scan, Scan.next, toPhase, Phase.side, hout]⟩
    · cases h

theorem Phase.side_of_idle {phase : Phase} (h : phase.idle = true) : phase.side = .outside := by
  cases phase with
  | string => cases h
  | _ => rfl

/-- One more character is counted as the brackets tell. -/
theorem step?_scan (hq : q.Lettered) (h : q.step? c = some q') :
    q'.Lettered ∧ q'.scan = q.scan.next c := by
  obtain ⟨stack, phase⟩ := q
  unfold step? at h
  split at h
  · rename_i hc
    obtain ⟨hidle, hspace⟩ := Bool.and_eq_true_iff.mp hc
    cases h
    have hside : phase.side = .outside := Phase.side_of_idle hidle
    have hscan : State.scan ⟨stack, phase⟩ = Scan.next ⟨stack.length, .outside⟩ c :=
      scan_to_outside (q := ⟨stack, phase⟩) (not_mem_of_class hspace rfl) hside
    refine ⟨hq, hscan.trans ?_⟩
    rw [scan, hside]
  · cases phase with
    | value => exact begin?_scan h
    | member => exact name?_scan h
    | first o =>
      simp only at h
      split at h
      · rename_i hc
        cases h
        exact hc ▸ leave_scan ⟨stack, .first o⟩ o
      · exact item?_scan h
    | colon =>
      simp only at h
      split at h
      · rename_i hc
        cases h
        exact ⟨trivial, scan_to_outside (by simp [hc]) rfl⟩
      · cases h
    | after => exact resume?_scan h
    | string name state => exact spell?_scan h
    | word next rest =>
      simp only at h
      split at h
      · rename_i hc
        cases h
        have hletter : c.isLower = true := hc ▸ hq next List.mem_cons_self
        have hout : c ∉ ['\"', '\x7b', '[', '\x7d', ']'] := not_mem_of_class hletter rfl
        cases rest with
        | nil => exact ⟨trivial, scan_to_outside hout rfl⟩
        | cons d rest =>
          exact ⟨fun x hx => hq x (List.mem_cons_of_mem _ hx), scan_to_outside hout rfl⟩
      · cases h
    | sign => exact whole?_scan h
    | point => exact digit?_scan h
    | exponent =>
      simp only at h
      split at h
      · rename_i hc
        cases h
        rcases Bool.or_eq_true_iff.mp hc with hc | hc
        · exact ⟨trivial, scan_to_outside (by simp [beq_iff_eq.mp hc]) rfl⟩
        · exact ⟨trivial, scan_to_outside (by simp [beq_iff_eq.mp hc]) rfl⟩
      · exact digit?_scan h
    | exponentSign => exact digit?_scan h
    | figures digit point exponent =>
      simp only at h
      split at h
      · rename_i hc
        cases h
        have hdigit := (Bool.and_eq_true_iff.mp hc).2
        exact ⟨trivial, scan_to_outside (q := ⟨stack, _⟩) (not_mem_of_class hdigit rfl) rfl⟩
      split at h
      · rename_i hc
        cases h
        have hpoint := beq_iff_eq.mp (Bool.and_eq_true_iff.mp hc).2
        exact ⟨trivial, scan_to_outside (by simp [hpoint]) rfl⟩
      split at h
      · rename_i hc
        cases h
        rcases Bool.or_eq_true_iff.mp (Bool.and_eq_true_iff.mp hc).2 with hc | hc
        · exact ⟨trivial, scan_to_outside (by simp [beq_iff_eq.mp hc]) rfl⟩
        · exact ⟨trivial, scan_to_outside (by simp [beq_iff_eq.mp hc]) rfl⟩
      · exact resume?_scan h

/-- **The brackets outside of strings tell how many containers are open.** -/
theorem run?_depth {s : List Char} (h : start.run? s = some q) :
    q.Lettered ∧ q.stack.length = openContainers s := by
  have hrun : ∀ (s : List Char) (r : State), r.Lettered → r.run? s = some q →
      q.Lettered ∧ q.scan = s.foldl Scan.next r.scan := by
    intro s
    induction s with
    | nil =>
      intro r hr h
      cases h
      exact ⟨hr, rfl⟩
    | cons c s ih =>
      intro r hr h
      obtain ⟨r', hr', h⟩ := Option.bind_eq_some_iff.mp h
      obtain ⟨hlettered, hscan⟩ := step?_scan hr hr'
      rw [List.foldl_cons, ← hscan]
      exact ih r' hlettered h
  obtain ⟨hlettered, hscan⟩ := hrun s start trivial h
  exact ⟨hlettered, congrArg Scan.depth hscan⟩

/-! ## Characters outside of ASCII -/

theorem utf8Size_of_isLower (h : c.isLower = true) : c.utf8Size = 1 := by
  rw [Char.utf8Size_eq_one_iff]
  simp only [Char.isLower, Bool.and_eq_true, decide_eq_true_eq, ge_iff_le,
    UInt32.le_iff_toNat_le] at h ⊢
  have hz : 'z'.val.toNat = 122 := rfl
  have hmax : (127 : UInt32).toNat = 127 := rfl
  omega

/-- Outside of ASCII a character may only stand for itself in a string. -/
theorem step?_of_not_ascii (hq : q.Lettered) (hc : c.utf8Size ≠ 1) :
    q.step? c = match q.phase with
      | .string _ .plain => some q
      | _ => none := by
  have hlarge : 0x80 ≤ c.toNat := by
    rw [Ne, Char.utf8Size_eq_one_iff, UInt32.le_iff_toNat_le] at hc
    exact Nat.not_le.mp hc
  have hne : ∀ d : Char, d.toNat < 0x80 → c ≠ d := by
    rintro d hd rfl
    omega
  have hspace : isSpace c = false := by simp [isSpace, hne]
  have hhex : (hexValue? c).isSome = false := by
    rw [Bool.eq_false_iff]
    exact fun h => hc (Grammar.utf8Size_of_isHexDigit (Grammar.isHexDigit_iff.mp h))
  have hdigit : c.isDigit = false := by
    rw [Bool.eq_false_iff]
    exact fun h => hc (Grammar.utf8Size_of_isHexDigit (.inl (Grammar.isDigit_iff.mp h)))
  have hcontrol : ¬c.toNat < 0x20 := by omega
  have hresume : q.resume? c = none := by
    rw [resume?, hspace, if_neg Bool.false_ne_true]
    split
    · rfl
    · rename_i o stack _
      cases o <;> simp [Opened.closer, hne]
  obtain ⟨stack, phase⟩ := q
  cases phase with
  | string name state =>
    cases state <;>
      simp [step?, Phase.idle, spell?, hne, hcontrol, hhex, isShortEscape, Mode.isRelaxed, toPhase]
  | word next rest =>
    have hnext : c ≠ next := by
      rintro rfl
      exact hc (utf8Size_of_isLower (hq c List.mem_cons_self))
    simp [step?, Phase.idle, hnext]
  | after => simp [step?, hspace, hresume]
  | first o =>
    cases o <;>
      simp [step?, hspace, Opened.closer, item?, begin?, name?, hne, whole?, hdigit]
  | figures => simp [step?, Phase.idle, hdigit, hne, hresume]
  | _ => simp [step?, hspace, begin?, name?, hne, whole?, digit?, hdigit]

end State

end Automaton

end Testbench.Json
