import Testbench.Config
import Testbench.Proofs.Text.Lines

/-!
# A bad line is isolated

What a line of a settings file says does not depend on the lines before it: nothing, one setting, or
what is wrong with it. The settings of a file are thus what its accepted lines say, one after the
other, and a line that is refused could as well be empty.

* `Setting`, `Config.put`, `Config.setting?` : one setting, giving it and looking it up by its key.
* `Statement`, `statement` : what a line says; `readLine_eq` : **what it does is what it says.**
* `setting?_foldl_put` : of the settings under one key, the last one stays.
* `settingsOf`, `errorsOf` : what lines give, and what is wrong with which of them.
* `readLines_eq`, `readLines_emptied` : any lines, one after the other, and one of them emptied.
* `read_isolates` : **the errors of a text, and the text without a line that is refused.**
-/

set_option autoImplicit false

namespace Testbench

/-- One setting. -/
inductive Setting where
  | logLevel (filter : String)
  | scriptDir (dir : String)
  | driver (name : String)
  | echo (on : Bool)
  | global (name value : String)
  deriving DecidableEq, Repr

/-- What a setting is given to. -/
inductive Setting.Key where
  | logLevel
  | scriptDir
  | driver
  | echo
  | global (name : String)
  deriving DecidableEq, Repr

def Setting.key : Setting → Key
  | logLevel _ => .logLevel
  | scriptDir _ => .scriptDir
  | driver _ => .driver
  | echo _ => .echo
  | global name _ => .global name

/-- What a line says. -/
inductive Statement where
  | nothing
  | sets (s : Setting)
  | refused (cause : SettingError)
  deriving DecidableEq, Repr

def Statement.setting? : Statement → Option Setting
  | sets s => some s
  | _ => none

def Statement.cause? : Statement → Option SettingError
  | refused cause => some cause
  | _ => none

theorem Statement.setting?_eq_none {s : Statement} {cause : SettingError}
    (h : s.cause? = some cause) : s.setting? = none := by
  cases s with
  | sets s => cases h
  | _ => rfl

namespace Config

open Text

/-! ## Settings -/

/-- The settings with one more. -/
def put (c : Config) : Setting → Config
  | .logLevel filter => { c with logLevel := some filter }
  | .scriptDir dir => { c with scriptDir := some dir }
  | .driver name => { c with driver := name }
  | .echo on => { c with echo := on }
  | .global name value => { c with globals := c.globals.set name value }

/-- What is set under a key. -/
def setting? (c : Config) : Setting.Key → Option Setting
  | .logLevel => c.logLevel.map .logLevel
  | .scriptDir => c.scriptDir.map .scriptDir
  | .driver => some (.driver c.driver)
  | .echo => some (.echo c.echo)
  | .global name => (c.globals.value? name).map (.global name)

theorem setting?_put (c : Config) (s : Setting) (key : Setting.Key) :
    (c.put s).setting? key = if s.key = key then some s else c.setting? key := by
  cases s with
  | global name value =>
    cases key with
    | global other =>
      simp only [put, setting?, Setting.key, Variables.value?, Variables.find?_set,
        Setting.Key.global.injEq]
      by_cases h : name = other
      · simp [h]
      · simp [h, Ne.symm h]
    | _ => rfl
  | _ => cases key <;> rfl

theorem setting?_foldl_put (c : Config) (settings : List Setting) (key : Setting.Key) :
    (settings.foldl put c).setting? key =
      (settings.reverse.find? (·.key = key)).or (c.setting? key) := by
  induction settings generalizing c with
  | nil => rfl
  | cons s settings ih =>
    rw [List.foldl_cons, ih, setting?_put, List.reverse_cons, List.find?_append, Option.or_assoc,
      List.find?_singleton]
    by_cases h : s.key = key <;> simp [h]

/-! ## What a line says -/

/-- What a value for a key says. -/
def statementOf (key value : String) : Statement :=
  match key with
  | "log_level" => .sets (.logLevel value)
  | "script_dir" => .sets (.scriptDir value)
  | "driver" => if value.isEmpty then .refused .emptyDriver else .sets (.driver value)
  | "echo" =>
    match readSwitch? value with
    | some on => .sets (.echo on)
    | none => .refused (.notBoolean value)
  | _ => .refused (.unknownSetting key)

/-- What a line says, which has no white space around it. -/
def statement (line : List Char) : Statement :=
  if isRemark line then .nothing
  else match afterSet? line with
    | some rest =>
      match readVariable (Line.tokenize (String.ofList rest)) with
      | .ok (name, value) => .sets (.global name value)
      | .error cause => .refused cause
    | none =>
      match cut? '=' line with
      | some (key, value) =>
        statementOf (String.ofList (trim key)) (String.ofList (unquoted (trim value)))
      | none => .refused (.noEquals (String.ofList line))

/-- What comes of it. -/
def respond (c : Config) : Statement → Except SettingError Config
  | .nothing => .ok c
  | .sets s => .ok (c.put s)
  | .refused cause => .error cause

theorem apply_eq (c : Config) (key value : String) :
    c.apply key value = c.respond (statementOf key value) := by
  by_cases hlevel : key = "log_level"
  · rw [hlevel]
    rfl
  by_cases hdir : key = "script_dir"
  · rw [hdir]
    rfl
  by_cases hdriver : key = "driver"
  · simp only [hdriver, apply, statementOf]
    cases value.isEmpty <;> rfl
  by_cases hecho : key = "echo"
  · simp only [hecho, apply, statementOf]
    cases readSwitch? value <;> rfl
  · simp [apply, statementOf, respond]

/-- What a line does is what it says, whatever was set before it. -/
theorem readLine_eq (c : Config) (line : List Char) :
    c.readLine line = c.respond (statement line) := by
  unfold readLine statement
  cases isRemark line with
  | true => rfl
  | false =>
    cases afterSet? line with
    | some rest =>
      simp only [Bool.false_eq_true, if_false]
      cases readVariable (Line.tokenize (String.ofList rest)) <;> rfl
    | none =>
      simp only [Bool.false_eq_true, if_false, readSetting]
      cases cut? '=' line with
      | none => rfl
      | some cut => exact c.apply_eq ..

theorem isRemark_of_cause? {line : List Char} {cause : SettingError}
    (h : (statement line).cause? = some cause) : isRemark line = false := by
  cases hremark : isRemark line with
  | false => rfl
  | true => simp [statement, hremark, Statement.cause?] at h

/-! ## What lines say -/

/-- The settings that lines give. -/
def settingsOf (ls : List (List Char)) : List Setting :=
  ls.filterMap fun line => (statement (trim line)).setting?

/-- What is wrong with lines of which `number` is the number of the first. -/
def errorsOf (number : Nat) (ls : List (List Char)) : List ConfigError :=
  (ls.zipIdx number).filterMap fun (line, n) =>
    (statement (trim line)).cause?.map (ConfigError.mk n)

variable {number : Nat} {e : ConfigError} {line : List Char}

theorem settingsOf_append (front back : List (List Char)) :
    settingsOf (front ++ back) = settingsOf front ++ settingsOf back :=
  List.filterMap_append

theorem settingsOf_cons (line : List Char) (ls : List (List Char)) :
    settingsOf (line :: ls) = (statement (trim line)).setting?.toList ++ settingsOf ls := by
  unfold settingsOf
  rw [List.filterMap_cons]
  cases (statement (trim line)).setting? <;> rfl

theorem errorsOf_append (number : Nat) (front back : List (List Char)) :
    errorsOf number (front ++ back) =
      errorsOf number front ++ errorsOf (number + front.length) back := by
  simp [errorsOf, List.zipIdx_append]

theorem errorsOf_cons (number : Nat) (line : List Char) (ls : List (List Char)) :
    errorsOf number (line :: ls) =
      ((statement (trim line)).cause?.map (ConfigError.mk number)).toList ++
        errorsOf (number + 1) ls := by
  unfold errorsOf
  rw [List.zipIdx_cons, List.filterMap_cons]
  dsimp only
  cases (statement (trim line)).cause? <;> rfl

theorem mem_errorsOf {ls : List (List Char)} :
    e ∈ errorsOf number ls ↔
      number ≤ e.line ∧ ∃ line, ls[e.line - number]? = some line ∧
        (statement (trim line)).cause? = some e.cause := by
  simp only [errorsOf, List.mem_filterMap, Prod.exists, Option.map_eq_some_iff,
    List.mk_mem_zipIdx_iff_le_and_getElem?_sub]
  constructor
  · rintro ⟨line, n, ⟨hn, hline⟩, cause, hcause, rfl⟩
    exact ⟨hn, line, hline, hcause⟩
  · rintro ⟨hn, line, hline, hcause⟩
    exact ⟨line, e.line, ⟨hn, hline⟩, e.cause, hcause, rfl⟩

theorem line_of_mem_errorsOf {ls : List (List Char)} (h : e ∈ errorsOf number ls) :
    number ≤ e.line ∧ e.line < number + ls.length := by
  obtain ⟨hn, line, hline, -⟩ := mem_errorsOf.mp h
  have := (List.getElem?_eq_some_iff.mp hline).1
  omega

theorem pairwise_errorsOf (number : Nat) (ls : List (List Char)) :
    (errorsOf number ls).Pairwise (·.line < ·.line) := by
  induction ls generalizing number with
  | nil => exact .nil
  | cons line ls ih =>
    rw [errorsOf_cons, List.pairwise_append]
    refine ⟨?_, ih _, ?_⟩
    · cases (statement (trim line)).cause? <;> simp
    · intro e he f hf
      have hline : e.line = number := by
        obtain ⟨cause, -, rfl⟩ := Option.map_eq_some_iff.mp (Option.mem_toList.mp he)
        rfl
      have := (line_of_mem_errorsOf hf).1
      omega

/-- None of the errors is that of a line in front of the lines or behind them. -/
theorem filter_errorsOf_eq_self {k : Nat} {ls : List (List Char)}
    (h : k < number ∨ number + ls.length ≤ k) :
    (errorsOf number ls).filter (·.line ≠ k) = errorsOf number ls := by
  refine List.filter_eq_self.mpr fun e he => decide_eq_true ?_
  have := line_of_mem_errorsOf he
  omega

/-- The errors of all lines but one. -/
theorem filter_errorsOf (number : Nat) (front : List (List Char)) (line : List Char)
    (back : List (List Char)) :
    (errorsOf number (front ++ line :: back)).filter (·.line ≠ number + front.length) =
      errorsOf number front ++ errorsOf (number + front.length + 1) back := by
  rw [errorsOf_append, errorsOf_cons, List.filter_append, List.filter_append,
    filter_errorsOf_eq_self (.inr (Nat.le_refl _)),
    filter_errorsOf_eq_self (.inl (Nat.lt_succ_self _))]
  cases (statement (trim line)).cause? <;> simp

/-! ## Lines one after the other -/

theorem readLines_eq (c : Config) (number : Nat) (ls : List (List Char)) :
    c.readLines number ls = ((settingsOf ls).foldl put c, errorsOf number ls) := by
  induction ls generalizing c number with
  | nil => rfl
  | cons line ls ih =>
    rw [readLines, readLine_eq, settingsOf_cons, errorsOf_cons]
    cases statement (trim line) with
    | nothing => simp [respond, ih, Statement.setting?, Statement.cause?]
    | sets s => simp [respond, ih, Statement.setting?, Statement.cause?]
    | refused cause => simp [respond, ih, Statement.setting?, Statement.cause?]

/-- A line that says nothing, in the place of one that is refused, leaves the settings and the
errors of the other lines. -/
theorem readLines_emptied (c : Config) (number : Nat) {front back : List (List Char)}
    {empty : List Char} {cause : SettingError}
    (hline : (statement (trim line)).cause? = some cause) (hempty : trim empty = []) :
    c.readLines number (front ++ empty :: back) =
      ((c.readLines number (front ++ line :: back)).1,
        (c.readLines number (front ++ line :: back)).2.filter
          (·.line ≠ number + front.length)) := by
  rw [readLines_eq, readLines_eq, filter_errorsOf, settingsOf_append, settingsOf_append,
    settingsOf_cons, settingsOf_cons, errorsOf_append, errorsOf_cons,
    Statement.setting?_eq_none hline, hempty]
  rfl

/-- A line that says nothing, at the end, says nothing. -/
theorem readLines_blank (c : Config) (number : Nat) (ls : List (List Char)) :
    c.readLines number (ls ++ [[]]) = c.readLines number ls := by
  have hsettings : settingsOf [[]] = [] := rfl
  have herrors : errorsOf (number + ls.length) [[]] = [] := rfl
  rw [readLines_eq, readLines_eq, settingsOf_append, errorsOf_append, hsettings, herrors,
    List.append_nil, List.append_nil]

/-- A line of a text that is refused is no remark, and it could as well be empty. -/
theorem readLines_of_isLine (c : Config) (number : Nat) {before after : List Char}
    (h : IsLine before line after)
    (he : e ∈ (c.readLines number (lines (before ++ (line ++ after)))).2)
    (hnumber : e.line = number + before.count '\n') :
    isRemark (trim line) = false ∧
      c.readLines number (lines (before ++ after)) =
        ((c.readLines number (lines (before ++ (line ++ after)))).1,
          (c.readLines number (lines (before ++ (line ++ after)))).2.filter
            (·.line ≠ e.line)) := by
  have hlength := length_lines h.start
  -- the line as it is read, and an empty one in its place
  obtain ⟨shown, empty, rest, hshown, hlines, hempty, hemptied⟩ :
      ∃ shown empty rest, trim shown = trim line ∧
        lines (before ++ (line ++ after)) = lines before ++ shown :: rest ∧ trim empty = [] ∧
        c.readLines number (lines (before ++ after)) =
          c.readLines number (lines before ++ empty :: rest) := by
    rcases h.lines_eq with ⟨rfl, hlines⟩ | ⟨rest, shown, hshown, hlines, empty, hempty, hemptied⟩
    · by_cases hline : line = []
      · -- there is no such line to be refused
        rw [hlines, if_pos hline, List.append_nil, readLines_eq] at he
        have := (line_of_mem_errorsOf he).2
        omega
      · rw [if_neg hline] at hlines
        refine ⟨line, [], [], rfl, hlines, rfl, ?_⟩
        rw [List.append_nil, readLines_blank]
    · exact ⟨shown, empty, rest, hshown, hlines, hempty, by rw [hemptied]⟩
  rw [hlines, readLines_eq] at he
  obtain ⟨-, read, hread, hcause⟩ := mem_errorsOf.mp he
  have hat : e.line - number = (lines before).length := by omega
  rw [hat, List.getElem?_append_right (Nat.le_refl _), Nat.sub_self, List.getElem?_cons_zero,
    Option.some_inj] at hread
  subst hread
  rw [hlines, hemptied, readLines_emptied c number hcause hempty, hnumber, hlength]
  exact ⟨hshown ▸ isRemark_of_cause? hcause, rfl⟩

/-! ## A text -/

/-- **A bad line is isolated.** The errors of a text come in the order of its lines, at most one a
line. A line with an error is neither blank nor a comment, and the text in which it is empty has the
same settings and the errors of the other lines. What a line does depends on nothing but the line,
so that the settings are what the accepted lines say, where the last one under a key stays, and the
errors are what is wrong with the other lines. -/
theorem read_isolates (text : String) :
    (read text).2.Pairwise (·.line < ·.line) ∧
    (∀ e ∈ (read text).2,
      (∃ before line after, text.toList = before ++ (line ++ after) ∧
        IsLine before line after ∧ e.line = before.count '\n' + 1) ∧
      ∀ before line after, text.toList = before ++ (line ++ after) →
        IsLine before line after → e.line = before.count '\n' + 1 →
        trim line ≠ [] ∧ (trim line).head? ≠ some ';' ∧
        read (String.ofList (before ++ after)) =
          ((read text).1, (read text).2.filter (·.line ≠ e.line))) ∧
    (∀ (c : Config) (line : List Char), c.readLine line = c.respond (statement line)) ∧
    (read text).1 = (settingsOf (lines text.toList)).foldl put {} ∧
    (read text).2 = errorsOf 1 (lines text.toList) ∧
    ∀ key, (read text).1.setting? key =
      ((settingsOf (lines text.toList)).reverse.find? (·.key = key)).or
        (({} : Config).setting? key) := by
  have hread : read text =
      ((settingsOf (lines text.toList)).foldl put {}, errorsOf 1 (lines text.toList)) :=
    readLines_eq ..
  refine ⟨?_, ?_, readLine_eq, by rw [hread], by rw [hread], ?_⟩
  · rw [hread]
    exact pairwise_errorsOf ..
  · intro e he
    refine ⟨?_, ?_⟩
    · rw [hread] at he
      obtain ⟨hfirst, hlast⟩ := line_of_mem_errorsOf he
      obtain ⟨before, line, after, htext, hline, hcount⟩ :=
        exists_isLine (show e.line - 1 < (lines text.toList).length by omega)
      exact ⟨before, line, after, htext, hline, by omega⟩
    · intro before line after htext hline hnumber
      unfold read at he ⊢
      rw [htext] at he ⊢
      obtain ⟨hremark, hemptied⟩ := readLines_of_isLine {} 1 hline he (by omega)
      rw [String.toList_ofList]
      rw [isRemark, Bool.or_eq_false_iff, List.isEmpty_eq_false_iff, beq_eq_false_iff_ne]
        at hremark
      exact ⟨hremark.1, hremark.2, hemptied⟩
  · intro key
    rw [hread]
    exact setting?_foldl_put ..

/-- A line without a value between two drivers: it is what is wrong, the last driver stays, and the
text with an empty line there reads the same. -/
theorem read_isolates_between_drivers :
    (read "driver = a\nnoise\ndriver = b").2 = [⟨2, .noEquals "noise"⟩] ∧
    (read "driver = a\nnoise\ndriver = b").1.setting? .driver = some (.driver "b") ∧
    read "driver = a\n\ndriver = b" = ((read "driver = a\nnoise\ndriver = b").1, []) := by
  obtain ⟨-, hline, -, -, herrors, hsetting⟩ := read_isolates "driver = a\nnoise\ndriver = b"
  have hnoise : (read "driver = a\nnoise\ndriver = b").2 = [⟨2, .noEquals "noise"⟩] :=
    herrors.trans (by decide +kernel)
  refine ⟨hnoise, (hsetting .driver).trans (by decide +kernel), ?_⟩
  have hat := (hline ⟨2, .noEquals "noise"⟩ (by simp [hnoise])).2 "driver = a\n".toList
    "noise".toList "\ndriver = b".toList (by decide +kernel)
    ⟨.inr (by decide +kernel), by decide +kernel,
      .inr ⟨"driver = b".toList, .inl (by decide +kernel)⟩⟩
    (by decide +kernel)
  simpa [hnoise] using hat.2.2

end Config

end Testbench
