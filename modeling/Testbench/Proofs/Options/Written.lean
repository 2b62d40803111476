import Mathlib.Data.List.Perm.Basic
import Testbench.Options

/-!
# Arguments as they are written

The arguments of the program are flags and, behind `--` or right behind the flags, the script and
its arguments. Letters behind a hyphen say flags; the last of them can take the rest of its argument
or the argument behind it, whatever these look like. The first argument that is not taken and starts
with no hyphen, or is one, is the script, and nothing behind it is a flag.

* `Flag`, `put` : one flag, and what is known with it.
* `Letters`, `Said`, `Tail` : the letters of one argument, a row of flags, and what is behind it.
* `Letters.readFrom_eq`, `Said.readFrom_eq` : one argument with flags, and a row of them, are read
  whatever is behind them.
* `read_eq_ok_iff` : **the arguments that can be read, and what they say.**
* `Flag.written`, `flags`, `words` : how all that can be said is written, one flag at a time.
* `exists_read_iff` : **what can be said.**
* `exists_front_of_read` : nothing from the script on is a flag.
* `read_written` : **what is written is read back, up to the script and behind it.**
-/

set_option autoImplicit false

namespace Testbench.Options

/-! ## Flags -/

/-- One flag. -/
inductive Flag where
  | debug
  | quiet
  | skip
  | file (path : String)
  | command (text : String)
  deriving DecidableEq, Repr

/-- What is known with one more flag. -/
def put (o : Options) : Flag → Options
  | .debug => { o with debug := true }
  | .quiet => { o with quiet := true }
  | .skip => { o with config := .skip }
  | .file path => { o with config := .file path }
  | .command text => { o with command := some text }

section

variable {o o' : Options} {flags more : List Flag} {words : List String}

theorem withScript_put (o : Options) (flag : Flag) (words : List String) :
    (o.put flag).withScript words = (o.withScript words).put flag := by
  cases flag <;> rfl

theorem withScript_foldl_put (o : Options) (flags : List Flag) (words : List String) :
    (flags.foldl put o).withScript words = flags.foldl put (o.withScript words) := by
  induction flags generalizing o with
  | nil => rfl
  | cons flag flags ih => rw [List.foldl_cons, List.foldl_cons, ih, withScript_put]

/-! ## Rows of flags -/

/-- The letters of an argument and the arguments behind it that they take say these flags. -/
inductive Letters : List Char → List String → List Flag → Prop where
  | nil : Letters [] [] []
  | debug {letters : List Char} {taken : List String} {flags : List Flag}
      (h : Letters letters taken flags) : Letters ('d' :: letters) taken (.debug :: flags)
  | quiet {letters : List Char} {taken : List String} {flags : List Flag}
      (h : Letters letters taken flags) : Letters ('q' :: letters) taken (.quiet :: flags)
  | skip : Letters ['f'] [] [.skip]
  | file (c : Char) (path : List Char) :
      Letters ('f' :: c :: path) [] [.file (String.ofList (c :: path))]
  | command (text : String) : Letters ['c'] [text] [.command text]
  | attached (c : Char) (text : List Char) :
      Letters ('c' :: c :: text) [] [.command (String.ofList (c :: text))]

/-- Arguments that say flags, one group of letters after the other. -/
inductive Said : List Flag → List String → Prop where
  | nil : Said [] []
  | cons {argument : String} {letter : Char} {letters : List Char} {taken rest : List String}
      {flags more : List Flag} (hargument : argument.toList = '-' :: letter :: letters)
      (hletters : Letters (letter :: letters) taken flags) (hrest : Said more rest) :
      Said (flags ++ more) (argument :: (taken ++ rest))

/-- An argument that ends the flags without `--`. -/
def IsPlain (argument : String) : Prop := ¬ ['-'] <+: argument.toList ∨ argument = "-"

instance : DecidablePred IsPlain := fun _ => inferInstanceAs (Decidable (_ ∨ _))

/-- How a script and its arguments, the words, stand behind flags. -/
inductive Tail : List String → List String → Prop where
  | nothing : Tail [] []
  | marked (words : List String) : Tail words ("--" :: words)
  | plain {name : String} (h : IsPlain name) (args : List String) :
      Tail (name :: args) (name :: args)

variable {letter : Char} {letters : List Char} {taken rest rest' front tail arguments : List String}

theorem Letters.readLetters_eq (h : Letters letters taken flags) (o : Options)
    (rest : List String) :
    readLetters o (taken ++ rest) letters = .ok (flags.foldl put o, rest) := by
  induction h generalizing o with
  | debug _ ih => exact ih { o with debug := true }
  | quiet _ ih => exact ih { o with quiet := true }
  | _ => rfl

theorem exists_letters_of_readLetters (h : readLetters o rest letters = .ok (o', rest')) :
    ∃ taken flags, Letters letters taken flags ∧ rest = taken ++ rest' ∧
      o' = flags.foldl put o := by
  fun_induction readLetters o rest letters with
  | case1 =>
    cases h
    exact ⟨[], [], .nil, rfl, rfl⟩
  | case2 o letters ih =>
    obtain ⟨taken, flags, hl, hrest, ho⟩ := ih h
    exact ⟨taken, .debug :: flags, .debug hl, hrest, ho⟩
  | case3 o letters ih =>
    obtain ⟨taken, flags, hl, hrest, ho⟩ := ih h
    exact ⟨taken, .quiet :: flags, .quiet hl, hrest, ho⟩
  | case4 =>
    cases h
    exact ⟨[], [.skip], .skip, rfl, rfl⟩
  | case5 o path hpath =>
    cases h
    obtain ⟨c, path, rfl⟩ := List.exists_cons_of_ne_nil hpath
    exact ⟨[], _, .file c path, rfl, rfl⟩
  | case6 => cases h
  | case7 o command rest =>
    cases h
    exact ⟨[command], _, .command command, ‹_›, rfl⟩
  | case8 o text htext =>
    cases h
    obtain ⟨c, text, rfl⟩ := List.exists_cons_of_ne_nil htext
    exact ⟨[], _, .attached c text, rfl, rfl⟩
  | case9 => cases h

/-- What stands behind the hyphen of a flag is not another one alone. -/
theorem Letters.ne_hyphen (h : Letters letters taken flags) : letters ≠ ['-'] := by
  rintro rfl
  cases h

/-! ## All arguments -/

theorem isPlain_iff {argument : String} :
    IsPlain argument ↔ ∀ letter letters, argument.toList ≠ '-' :: letter :: letters := by
  unfold IsPlain
  constructor
  · rintro (h | rfl) letter letters heq
    · exact h (heq ▸ ⟨letter :: letters, rfl⟩)
    · cases heq
  · intro h
    by_cases hhyphen : ['-'] <+: argument.toList
    · obtain ⟨letters, hletters⟩ := hhyphen
      cases letters with
      | nil => exact .inr (String.toList_inj.mp hletters.symm)
      | cons letter letters => exact absurd hletters.symm (h letter letters)
    · exact .inl hhyphen

/-- One argument with flags, and what they take. -/
theorem Letters.readFrom_eq {argument : String} (h : Letters (letter :: letters) taken flags)
    (hargument : argument.toList = '-' :: letter :: letters) (o : Options) (rest : List String) :
    readFrom o (argument :: (taken ++ rest)) = readFrom (flags.foldl put o) rest := by
  have hread := h.readLetters_eq o rest
  rw [readFrom]
  split
  · rename_i hmark
    rw [hmark] at hargument
    cases hargument
    exact absurd rfl h.ne_hyphen
  · rename_i hflags
    rw [hargument] at hflags
    cases hflags
    split
    · rename_i hok
      rw [hread] at hok
      cases hok
      rfl
    · rename_i herror
      rw [hread] at herror
      cases herror
  · rename_i hplain
    exact absurd hargument (hplain letter letters)

/-- Flags are read whatever is behind them. -/
theorem Said.readFrom_eq (h : Said flags front) (o : Options) (tail : List String) :
    readFrom o (front ++ tail) = readFrom (flags.foldl put o) tail := by
  induction h generalizing o with
  | nil => rfl
  | cons hargument hletters _ ih =>
    rw [List.cons_append, List.append_assoc, hletters.readFrom_eq hargument, ih, List.foldl_append]

theorem Tail.readFrom_eq (h : Tail words tail) (ho : o.withScript [] = o) :
    readFrom o tail = .ok (o.withScript words) := by
  cases h with
  | nothing => rw [readFrom, ho]
  | marked =>
    rw [readFrom]
    rfl
  | @plain name h args =>
    rw [readFrom]
    split
    · rename_i hmark
      exact absurd hmark (isPlain_iff.mp h '-' [])
    · rename_i hflags
      exact absurd hflags (isPlain_iff.mp h _ _)
    · rfl

theorem exists_said_of_readFrom (h : readFrom o arguments = .ok o') (ho : o.withScript [] = o) :
    ∃ flags front words tail, Said flags front ∧ Tail words tail ∧ arguments = front ++ tail ∧
      o' = (flags.foldl put o).withScript words := by
  fun_induction readFrom o arguments with
  | case1 o =>
    cases h
    exact ⟨[], [], [], [], .nil, .nothing, rfl, ho.symm⟩
  | case2 o argument rest hmark =>
    cases h
    obtain rfl : argument = "--" := String.toList_inj.mp hmark
    exact ⟨[], [], rest, _, .nil, .marked rest, rfl, rfl⟩
  | case3 o argument rest letter letters hmark hflags o₁ rest' hread _ ih =>
    obtain ⟨taken, flags, hletters, rfl, rfl⟩ := exists_letters_of_readLetters hread
    have hbare : (flags.foldl put o).withScript [] = flags.foldl put o := by
      rw [withScript_foldl_put, ho]
    obtain ⟨more, front, words, tail, hsaid, htail, rfl, rfl⟩ := ih h hbare
    refine ⟨flags ++ more, _, words, tail, .cons hflags hletters hsaid, htail, ?_, ?_⟩
    · rw [List.cons_append, List.append_assoc]
    · rw [List.foldl_append]
  | case4 => cases h
  | case5 o argument rest _ hflags =>
    cases h
    have hplain : IsPlain argument := isPlain_iff.mpr fun letter letters => hflags letter letters
    exact ⟨[], [], _, _, .nil, .plain hplain rest, rfl, rfl⟩

/-- **The arguments that can be read.** They are flags and what may stand behind flags, and they
say what the flags say, the last one of a kind, with the script behind them. -/
theorem read_eq_ok_iff :
    read arguments = .ok o ↔
      ∃ flags front words tail, Said flags front ∧ Tail words tail ∧ arguments = front ++ tail ∧
        o = (flags.foldl put {}).withScript words := by
  constructor
  · intro h
    exact exists_said_of_readFrom h rfl
  · rintro ⟨flags, front, words, tail, hsaid, htail, rfl, rfl⟩
    have hbare : (flags.foldl put {}).withScript [] = flags.foldl put {} := by
      rw [withScript_foldl_put]
      rfl
    rw [read, hsaid.readFrom_eq, htail.readFrom_eq hbare]

end

/-! ## Writing -/

/-- The arguments that say a flag on its own. -/
def Flag.written : Flag → List String
  | debug => ["-d"]
  | quiet => ["-q"]
  | skip => ["-f"]
  | file path => ["-f" ++ path]
  | command text => ["-c", text]

/-- The flag that chooses the settings, if one is needed. -/
def Flag.ofChoice? : ConfigChoice → Option Flag
  | .search => none
  | .skip => some .skip
  | .file path => some (.file path)

/-- The flags that say what is known. -/
def flags (o : Options) : List Flag :=
  (if o.debug then [.debug] else []) ++ (if o.quiet then [.quiet] else []) ++
    (Flag.ofChoice? o.config).toList ++ (o.command.map .command).toList

/-- The script and its arguments. -/
def words (o : Options) : List String := o.script.toList ++ o.scriptArgs

/-- What arguments can say: a file has a name, and only a script has arguments of its own. -/
structure Coherent (o : Options) : Prop where
  file_ne : o.config ≠ .file ""
  args_eq : o.script = none → o.scriptArgs = []

variable {o : Options} {row : List Flag} {flag flag' : Flag}

/-- The flags of what is known are those that add nothing to it. -/
theorem mem_flags_iff : flag ∈ o.flags ↔ o.put flag = o := by
  obtain ⟨config, command, debug, quiet, script, args⟩ := o
  cases flag <;> cases config <;> simp [flags, put, Flag.ofChoice?, eq_comm]

/-- Two flags that say what is known can change places. -/
theorem put_put_comm (h : o.put flag = o) (h' : o.put flag' = o) (s : Options) :
    (s.put flag).put flag' = (s.put flag').put flag := by
  -- two flags of one kind are the same, and two of different kinds do not meet
  cases flag <;> cases flag' <;> grind [put]

theorem foldl_put_flags (o : Options) : o.flags.foldl put {} = o.withScript [] := by
  obtain ⟨config, command, debug, quiet, script, args⟩ := o
  cases config <;> cases command <;> cases debug <;> cases quiet <;> rfl

theorem foldl_put_perm (h : row.Perm o.flags) : row.foldl put {} = o.withScript [] := by
  rw [← foldl_put_flags]
  refine h.foldl_eq' (fun flag hflag flag' hflag' s => ?_) ({} : Options)
  exact put_put_comm (mem_flags_iff.mp (h.subset hflag)) (mem_flags_iff.mp (h.subset hflag')) s

theorem withScript_words (h : o.Coherent) : (o.withScript []).withScript o.words = o := by
  obtain ⟨config, command, debug, quiet, script, args⟩ := o
  cases script with
  | none =>
    obtain rfl : args = [] := h.args_eq rfl
    rfl
  | some name => rfl

theorem Flag.said (h : flag ≠ .file "") : Said [flag] flag.written := by
  cases flag with
  | debug => exact .cons rfl (.debug .nil) .nil
  | quiet => exact .cons rfl (.quiet .nil) .nil
  | skip => exact .cons rfl .skip .nil
  | command text => exact .cons rfl (.command text) .nil
  | file path =>
    cases hpath : path.toList with
    | nil =>
      rw [String.toList_eq_nil_iff.mp hpath] at h
      exact absurd rfl h
    | cons c letters =>
      have hwritten : ("-f" ++ path).toList = '-' :: 'f' :: c :: letters := by
        rw [String.toList_append, hpath]
        rfl
      have hfile := Said.cons hwritten (.file c letters) .nil
      rw [← hpath, String.ofList_toList] at hfile
      exact hfile

theorem Said.append {flags more : List Flag} {front rest : List String} (h : Said flags front)
    (h' : Said more rest) : Said (flags ++ more) (front ++ rest) := by
  induction h with
  | nil => exact h'
  | cons hargument hletters _ ih =>
    have hall := Said.cons hargument hletters ih
    rwa [← List.append_assoc, ← List.append_assoc] at hall

theorem said_flatMap (h : ∀ flag ∈ row, flag ≠ .file "") : Said row (row.flatMap Flag.written) := by
  induction row with
  | nil => exact .nil
  | cons flag row ih =>
    obtain ⟨hflag, hrow⟩ := List.forall_mem_cons.mp h
    exact (Flag.said hflag).append (ih hrow)

theorem Coherent.ne_of_mem_flags (h : o.Coherent) (hflag : flag ∈ o.flags) : flag ≠ .file "" := by
  rintro rfl
  exact h.file_ne (congrArg config (mem_flags_iff.mp hflag)).symm

/-- Flags in any order are read back, with what is behind them. -/
theorem read_flags {tail : List String} (ho : o.Coherent) (hrow : row.Perm o.flags)
    (htail : Tail o.words tail) : read (row.flatMap Flag.written ++ tail) = .ok o := by
  have hsaid : Said row (row.flatMap Flag.written) :=
    said_flatMap fun flag hflag => ho.ne_of_mem_flags (hrow.subset hflag)
  refine read_eq_ok_iff.mpr ⟨row, _, o.words, tail, hsaid, htail, rfl, ?_⟩
  rw [foldl_put_perm hrow, withScript_words ho]

theorem Coherent.tail_words (ho : o.Coherent) (h : ∀ name, o.script = some name → IsPlain name) :
    Tail o.words o.words := by
  unfold words
  cases hs : o.script with
  | none =>
    rw [ho.args_eq hs]
    exact .nothing
  | some name => exact .plain (h name hs) o.scriptArgs

/-! ## What can be said -/

theorem Letters.ne_file {letters : List Char} {taken : List String} {flags : List Flag}
    (h : Letters letters taken flags) : ∀ flag ∈ flags, flag ≠ .file "" := by
  induction h with
  | nil => simp
  | debug _ ih => exact List.forall_mem_cons.mpr ⟨Flag.noConfusion, ih⟩
  | quiet _ ih => exact List.forall_mem_cons.mpr ⟨Flag.noConfusion, ih⟩
  | file c path => simp [String.ofList_eq_empty_iff]
  | skip | command | attached => simp

theorem Said.ne_file {flags : List Flag} {front : List String} (h : Said flags front) :
    ∀ flag ∈ flags, flag ≠ .file "" := by
  induction h with
  | nil => simp
  | cons _ hletters _ ih => exact List.forall_mem_append.mpr ⟨hletters.ne_file, ih⟩

theorem config_foldl_put_ne (h : ∀ flag ∈ row, flag ≠ .file "") (ho : o.config ≠ .file "") :
    (row.foldl put o).config ≠ .file "" := by
  induction row generalizing o with
  | nil => exact ho
  | cons flag row ih =>
    obtain ⟨hflag, hrow⟩ := List.forall_mem_cons.mp h
    refine ih hrow ?_
    cases flag with
    | file path =>
      intro hpath
      cases hpath
      exact hflag rfl
    | skip => exact ConfigChoice.noConfusion
    | debug | quiet | command => exact ho

/-- **What can be said** is what is coherent, and nothing else. -/
theorem exists_read_iff : (∃ arguments, read arguments = .ok o) ↔ o.Coherent := by
  constructor
  · rintro ⟨arguments, h⟩
    obtain ⟨flags, front, words, tail, hsaid, htail, rfl, rfl⟩ := read_eq_ok_iff.mp h
    refine ⟨config_foldl_put_ne hsaid.ne_file (o := {}) ConfigChoice.noConfusion, fun hnone => ?_⟩
    obtain rfl : words = [] := List.head?_eq_none_iff.mp hnone
    rfl
  · intro ho
    exact ⟨_, read_flags ho (.refl _) (.marked _)⟩

/-! ## The script and what is behind it -/

/-- What is in front of a script stays in front of others. -/
theorem Tail.exists_front {name : String} {args tail : List String} (h : Tail (name :: args) tail) :
    ∃ front, tail = front ++ name :: args ∧ Tail [] front ∧
      ∀ other args, other = name ∨ IsPlain other → Tail (other :: args) (front ++ other :: args) := by
  cases h with
  | marked => exact ⟨["--"], rfl, .marked [], fun other args _ => .marked _⟩
  | plain hname =>
    refine ⟨[], rfl, .nothing, ?_⟩
    rintro other args (rfl | hother)
    · exact .plain hname args
    · exact .plain hother args

/-- Nothing from the script on is a flag: what is in front of it says the rest, and any arguments
can stand behind it, as can another script in its place. -/
theorem exists_front_of_read {arguments : List String} {name : String}
    (h : read arguments = .ok o) (hname : o.script = some name) :
    ∃ front, arguments = front ++ name :: o.scriptArgs ∧ read front = .ok (o.withScript []) ∧
      ∀ other args, other = name ∨ IsPlain other →
        read (front ++ other :: args) = .ok (o.withScript (other :: args)) := by
  obtain ⟨flags, front, words, tail, hsaid, htail, rfl, rfl⟩ := read_eq_ok_iff.mp h
  obtain ⟨args, rfl⟩ : ∃ args, words = name :: args := List.head?_eq_some_iff.mp hname
  obtain ⟨ends, rfl, hends, hother⟩ := htail.exists_front
  refine ⟨front ++ ends, (List.append_assoc ..).symm, ?_, fun other args h => ?_⟩
  · exact read_eq_ok_iff.mpr ⟨flags, front, [], ends, hsaid, hends, rfl, rfl⟩
  · rw [List.append_assoc]
    exact read_eq_ok_iff.mpr ⟨flags, front, _, _, hsaid, hother other args h, rfl, rfl⟩

/-- **What is written is read back.** Whatever can be said, its flags can be written in any order,
each on its own, with the script and its arguments behind `--`, or right behind them if the script
starts with no hyphen or is one. In all arguments that can be read, what is in front of the script
says all but the script, and what is behind it are its arguments as they stand. -/
theorem read_written (ho : o.Coherent) (hrow : row.Perm o.flags) :
    read (row.flatMap Flag.written ++ "--" :: o.words) = .ok o ∧
    ((∀ name, o.script = some name → IsPlain name) →
      read (row.flatMap Flag.written ++ o.words) = .ok o) ∧
    ∀ (arguments : List String) (o : Options) (name : String),
      read arguments = .ok o → o.script = some name →
      ∃ front, arguments = front ++ name :: o.scriptArgs ∧ read front = .ok (o.withScript []) ∧
        ∀ other args, other = name ∨ IsPlain other →
          read (front ++ other :: args) = .ok (o.withScript (other :: args)) :=
  ⟨read_flags ho hrow (.marked o.words), fun h => read_flags ho hrow (ho.tail_words h),
    fun _ _ _ => exists_front_of_read⟩

/-- Flags from the last to the first, with texts that look like other flags. -/
theorem read_written_imitations :
    let o : Options := ⟨.file "-d", some "--", false, true, some "-", ["-q", "--", "-c"]⟩
    o.Coherent ∧ [.quiet, .command "--", .file "-d"].Perm o.flags ∧ IsPlain "-" ∧
      read ["-q", "-c", "--", "-f-d", "--", "-", "-q", "--", "-c"] = .ok o ∧
      read ["-q", "-c", "--", "-f-d", "-", "-q", "--", "-c"] = .ok o ∧
      ∃ front, ["-q", "-c", "--", "-f-d", "-", "-q", "--", "-c"] = front ++ "-" :: o.scriptArgs ∧
        read front = .ok (o.withScript []) := by
  intro o
  have ho : o.Coherent := ⟨by decide, fun h => absurd h (by decide)⟩
  have hrow : [.quiet, .command "--", .file "-d"].Perm o.flags := by decide
  have hplain : IsPlain "-" := by decide
  obtain ⟨hmarked, hbare, hfront⟩ := read_written ho hrow
  have hread : read ["-q", "-c", "--", "-f-d", "-", "-q", "--", "-c"] = .ok o := by
    refine hbare fun name hname => ?_
    obtain rfl : "-" = name := Option.some.inj hname
    exact hplain
  obtain ⟨front, harguments, hothers, -⟩ := hfront _ _ _ hread rfl
  exact ⟨ho, hrow, hplain, hmarked, hread, front, harguments, hothers⟩

end Testbench.Options
