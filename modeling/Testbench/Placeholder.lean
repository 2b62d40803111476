import Testbench.Text.Cut

/-!
# Placeholders

A placeholder `${source:argument}` in a token is replaced by the value that its source gives for
its argument. The text between its braces is expanded first, and a value put in its place is read
again. Both kinds of repetition are bounded: placeholders nest at most `maxNesting` deep, and at
most `maxSubstitutions` are replaced in one text.

* `Placeholder.body?` : the text of a placeholder up to its closing brace, if it is closed.
* `Placeholder.next?` : the first closed placeholder of a text.
* `Placeholder.next?_open` : an opening `${` that nothing closes is passed over.
* `Placeholder.Host` : what expansion asks of the program around it.
* `Placeholder.expand` : a token with its placeholders replaced.
-/

namespace Testbench.Placeholder

open Text

/-- Placeholders are expanded inside at most this many others. -/
def maxNesting : Nat := 32

/-- Placeholders replaced in one text, those inside others not counted. -/
def maxSubstitutions : Nat := 1024

/-- A bound that stopped the expansion of a text. -/
inductive Limit where
  | nesting (text : String)
  | substitutions (text : String)
  deriving DecidableEq, Repr

def Limit.message : Limit → String
  | .nesting text => s!"placeholder nesting deeper than {maxNesting}: {text}"
  | .substitutions text => s!"too many substitutions in: {text}"

/-- What expansion asks of the program around it, whose state is a `σ`: the value of a source for
an argument, if it has one, and a note of each bound that was reached. -/
structure Host (σ : Type) where
  resolve : (source argument : String) → σ → Option String × σ
  report : Limit → σ → σ

/-- The text up to the brace that closes a placeholder inside `depth` more, and the text after
that brace. Every `${` inside asks for one more brace. -/
def body? : (depth : Nat) → List Char → Option (List Char × List Char)
  | _, [] => none
  | depth, '$' :: '\x7b' :: rest =>
    (body? (depth + 1) rest).map fun p => ('$' :: '\x7b' :: p.1, p.2)
  | 0, '\x7d' :: rest => some ([], rest)
  | depth + 1, '\x7d' :: rest => (body? depth rest).map fun p => ('\x7d' :: p.1, p.2)
  | depth, c :: rest => (body? depth rest).map fun p => (c :: p.1, p.2)

/-- A text around its first closed placeholder. -/
structure Found where
  before : List Char
  body : List Char
  after : List Char
  deriving DecidableEq, Repr

/-- The same placeholder with more text in front. -/
def Found.precede (s : List Char) (f : Found) : Found := { f with before := s ++ f.before }

/-- The number of closing braces that are free for a `${` in front of a text, and the first closed
placeholder in the text: what comes before its `${` and what comes after that. Every part of the
text is looked at once. -/
def survey : List Char → Nat × Option (List Char × List Char)
  | [] => (0, none)
  | '$' :: '\x7b' :: rest =>
    match survey rest with
    | (0, found) => (0, found.map fun f => ('$' :: '\x7b' :: f.1, f.2))
    | (free + 1, _) => (free, some ([], rest))
  | c :: rest =>
    let (free, found) := survey rest
    (if c = '\x7d' then free + 1 else free, found.map fun f => (c :: f.1, f.2))

/-- The first closed placeholder, in one look at every part of the text. -/
def surveyed? (s : List Char) : Option Found :=
  (survey s).2.bind fun (before, inside) =>
    (body? 0 inside).map fun (body, after) => ⟨before, body, after⟩

/-- The first closed placeholder. An opening `${` that nothing closes is ordinary text; after the
first of them it pays to look at all of the text at once. -/
def next? : List Char → Option Found
  | [] => none
  | '$' :: '\x7b' :: rest =>
    match body? 0 rest with
    | some (body, after) => some ⟨[], body, after⟩
    | none => (surveyed? rest).map (Found.precede ['$', '\x7b'])
  | c :: rest => (next? rest).map (Found.precede [c])

theorem isSome_body? (depth : Nat) (s : List Char) :
    (body? depth s).isSome = decide (depth < (survey s).1) := by
  fun_induction body? depth s with
  | case1 => simp [survey]
  | case2 depth rest ih =>
    rw [Option.isSome_map, ih, survey]
    split <;> simp_all
  | case3 rest => simp [survey]
  | case4 depth rest ih => simp [survey, ih]
  | case5 depth c rest h1 h2 h3 ih =>
    have hc : c ≠ '\x7d' := by
      rintro rfl
      cases depth with
      | zero => exact h2 rfl rfl
      | succ depth => exact h3 depth rfl rfl
    rw [Option.isSome_map, ih, survey.eq_3 c rest h1]
    simp [hc]

/-- Both ways to look find the same placeholder. -/
theorem surveyed?_eq (s : List Char) : surveyed? s = next? s := by
  fun_induction next? s with
  | case1 => rfl
  | case2 rest body after h =>
    have hs := isSome_body? 0 rest
    rw [h] at hs
    unfold surveyed?
    rw [survey]
    split <;> simp_all
  | case3 rest h =>
    have hs := isSome_body? 0 rest
    rw [h] at hs
    unfold surveyed?
    rw [survey]
    split
    · simp_all [Found.precede, Function.comp_def, Option.bind_map, Option.map_bind]
    · simp_all
  | case4 c rest h ih =>
    rw [← ih]
    unfold surveyed?
    rw [survey.eq_3 c rest h]
    simp [Found.precede, Function.comp_def, Option.bind_map, Option.map_bind]

/-- An opening `${` that nothing closes is passed over. -/
theorem next?_open {rest : List Char} (h : body? 0 rest = none) :
    next? ('$' :: '\x7b' :: rest) = (next? rest).map (Found.precede ['$', '\x7b']) := by
  rw [next?, h, surveyed?_eq]

variable {σ : Type}

/-- The value of an expanded placeholder body: its source comes before the first colon and its
argument after it. -/
def Host.value (host : Host σ) (body : List Char) (s : σ) : List Char × σ :=
  let (source, argument) := (cut? ':' body).getD (body, [])
  let (value, s) := host.resolve (String.ofList source) (String.ofList argument) s
  ((value.getD "").toList, s)

/-- Replaces at most `budget` placeholders of `text`, each after `expandBody` has expanded its
body. `whole` is the text as it was at first. -/
def substitute (host : Host σ) (expandBody : List Char → σ → List Char × σ) (whole : List Char) :
    (budget : Nat) → (text : List Char) → σ → List Char × σ
  | budget, text, s =>
    match next? text with
    | none => (text, s)
    | some found =>
      match budget with
      | 0 => (text, host.report (.substitutions (String.ofList whole)) s)
      | budget + 1 =>
        let (body, s) := expandBody found.body s
        let (value, s) := host.value body s
        let (rest, s) := substitute host expandBody whole budget (value ++ found.after) s
        (found.before ++ rest, s)

/-- Expands a text inside at most `room` more placeholders. -/
def expandWithin (host : Host σ) : (room : Nat) → List Char → σ → List Char × σ
  | 0, text, s => (text, host.report (.nesting (String.ofList text)) s)
  | room + 1, text, s => substitute host (expandWithin host room) text maxSubstitutions text s

/-- A token with its placeholders replaced. -/
def expand (host : Host σ) (token : String) (s : σ) : String × σ :=
  let (text, s) := expandWithin host maxNesting token.toList s
  (String.ofList text, s)

/-- `expand` on every token, from the first to the last. -/
def expandAll (host : Host σ) : List String → σ → List String × σ
  | [], s => ([], s)
  | token :: rest, s =>
    let (token, s) := expand host token s
    let (rest, s) := expandAll host rest s
    (token :: rest, s)

end Testbench.Placeholder
