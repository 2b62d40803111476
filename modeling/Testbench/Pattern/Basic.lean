import Testbench.Pattern.Glob
import Testbench.Pattern.Regex.Reader
import Testbench.Pattern.Regex.Search
import Testbench.Text.Quoted

/-!
# Patterns

A pattern is a regular expression, searched in a text, or a glob, which describes whole texts
without regard to letter case.

* `Pattern.compile` : a pattern from its text, or what is wrong with that text.
* `Pattern.isMatch` : whether a text matches.
* `Pattern.isMatch_glob` : a compiled glob answers as `Glob.isMatch` does.
-/

namespace Testbench

inductive MatchMode where
  | regexp
  | glob
  deriving DecidableEq, Repr

/-- Why a text is no pattern. -/
inductive PatternError where
  | malformedRegex
  /-- A class in this glob is not closed. -/
  | openClass (glob : String)
  deriving DecidableEq, Repr

def PatternError.message : PatternError → String
  | malformedRegex => "regex error: malformed expression"
  | openClass glob => s!"glob error: unmatched '[' in {Text.quoted glob}"

/-- A pattern ready for matching. -/
inductive Pattern where
  | regexp (source : String) (expression : Regex)
  | glob (source : String) (tokens : List Glob.Token)
  deriving DecidableEq, Repr

namespace Pattern

def compile (mode : MatchMode) (source : String) : Except PatternError Pattern :=
  match mode with
  | .regexp =>
    match Regex.read? source with
    | some expression => .ok (regexp source expression)
    | none => .error .malformedRegex
  | .glob =>
    match Glob.read? source.toList with
    | some tokens => .ok (glob source tokens)
    | none => .error (.openClass source)

def mode : Pattern → MatchMode
  | regexp .. => .regexp
  | glob .. => .glob

def source : Pattern → String
  | regexp source _ => source
  | glob source _ => source

def isMatch (p : Pattern) (text : String) : Bool :=
  match p with
  | regexp _ expression => expression.isMatch text
  | glob _ tokens => Glob.matchesTokens Text.foldChar tokens text.toList

theorem isMatch_glob {source : String} {p : Pattern} (h : compile .glob source = .ok p)
    (text : String) : p.isMatch text = Glob.isMatch source text := by
  cases hr : Glob.read? source.toList with
  | none => simp [compile, hr] at h
  | some tokens =>
    simp only [compile, hr, Except.ok.injEq] at h
    subst h
    simp [isMatch, Glob.isMatch, hr]

end Pattern

end Testbench
