import Testbench.Text.FoldTable

/-!
# Letter case that does not matter

Two characters differ only in case if they have the same simple case folding, which is the
representative of such characters.

* `CharSet.anyCase` : a set together with every character that differs from a member only in case.
* `CharSet.anyAsciiCase` : the same for the letters A to Z alone.
-/

namespace Testbench.Text.CharSet

/-- The set with the images of its members under each of the maps. -/
def withImages (maps : List CaseRun) (s : CharSet) : CharSet :=
  ofRuns (s ++ maps.flatMap fun r => r.images s)

/-- From representatives to the characters that they represent. -/
def unfoldRuns : List CaseRun := foldRuns.map CaseRun.inverse

/-- The set with every character that differs from a member only in case: the representatives
come in first, then all that they represent. -/
def anyCase (s : CharSet) : CharSet := (s.withImages foldRuns).withImages unfoldRuns

/-- The set with the letters A to Z in both cases where it holds one of them. -/
def anyAsciiCase (s : CharSet) : CharSet :=
  s.withImages [⟨0x41, 0x5A, 1, 32⟩, ⟨0x61, 0x7A, 1, -32⟩]

end Testbench.Text.CharSet
