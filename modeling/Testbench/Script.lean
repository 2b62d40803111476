import Testbench.Text.Blank
import Testbench.Text.Lines

/-!
# Scripts

* `Script.ofSource` : a script from its text.
* `Script.findLabel?` : the line that carries a label, the first of several.
-/

namespace Testbench

/-- Lines, and the name that diagnostics use for them. -/
structure Script where
  name : String
  lines : Array String
  deriving DecidableEq, Repr

namespace Script

def ofSource (name source : String) : Script := ⟨name, (Text.stringLines source).toArray⟩

/-- Whether a line carries a label: it is a colon and the label, apart from white space around
it. -/
def isLabelLine (label line : String) : Bool :=
  Text.trim line.toList == ':' :: label.toList

/-- The index of the first line that carries the label. -/
def findLabel? (s : Script) (label : String) : Option Nat :=
  s.lines.findIdx? (isLabelLine label)

theorem findLabel?_lt {s : Script} {label : String} {index : Nat}
    (h : s.findLabel? label = some index) : index < s.lines.size := by
  obtain ⟨hlt, -, -⟩ := Array.findIdx?_eq_some_iff_getElem.mp h
  exact hlt

end Script

/-- Why a script cannot be had. -/
inductive ScriptError where
  | unreadable (path reason : String)
  | notFound (name : String)
  | noLoader
  deriving DecidableEq, Repr

def ScriptError.message : ScriptError → String
  | unreadable path reason => s!"cannot read {path}: {reason}"
  | notFound name => s!"no such script: {name}"
  | noLoader => "no script loader installed"

/-- Finds a script by its name. -/
abbrev Loader := String → Except ScriptError Script

end Testbench
