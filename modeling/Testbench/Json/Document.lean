import Testbench.Json.Reader
import Testbench.Json.Printer
import Testbench.Json.Xml

/-!
# Documents

`Json.Document` is a parsed text with the questions that scripts ask of it, on strings.
-/

namespace Testbench.Json

/-- A text and its tree. -/
structure Document where
  mode : Mode
  source : String
  root : Node
  deriving Repr

namespace Document

def parse (mode : Mode) (source : String) : Except Error Document :=
  (read mode source.toList).map fun root => ⟨mode, source, root⟩

/-- The number of nodes. -/
def size (d : Document) : Nat := d.root.size

def get? (d : Document) (path : String) : Option String :=
  (d.root.get? path.toList).map String.ofList

def findKey? (d : Document) (spec : String) (start count : Nat) : Option Nat :=
  d.root.findKey? spec.toList start count

def dump (d : Document) (o : Overrides) : String := String.ofList (d.root.dump o)

def toXml (d : Document) (tag : Option String) : String :=
  String.ofList (d.root.toXml (tag.map String.toList))

end Document

end Testbench.Json
