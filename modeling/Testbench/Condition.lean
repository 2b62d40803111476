import Testbench.Integer
import Testbench.Pattern.Basic

/-!
# Conditions

A condition is one operand, which holds unless it is empty or `0`, or two operands around a
comparison. The order comparisons are numeric when both operands are integers and otherwise by
code points; the other two match the left operand against the pattern on the right.

* `Comparison`, `Comparison.read?` : the comparisons and their spellings.
* `Condition.order` : how two operands stand to each other.
* `Condition.compare` : the answer of a comparison; `Condition.eval` : of a condition.
-/

namespace Testbench

inductive Comparison where
  | equal
  | notEqual
  | less
  | greater
  | atMost
  | atLeast
  | regexp
  | glob
  deriving DecidableEq, Repr

/-- The comparison with this spelling. -/
def Comparison.read? (s : String) : Option Comparison :=
  match s with
  | "==" => some equal
  | "!=" => some notEqual
  | "<" => some less
  | ">" => some greater
  | "<=" => some atMost
  | ">=" => some atLeast
  | "=~" => some regexp
  | "~" => some glob
  | _ => none

/-- Why a condition has no answer. -/
inductive ConditionError where
  | missing
  | malformed (operands : List String)
  | unknownOperator (text : String)
  | badPattern (error : PatternError)
  deriving DecidableEq, Repr

def ConditionError.message : ConditionError → String
  | missing => "missing condition"
  | malformed operands => "malformed condition: " ++ " ".intercalate operands
  | unknownOperator text => s!"unknown operator '{text}'"
  | badPattern error => error.message

namespace Condition

/-- How two operands stand to each other: as integers if both are, otherwise as texts. -/
def order (lhs rhs : String) : Ordering :=
  match Integer.read? lhs, Integer.read? rhs with
  | some a, some b => compareOfLessAndEq a b
  | _, _ => compareOfLessAndEq lhs rhs

/-- Whether `lhs` matches the pattern `rhs`. -/
def isMatch (mode : MatchMode) (lhs rhs : String) : Except ConditionError Bool :=
  match Pattern.compile mode rhs with
  | .ok p => .ok (p.isMatch lhs)
  | .error e => .error (.badPattern e)

/-- The answer of a comparison. -/
def compare (lhs : String) (op : Comparison) (rhs : String) : Except ConditionError Bool :=
  match op with
  | .equal => .ok (order lhs rhs == .eq)
  | .notEqual => .ok (order lhs rhs != .eq)
  | .less => .ok (order lhs rhs == .lt)
  | .greater => .ok (order lhs rhs == .gt)
  | .atMost => .ok (order lhs rhs != .gt)
  | .atLeast => .ok (order lhs rhs != .lt)
  | .regexp => isMatch .regexp lhs rhs
  | .glob => isMatch .glob lhs rhs

/-- Whether a single operand holds. -/
def isTrue (operand : String) : Bool := !operand.isEmpty && operand != "0"

/-- The answer of a condition. -/
def eval : (operands : List String) → Except ConditionError Bool
  | [] => .error .missing
  | [operand] => .ok (isTrue operand)
  | [lhs, op, rhs] =>
    match Comparison.read? op with
    | some c => compare lhs c rhs
    | none => .error (.unknownOperator op)
  | operands => .error (.malformed operands)

end Condition

end Testbench
