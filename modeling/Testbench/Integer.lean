import Testbench.Text.Blank
import Testbench.Text.Digits

/-!
# Integers as scripts write them

An integer is written in decimal, or in hexadecimal after `0x` or `0X`, with at most one sign, and
white space around it does not count. Its magnitude is at most `2 ^ 63 - 1`.

* `Integer.read?` : the integer that a text denotes, if it denotes one.
* `Integer.readSize?` : the same for counts and sizes, which are not negative.
-/

namespace Testbench.Integer

open Text

/-- The largest magnitude that can be written, `2 ^ 63 - 1`. -/
def maxMagnitude : Nat := 9223372036854775807

/-- A magnitude that is not too large: decimal digits, or `0x` and hexadecimal digits. -/
def magnitude? (s : List Char) : Option Nat :=
  match s with
  | '0' :: 'x' :: digits => readNatUpTo? 16 maxMagnitude digits
  | '0' :: 'X' :: digits => readNatUpTo? 16 maxMagnitude digits
  | digits => readNatUpTo? 10 maxMagnitude digits

/-- A text split into whether it starts with a minus sign and what follows its sign. -/
def splitSign (s : List Char) : Bool × List Char :=
  match s with
  | '-' :: rest => (true, rest)
  | '+' :: rest => (false, rest)
  | rest => (false, rest)

/-- The integer that `s` denotes. -/
def read? (s : String) : Option Int :=
  let (negative, digits) := splitSign (trim s.toList)
  (magnitude? digits).map fun n => if negative then -(n : Int) else n

/-- The integer that `s` denotes, if it is not negative. -/
def readSize? (s : String) : Option Nat :=
  (read? s).bind Int.toNat?

/-- The exit codes: the integers of 32 bits. -/
def isExitCode (n : Int) : Bool := decide (-2147483648 ≤ n) && decide (n ≤ 2147483647)

end Testbench.Integer
