import Testbench.Text.CaseTable

/-!
# Letter case

* `foldChar` : the first character of a character's lower case; what two characters are compared
  by when case does not matter.
* `lower`, `upper` : a whole text in lower or upper case. One character may become several, and
  a capital sigma at the end of a word becomes a final sigma.
* `asciiLower` : only the letters A to Z change.
-/

namespace Testbench.Text

/-- The lower case of one character on its own. -/
def lowerChar (c : Char) : List Char :=
  if c = '\u0130' then ['i', '\u0307'] else [mapByRuns lowerRuns c]

/-- The first character of `lowerChar c`. -/
def foldChar (c : Char) : Char :=
  if c = '\u0130' then 'i' else mapByRuns lowerRuns c

/-- The upper case of one character. -/
def upperChar (c : Char) : List Char :=
  match upperExpansions.lookup c.toNat with
  | some image => image.map Char.ofNat
  | none => [mapByRuns upperRuns c]

/-- Whether the first character that matters is a letter with case. -/
def meetsCased (s : List Char) : Bool :=
  match s.dropWhile caseIgnorable.contains with
  | [] => false
  | c :: _ => cased.contains c

/-- Lower case of a text that follows `before`, which is given backwards. -/
def lowerAfter (before : List Char) : List Char → List Char
  | [] => []
  | c :: rest =>
    if c = 'Σ' then
      (if meetsCased before && !meetsCased rest then 'ς' else 'σ') :: lowerAfter (c :: before) rest
    else lowerChar c ++ lowerAfter (c :: before) rest

def lower (s : List Char) : List Char := lowerAfter [] s

def upper (s : List Char) : List Char := s.flatMap upperChar

/-- Lower case of the letters A to Z; every other character stays. -/
def asciiLower (s : String) : String := String.ofList (s.toList.map Char.toLower)

/-- Whether two texts are equal but for the case of the letters A to Z. -/
def sameAscii (s t : String) : Bool :=
  s.utf8ByteSize == t.utf8ByteSize && asciiLower s == asciiLower t

theorem lowerChar_head? (c : Char) : (lowerChar c).head? = some (foldChar c) := by
  unfold lowerChar foldChar
  split <;> rfl

@[simp] theorem upper_nil : upper [] = [] := rfl

@[simp] theorem upper_append (s t : List Char) : upper (s ++ t) = upper s ++ upper t := by
  simp [upper]

end Testbench.Text
