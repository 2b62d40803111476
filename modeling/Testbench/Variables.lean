import Testbench.Assoc

/-!
# Variables

A table maps names to values and lists them in the order of their names. A variable may also carry
the size of the buffer that its value stands for.

* `Variables.set`, `setSize?`, `unset` : the changes; setting a value keeps the size.
* `Variables.find?_set`, `find?_unset` : what a change does to every name.
-/

namespace Testbench

/-- A value, and the size of the buffer that it stands for, if it stands for one. -/
structure Variable where
  value : String
  byteLength : Option Nat := none
  deriving DecidableEq, Repr

/-- Variables by name, in the order of their names. -/
structure Variables where
  entries : List (String × Variable) := []
  deriving DecidableEq, Repr

namespace Variables

/-- Puts an entry at its place, or in the place of the entry with its name. -/
def insertEntry (name : String) (v : Variable) :
    List (String × Variable) → List (String × Variable)
  | [] => [(name, v)]
  | e :: rest =>
    if name = e.1 then (name, v) :: rest
    else if name < e.1 then (name, v) :: e :: rest
    else e :: insertEntry name v rest

def find? (t : Variables) (name : String) : Option Variable := t.entries.lookup name

def value? (t : Variables) (name : String) : Option String := (t.find? name).map Variable.value

def contains (t : Variables) (name : String) : Bool := (t.find? name).isSome

/-- Puts a variable into the table. -/
def insert (t : Variables) (name : String) (v : Variable) : Variables :=
  ⟨insertEntry name v t.entries⟩

/-- Gives a variable a value. Its size stays. -/
def set (t : Variables) (name value : String) : Variables :=
  t.insert name ⟨value, (t.find? name).bind Variable.byteLength⟩

/-- Gives a variable a size, if it is set. -/
def setSize? (t : Variables) (name : String) (size : Nat) : Option Variables :=
  (t.find? name).map fun v => t.insert name ⟨v.value, some size⟩

def unset (t : Variables) (name : String) : Variables :=
  ⟨t.entries.filter fun e => e.1 != name⟩

def names (t : Variables) : List String := t.entries.map Prod.fst

def size (t : Variables) : Nat := t.entries.length

def isEmpty (t : Variables) : Bool := t.entries.isEmpty

theorem lookup_insertEntry (name : String) (v : Variable) (l : List (String × Variable))
    (q : String) :
    (insertEntry name v l).lookup q = if q = name then some v else l.lookup q := by
  induction l with
  | nil => simp [insertEntry, Assoc.lookup_cons_ite]
  | cons e l ih =>
    obtain ⟨k, w⟩ := e
    unfold insertEntry
    by_cases h : name = k
    · subst h
      simp only [if_true, Assoc.lookup_cons_ite]
      split <;> rfl
    · simp only [h, if_false]
      split
      · simp [Assoc.lookup_cons_ite]
      · simp only [Assoc.lookup_cons_ite, ih]
        by_cases hq : q = k
        · have hn : ¬ q = name := fun hn => h (hn.symm.trans hq)
          simp [hq, hq ▸ hn]
        · simp [hq]

@[simp] theorem find?_insert (t : Variables) (name : String) (v : Variable) (q : String) :
    (t.insert name v).find? q = if q = name then some v else t.find? q :=
  lookup_insertEntry name v t.entries q

theorem find?_set (t : Variables) (name value : String) (q : String) :
    (t.set name value).find? q =
      if q = name then some ⟨value, (t.find? name).bind Variable.byteLength⟩ else t.find? q := by
  simp [set]

theorem find?_unset (t : Variables) (name q : String) :
    (t.unset name).find? q = if q = name then none else t.find? q := by
  by_cases h : q = name
  · simp [find?, unset, h, Assoc.lookup_filter_self]
  · simp [find?, unset, h, Assoc.lookup_filter_ne]

end Variables

end Testbench
