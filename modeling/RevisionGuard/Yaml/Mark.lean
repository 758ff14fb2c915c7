import RevisionGuard.Text.Numeral

/-!
# Places in a text

A mark counts the characters in front of a place, and its line and column, all
from zero.  A message counts lines and columns from one.
-/

namespace RevisionGuard

namespace Yaml

/-- A place in a text. -/
structure Mark where
  /-- The number of characters in front of the place. -/
  index : Nat
  /-- The number of line breaks in front of the place. -/
  line : Nat
  /-- The number of characters between the last line break and the place. -/
  column : Nat
  deriving DecidableEq, Repr

namespace Mark

def start : Mark := ⟨0, 0, 0⟩

/-- Whether a place is the first of the first line.  Messages leave it out. -/
def isOrigin (mark : Mark) : Bool := mark.line = 0 && mark.column = 0

/-- The place so many characters further in the same line. -/
def advance (mark : Mark) (count : Nat) : Mark :=
  { mark with index := mark.index + count, column := mark.column + count }

/-- The start of the next line, behind a break of so many characters. -/
def nextLine (mark : Mark) (width : Nat) : Mark := ⟨mark.index + width, mark.line + 1, 0⟩

/-- A place as a message names it. -/
def text (mark : Mark) : String :=
  "line " ++ Numeral.text (mark.line + 1) ++ " column " ++ Numeral.text (mark.column + 1)

/-- What a message appends to name a place. -/
def suffix (mark : Mark) : String := if mark.isOrigin then "" else " at " ++ mark.text

end Mark

end Yaml

end RevisionGuard
