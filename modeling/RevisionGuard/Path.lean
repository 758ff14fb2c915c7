/-!
# Paths

A path is a text.  It names the same thing as another path if both have the
same components: repeated separators, a separator at the end, and dots that are
not in front make no difference.  `Path.join` puts a relative path behind a
path; an absolute path replaces it.
-/

namespace RevisionGuard

/-- The name of a file, a directory or a link. -/
structure Path where
  text : String
  deriving DecidableEq, Repr

namespace Path

/-- One component of a path. -/
inductive Component where
  | root
  /-- A dot in front of a relative path. -/
  | here
  | parent
  | entry (name : List Char)
  deriving DecidableEq, Repr

/-- Split a text at every separator; there is always a first piece. -/
def pieces : List Char → List (List Char)
  | [] => [[]]
  | letter :: rest =>
    if letter = '/' then [] :: pieces rest
    else
      match pieces rest with
      | [] => [[letter]]
      | piece :: others => (letter :: piece) :: others

def startsAtRoot (letters : List Char) : Bool := letters.head? = some '/'

def component? (piece : List Char) : Option Component :=
  if piece = [] ∨ piece = ['.'] then none
  else if piece = ['.', '.'] then some .parent
  else some (.entry piece)

def components (path : Path) : List Component :=
  let letters := path.text.toList
  let split := pieces letters
  let front : List Component :=
    if startsAtRoot letters then [.root] else if split.head? = some ['.'] then [.here] else []
  front ++ split.filterMap component?

def same (path other : Path) : Bool := path.components = other.components

def isAbsolute (path : Path) : Bool := startsAtRoot path.text.toList

/-- Put a path behind another: an absolute path replaces it, a relative one
follows after one separator. -/
def join (path behind : Path) : Path :=
  if behind.isAbsolute then behind
  else
    let letters := path.text.toList
    if letters = [] ∨ letters.getLast? = some '/' then ⟨path.text ++ behind.text⟩
    else ⟨path.text ++ "/" ++ behind.text⟩

end Path

end RevisionGuard
