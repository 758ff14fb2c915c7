import RevisionGuard.Files.Fault
import RevisionGuard.Path
import RevisionGuard.Text.Utf8

/-!
# File trees

A tree of files, directories and links, as a map from locations to entries.  A
location is a list of names, the innermost first, so that the parent of a
location is its tail and the root is the empty list.

`Tree.walk` follows a path through the tree.  A link is replaced by the path
that it holds, from the directory that holds the link; only so many links are
followed.  The place where a walk ends need not hold an entry: what is missing
is noticed by the next step, or by the operation.

Names and paths are Unicode texts.  A host can also hold names that are none, which its
listings show with substitutes for what is no character; such names are left out.
-/

namespace RevisionGuard

/-- What a location of a tree holds. -/
inductive Entry where
  | file (contents : Bytes) (mode : Nat)
  | link (target : Path)
  | directory
  deriving DecidableEq

def Entry.isDirectory : Entry → Bool
  | .directory => true
  | _ => false

/-- The name of an entry in its directory. -/
abbrev EntryName : Type := List Char

/-- The names on the way from an entry to the root. -/
abbrev Location : Type := List EntryName

/-- A step of a walk. -/
inductive WalkStep where
  | into (name : EntryName)
  /-- Go to the directory above; the root is above itself. -/
  | up
  | stay
  /-- Stay in a directory, because the path ends with a separator. -/
  | slash
  deriving DecidableEq, Repr

namespace Path

/-- The step that a piece of a path stands for. -/
def step? (piece : List Char) : Option WalkStep :=
  if piece = [] then none
  else if piece = ['.'] then some .stay
  else if piece = ['.', '.'] then some .up
  else some (.into piece)

def steps (path : Path) : List WalkStep :=
  let letters := path.text.toList
  let steps := (pieces letters).filterMap step?
  if letters.getLast? = some '/' then steps ++ [.slash] else steps

/-- Where the walk of a path starts that is met in a directory. -/
def start (path : Path) (directory : Location) : Location :=
  if path.isAbsolute then [] else directory

def maxBytes : Nat := 4095

/-- A path that no operation takes, whatever the tree. -/
def check (path : Path) : Except FileFault Unit :=
  if path.text.toList.contains '\x00' then .error .nulInPath
  else if path.text.isEmpty then .error .noSuchEntry
  else if maxBytes < path.text.utf8ByteSize then .error .nameTooLong
  else .ok ()

end Path

/-- A tree of files.  The root is a directory and no entry of the list. -/
structure Tree where
  entries : List (Location × Entry)
  /-- Where relative paths start. -/
  workingDirectory : Location

namespace Tree

def empty : Tree := ⟨[], []⟩

/-- What a location holds. -/
def at? (tree : Tree) : Location → Option Entry
  | [] => some .directory
  | location => tree.entries.lookup location

/-- The tree without the entry of a location. -/
def erase (tree : Tree) (location : Location) : Tree :=
  { tree with entries := tree.entries.filter fun entry => entry.1 ≠ location }

/-- The tree with an entry at a location, in place of what was there. -/
def set (tree : Tree) (location : Location) (entry : Entry) : Tree :=
  { tree with entries := (location, entry) :: (tree.erase location).entries }

def children (tree : Tree) (directory : Location) : List (EntryName × Entry) :=
  tree.entries.filterMap fun (location, entry) =>
    match location with
    | [] => none
    | name :: parent => if parent = directory then some (name, entry) else none

/-! ## Views -/

private theorem lookup_filter_ne (entries : List (Location × Entry))
    {location other : Location} (hne : other ≠ location) :
    (entries.filter fun entry => entry.1 ≠ location).lookup other = entries.lookup other := by
  induction entries with
  | nil => rfl
  | cons entry rest ih =>
      obtain ⟨place, held⟩ := entry
      by_cases hplace : place = location
      · subst hplace
        have hother : (other == place) = false := by simpa using hne
        simpa [List.lookup_cons, hother] using ih
      · by_cases hfound : other = place
        · simp [hplace, hfound]
        · have hother : (other == place) = false := by simpa using hfound
          simpa [List.filter_cons, hplace, List.lookup_cons, hother] using ih

private theorem lookup_filter_self (entries : List (Location × Entry)) (location : Location) :
    (entries.filter fun entry => entry.1 ≠ location).lookup location = none := by
  induction entries with
  | nil => rfl
  | cons entry rest ih =>
      obtain ⟨place, held⟩ := entry
      by_cases hplace : place = location
      · simpa [List.filter_cons, hplace] using ih
      · have hother : (location == place) = false := by simpa using Ne.symm hplace
        simpa [List.filter_cons, hplace, List.lookup_cons, hother] using ih

@[simp] theorem at?_root (tree : Tree) : tree.at? [] = some .directory := rfl

/-- Erasing a location removes its entry and no other. -/
theorem at?_erase (tree : Tree) (location other : Location) (hinside : location ≠ []) :
    (tree.erase location).at? other = if other = location then none else tree.at? other := by
  match other with
  | [] => simp [at?, hinside.symm]
  | name :: parent =>
      by_cases hother : name :: parent = location
      · simp only [at?, erase, hother, if_true]
        exact hother ▸ lookup_filter_self tree.entries (name :: parent)
      · simp only [at?, erase, hother, if_false]
        exact lookup_filter_ne tree.entries hother

/-- Setting a location changes what it holds and nothing else. -/
theorem at?_set (tree : Tree) (location other : Location) (entry : Entry)
    (hinside : location ≠ []) :
    (tree.set location entry).at? other =
      if other = location then some entry else tree.at? other := by
  match other with
  | [] => simp [at?, hinside.symm]
  | name :: parent =>
      by_cases hother : name :: parent = location
      · simp [at?, set, hother]
      · have hbeq : ((name :: parent) == location) = false := by simpa using hother
        simp only [at?, set, List.lookup_cons, hbeq, hother, if_false]
        exact lookup_filter_ne tree.entries hother

@[simp] theorem workingDirectory_erase (tree : Tree) (location : Location) :
    (tree.erase location).workingDirectory = tree.workingDirectory := rfl

@[simp] theorem workingDirectory_set (tree : Tree) (location : Location) (entry : Entry) :
    (tree.set location entry).workingDirectory = tree.workingDirectory := rfl

/-! ## Walks -/

/-- How many links are followed on one walk. -/
def maxLinks : Nat := 40

def maxNameBytes : Nat := 255

def isTooLong (name : EntryName) : Bool := maxNameBytes < (String.ofList name).utf8ByteSize

/-- A walk goes on from directories only. -/
def enter (tree : Tree) (location : Location) : Except FileFault Unit :=
  match tree.at? location with
  | none => .error .noSuchEntry
  | some .directory => .ok ()
  | some _ => .error .notADirectory

/-- Walk from a location with so many links to follow; the result is the number
of links that are left and the location where the walk ends.  From where a link
leads, the walk is another one, with a link less to follow.  A walk to a file that
is to be made fails at a name behind which the path ends with a separator,
whatever has that name. -/
def walkBy (tree : Tree) (making : Bool) (links : Nat)
    (follow : Location → List WalkStep → Except FileFault (Nat × Location)) (here : Location) :
    List WalkStep → Except FileFault (Nat × Location)
  | [] => .ok (links, here)
  | step :: rest =>
    match tree.enter here with
    | .error fault => .error fault
    | .ok () =>
      match step with
      | .stay => walkBy tree making links follow here rest
      | .slash => walkBy tree making links follow here rest
      | .up => walkBy tree making links follow here.tail rest
      | .into name =>
        if making && rest = [.slash] then .error .isADirectory
        else if isTooLong name then .error .nameTooLong
        else
          match tree.at? (name :: here) with
          | some (.link target) => follow (target.start here) (target.steps ++ rest)
          | _ => walkBy tree making links follow (name :: here) rest

/-- Walk from a location with so many links to follow. -/
def walk (tree : Tree) (making : Bool) :
    Nat → Location → List WalkStep → Except FileFault (Nat × Location)
  | 0 => tree.walkBy making 0 fun _ _ => .error .tooManyLinks
  | left + 1 => tree.walkBy making (left + 1) (tree.walk making left)

/-- Walk a path from the working directory to its end. -/
def resolve (tree : Tree) (making : Bool) (path : Path) : Except FileFault Location := do
  path.check
  let (_, location) ← tree.walk making maxLinks (path.start tree.workingDirectory) path.steps
  return location

/-- The last name of a path and whether a separator follows it, behind the steps
before it.  A path that ends with dots, or with the root, has no last name. -/
def lastName (steps : List WalkStep) : List WalkStep × Option (EntryName × Bool) :=
  match steps.reverse with
  | [] => ([], none)
  | .into name :: before => (before.reverse, some (name, false))
  | .slash :: .into name :: before => (before.reverse, some (name, true))
  | _ :: before => (before.reverse, none)

/-- Walk to the directory of a path's last name, which is not followed. -/
def resolveParent (tree : Tree) (path : Path) :
    Except FileFault (Location × Option (EntryName × Bool)) := do
  let (before, last) := lastName path.steps
  let (_, directory) ← tree.walk false maxLinks (path.start tree.workingDirectory) before
  tree.enter directory
  match last with
  | some (name, _) => if isTooLong name then throw .nameTooLong
  | none => pure ()
  return (directory, last)

end Tree

end RevisionGuard
