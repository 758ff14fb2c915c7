import RevisionGuard.Files.Tree.Answer

/-!
# Changes from outside

What others do to a tree between the guard's operations, and how two trees
differ.  A change makes the directories that it needs.  A change that cannot be
made, such as a file in place of a directory, leaves the tree as it is.
-/

namespace RevisionGuard

/-- A change to a tree. -/
inductive Change where
  | makeDirectory (path : Path)
  /-- Make a file, or replace the contents and the permission bits of the file
  that the path leads to. -/
  | putFile (path : Path) (contents : Bytes) (mode : Nat)
  /-- Make a link, in place of a file or another link. -/
  | putLink (path target : Path)
  /-- Remove what is at the path, a directory with all that is below it. -/
  | remove (path : Path)

namespace Tree

/-- Make a directory where a walk ends, if there is nothing. -/
def makeDirectory (tree : Tree) (path : Path) (steps : List WalkStep) : Tree :=
  match tree.walk false maxLinks (path.start tree.workingDirectory) steps with
  | .ok (_, location) =>
    if (tree.at? location).isNone then tree.set location .directory else tree
  | .error _ => tree

/-- Make the directories on a walk that are missing, the outer ones first. -/
def makeDirectories (tree : Tree) (path : Path) (steps : List WalkStep) : Tree :=
  ((List.range steps.length).map fun count => steps.take (count + 1)).foldl
    (fun tree front => tree.makeDirectory path front) tree

/-- Whether a location is another one or below it. -/
def isWithin (top location : Location) : Bool := top.isSuffixOf location

/-- Remove a location and all that is below it. -/
def eraseAll (tree : Tree) (top : Location) : Tree :=
  { tree with entries := tree.entries.filter fun entry => !isWithin top entry.1 }

def apply (tree : Tree) : Change → Tree
  | .makeDirectory path => tree.makeDirectories path path.steps
  | .putFile path contents mode =>
    let tree := tree.makeDirectories path (lastName path.steps).1
    match tree.resolve true path with
    | .error _ => tree
    | .ok location =>
      match tree.at? location with
      | some .directory => tree
      | _ => tree.set location (.file contents mode)
  | .putLink path target =>
    let tree := tree.makeDirectories path (lastName path.steps).1
    match tree.resolveParent path with
    | .ok (directory, some (name, _)) =>
      match tree.at? (name :: directory) with
      | some .directory => tree
      | _ => tree.set (name :: directory) (.link target)
    | _ => tree
  | .remove path =>
    match tree.resolveParent path with
    | .ok (directory, some (name, _)) => tree.eraseAll (name :: directory)
    | _ => tree

/-- The locations at which two trees hold different entries, with what the
second holds. -/
def differences (before after : Tree) : List (Location × Option Entry) :=
  let gone := before.entries.filterMap fun (location, _) =>
    if (after.at? location).isNone then some (location, none) else none
  let changed := after.entries.filterMap fun (location, entry) =>
    if before.at? location = some entry then none else some (location, some entry)
  gone ++ changed

end Tree

end RevisionGuard
