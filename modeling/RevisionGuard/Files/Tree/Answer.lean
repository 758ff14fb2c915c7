import RevisionGuard.Files.Call
import RevisionGuard.Files.Tree

/-!
# File operations on a tree

What each file operation does to a tree.  Reading and writing follow a link at
the end of a path; removing and making a link are about the entry itself.  An
operation that fails leaves the tree as it is (`answer_error`).
-/

namespace RevisionGuard

namespace Tree

/-- Whether a path leads to a directory or to a file. -/
def stat (tree : Tree) (path : Path) : Except FileFault Bool := do
  match tree.at? (← tree.resolve false path) with
  | some .directory => return true
  | some (.file _ _) => return false
  | _ => throw .noSuchEntry

def read (tree : Tree) (path : Path) : Except FileFault Bytes := do
  match tree.at? (← tree.resolve false path) with
  | some (.file contents _) => return contents
  | some .directory => throw .isADirectory
  | _ => throw .noSuchEntry

def list (tree : Tree) (path : Path) : Except FileFault (List DirEntry) := do
  let location ← tree.resolve false path
  tree.enter location
  return (tree.children location).map fun (name, entry) =>
    ⟨String.ofList name, entry.isDirectory⟩

def modeBits : Nat := 0o10000

/-- Make the bytes the contents of the file that a path leads to.  A file that
is there keeps its permission bits. -/
def write (tree : Tree) (path : Path) (contents : Bytes) (mode : Nat) :
    Except FileFault Tree := do
  let location ← tree.resolve true path
  match tree.at? location with
  | some (.file _ kept) => return tree.set location (.file contents kept)
  | none => return tree.set location (.file contents (mode % modeBits))
  | some _ => throw .isADirectory

def remove (tree : Tree) (path : Path) : Except FileFault Tree := do
  path.check
  let (directory, last) ← tree.resolveParent path
  match last with
  | none => throw .isADirectory
  | some (name, slash) =>
    match tree.at? (name :: directory) with
    | none => throw .noSuchEntry
    | some .directory => throw .isADirectory
    | some _ => if slash then throw .notADirectory else return tree.erase (name :: directory)

def symlink (tree : Tree) (target link : Path) : Except FileFault Tree := do
  if link.text.toList.contains '\x00' then throw .nulInPath
  target.check
  link.check
  let (directory, last) ← tree.resolveParent link
  match last with
  | none => throw .entryExists
  | some (name, slash) =>
    match tree.at? (name :: directory) with
    | some _ => throw .entryExists
    | none =>
      if slash then throw .noSuchEntry
      else return tree.set (name :: directory) (.link target)

/-- The answer and the tree after an operation that changes the tree if it
succeeds. -/
def settle (tree : Tree) : Except FileFault Tree → Except FileFault Unit × Tree
  | .ok changed => (.ok (), changed)
  | .error fault => (.error fault, tree)

def answer (call : FileCall) (tree : Tree) : call.Answer × Tree :=
  match call with
  | .stat path => (tree.stat path, tree)
  | .read path => (tree.read path, tree)
  | .list path => (tree.list path, tree)
  | .write path contents mode => tree.settle (tree.write path contents mode)
  | .remove path => tree.settle (tree.remove path)
  | .symlink target link => tree.settle (tree.symlink target link)

/-- An operation that fails leaves the tree as it is. -/
theorem answer_error {call : FileCall} {tree : Tree} {fault : FileFault}
    (hfault : (tree.answer call).1 = .error fault) : (tree.answer call).2 = tree := by
  cases call with
  | stat path => rfl
  | read path => rfl
  | list path => rfl
  | write path contents mode =>
      simp only [answer] at hfault ⊢
      cases hwrite : tree.write path contents mode <;> simp_all [settle]
  | remove path =>
      simp only [answer] at hfault ⊢
      cases hremove : tree.remove path <;> simp_all [settle]
  | symlink target link =>
      simp only [answer] at hfault ⊢
      cases hsymlink : tree.symlink target link <;> simp_all [settle]

end Tree

end RevisionGuard
