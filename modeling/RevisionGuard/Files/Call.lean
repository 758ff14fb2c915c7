import RevisionGuard.Files.Fault
import RevisionGuard.Path
import RevisionGuard.Text.Utf8

/-!
# File operations

The file operations that the guard needs, as data: `FileCall` is a call with its
arguments, and `FileCall.Answer` the type of what it comes back with.  What a
call does to a file system is said elsewhere; whoever answers calls may also
answer them freely.
-/

namespace RevisionGuard

/-- What a directory says of one of its entries.  A link is not a directory,
wherever it leads. -/
structure DirEntry where
  name : String
  isDir : Bool
  deriving DecidableEq, Repr

/-- A file operation with its arguments. -/
inductive FileCall where
  /-- Ask whether a path leads to a directory, links followed. -/
  | stat (path : Path)
  | read (path : Path)
  /-- Make the bytes the whole contents of a file; a new file gets the permission
  bits. -/
  | write (path : Path) (contents : Bytes) (mode : Nat)
  | remove (path : Path)
  | symlink (target link : Path)
  | list (path : Path)
  deriving DecidableEq

/-- What a file operation comes back with when it succeeds. -/
abbrev FileCall.Result : FileCall → Type
  | .stat _ => Bool
  | .read _ => Bytes
  | .write _ _ _ => Unit
  | .remove _ => Unit
  | .symlink _ _ => Unit
  | .list _ => List DirEntry

/-- What a file operation comes back with. -/
abbrev FileCall.Answer (call : FileCall) : Type := Except FileFault call.Result

end RevisionGuard
