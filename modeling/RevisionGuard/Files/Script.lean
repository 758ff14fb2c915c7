import RevisionGuard.Files.Call

/-!
# Scripted answers

A script says what file operations are answered with, for each operation and
path: a list of replies that are given one after the other, the last one again
and again.  A list without a path is for every path that has none of its own.
An operation without a list fails.
-/

namespace RevisionGuard

/-- The kinds of file operations. -/
inductive FileOperation where
  | stat
  | read
  | write
  | remove
  | symlink
  | list
  deriving DecidableEq, Repr

namespace FileCall

def operation : FileCall → FileOperation
  | .stat _ => .stat
  | .read _ => .read
  | .write _ _ _ => .write
  | .remove _ => .remove
  | .symlink _ _ => .symlink
  | .list _ => .list

/-- The path that an operation is about; making a link is about the link. -/
def path : FileCall → Path
  | .stat path => path
  | .read path => path
  | .write path _ _ => path
  | .remove path => path
  | .symlink _ link => link
  | .list path => path

end FileCall

/-- One reply of a script. -/
inductive Reply where
  | failure (fault : FileFault)
  | kind (isDir : Bool)
  | contents (bytes : Bytes)
  | listing (entries : List DirEntry)
  | done

namespace Reply

/-- The failure of an operation that its script says nothing of. -/
def unexpected (path : Path) : FileFault :=
  .worded .other ("unexpected path " ++ path.text)

/-- A reply as the answer to an operation.  A reply of another kind of operation
is no answer to it. -/
def answer : Reply → (call : FileCall) → call.Answer
  | .failure fault, _ => .error fault
  | .kind isDir, .stat _ => .ok isDir
  | .contents bytes, .read _ => .ok bytes
  | .listing entries, .list _ => .ok entries
  | .done, .write _ _ _ => .ok ()
  | .done, .remove _ => .ok ()
  | .done, .symlink _ _ => .ok ()
  | _, call => .error (unexpected call.path)

end Reply

/-- The replies for an operation on a path, or on every path without replies of
its own. -/
structure Script.Row where
  operation : FileOperation
  path : Option Path
  replies : List Reply

/-- The scripted answers of a whole file system. -/
structure Script where
  rows : List Script.Row

namespace Script

def Row.isFor (row : Row) (operation : FileOperation) (path : Option Path) : Bool :=
  row.operation = operation && row.path = path

/-- A row after one of its replies has been given; the last one stays. -/
def Row.advance (row : Row) : Row :=
  match row.replies with
  | _ :: next :: others => { row with replies := next :: others }
  | _ => row

/-- Replace the rows of a script that another script has too. -/
def merge (script newer : Script) : Script :=
  let kept := script.rows.filter fun row =>
    !newer.rows.any fun other => other.isFor row.operation row.path
  ⟨kept ++ newer.rows⟩

def row? (script : Script) (call : FileCall) : Option Row :=
  match script.rows.find? fun row => row.isFor call.operation (some call.path) with
  | some row => some row
  | none => script.rows.find? fun row => row.isFor call.operation none

def answer (call : FileCall) (script : Script) : call.Answer × Script :=
  match script.row? call with
  | none => (.error (Reply.unexpected call.path), script)
  | some row =>
    match row.replies with
    | [] => (.error (Reply.unexpected call.path), script)
    | reply :: _ =>
      let advance (other : Row) : Row :=
        if other.isFor row.operation row.path then other.advance else other
      (reply.answer call, ⟨script.rows.map advance⟩)

end Script

end RevisionGuard
