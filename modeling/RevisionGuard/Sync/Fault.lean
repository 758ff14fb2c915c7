import RevisionGuard.Files.Call
import RevisionGuard.Pod
import RevisionGuard.Program

/-!
# Why a sync fails

A sync fails because of a file operation, a manifest, or what it finds in place
of the files it expects.  No failure is final: the next sync starts over.
-/

namespace RevisionGuard

/-- Why a sync fails. -/
inductive SyncFault where
  | file (path : Path) (fault : FileFault)
  | manifest (path : Path) (fault : Pod.Fault)
  /-- A directory is where a file or a link is expected. -/
  | notAPointer (path : Path)
  /-- A directory of the target is not named like a revision's. -/
  | revisionFormat (name : String)
  /-- A directory is named like a revision's but for the revision. -/
  | revisionNumeral (name : String) (fault : Numeral.Fault)
  | link (pointer target : Path) (fault : FileFault)
  /-- There is no time between two syncs. -/
  | noProbeInterval
  deriving DecidableEq, Repr

def SyncFault.message : SyncFault → String
  | .file path fault => path.text ++ ": " ++ fault.message
  | .manifest path fault => path.text ++ ": " ++ fault.message
  | .notAPointer path =>
    "the provided path " ++ path.text ++ " is incorrect and points to a directory"
  | .revisionFormat name =>
    "unable to extract revision from " ++ name ++ " due to incorrect format"
  | .revisionNumeral name fault =>
    "unable to parse revision of " ++ name ++ ": " ++ fault.message
  | .link pointer target fault =>
    "failed to create a symbolic link " ++ quoted pointer.text ++ " for " ++ quoted target.text ++
      " due to " ++ fault.message
  | .noProbeInterval => "probe interval cannot be 0"

/-- A program that may fail like a sync. -/
abbrev Sync (α : Type) : Type := ExceptT SyncFault Program α

namespace Sync

variable {α : Type}

def file (path : Path) (call : FileCall) : Sync call.Result := do
  match ← Program.file call with
  | .ok result => return result
  | .error fault => throw (.file path fault)

def log (level : LogLevel) (source : LogSource) (text : String) : Sync Unit :=
  Program.log level source text

/-- Use a manifest found at a path. -/
def manifest (path : Path) : Except Pod.Fault α → Sync α
  | .ok result => return result
  | .error fault => throw (.manifest path fault)

/-- Whether a path leads to something other than a directory.  A directory in
its place is a failure and never removed. -/
def fileExists (path : Path) : Sync Bool := do
  match ← Program.file (.stat path) with
  | .ok true => throw (.notAPointer path)
  | .ok false => return true
  | .error fault => if fault.isNotFound then return false else throw (.file path fault)

/-- Remove what is at a path, and return whether there was anything. -/
def removeIfExists (path : Path) : Sync Bool := do
  match ← Program.file (.remove path) with
  | .ok () => return true
  | .error fault => if fault.isNotFound then return false else throw (.file path fault)

end Sync

end RevisionGuard
