import RevisionGuard.Layout
import RevisionGuard.Sync.Fault
import RevisionGuard.Text.Split

/-!
# The archive of revisions

The resources directory has one directory per revision of the target.  The
revision before the newest is the one to fall back to; it is not compared with
the revision that is being watched.  A directory that starts with the target's
name but is not one of its revisions' makes the lookup fail, since it may be a
revision that was misnamed.
-/

namespace RevisionGuard

namespace Archive

/-- The revision that a directory's name ends with, behind the part that the
names of all revisions' directories start with. -/
def revisionOfName (layout : Layout) (name : String) : Except SyncFault Revision :=
  match Split.pieces layout.revisionDirPrefix.toList name.toList with
  | [_, numeral] =>
    match Numeral.parse (String.ofList numeral) with
    | .ok revision => .ok revision
    | .error fault => .error (.revisionNumeral name fault)
  | _ => .error (.revisionFormat name)

/-- Whether an entry of the resources directory is taken for one of the target's
directories. -/
def isCandidate (layout : Layout) (entry : DirEntry) : Bool :=
  entry.isDir && layout.target.toList.isPrefixOf entry.name.toList

/-- The candidates are the directories whose names start with the target. -/
theorem isCandidate_iff {layout : Layout} {entry : DirEntry} :
    isCandidate layout entry = true ↔
      entry.isDir = true ∧ layout.target.toList <+: entry.name.toList := by
  rw [isCandidate, Bool.and_eq_true, List.isPrefixOf_iff_prefix]

/-- The revisions among the entries of the resources directory. -/
def revisions (layout : Layout) : List DirEntry → Sync (List Revision)
  | [] => return []
  | entry :: others =>
    if isCandidate layout entry then do
      Sync.log .debug .revision ("Considering " ++ entry.name ++ " for revision extraction")
      let revision ← liftExcept (revisionOfName layout entry.name)
      return revision :: (← revisions layout others)
    else revisions layout others
where
  liftExcept {α : Type} : Except SyncFault α → Sync α
    | .ok result => return result
    | .error fault => throw fault

def secondGreatest (revisions : List Revision) : Option Revision :=
  (revisions.mergeSort fun left right => right ≤ left)[1]?

/-- The revision before the newest, if there are two. -/
def previousRevision (layout : Layout) : Sync (Option Revision) := do
  let entries ← Sync.file layout.resourcesDir (.list layout.resourcesDir)
  return secondGreatest (← revisions layout entries)

end Archive

end RevisionGuard
