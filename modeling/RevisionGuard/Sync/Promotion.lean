import RevisionGuard.Layout
import RevisionGuard.Sync.Fault

/-!
# The last known good pointer

The pointer is a link to the manifest of the last revision that became healthy.
Promoting a revision makes the pointer lead to its manifest and removes the
guard's own marker, so that the host tears the guard down.  Both may be repeated
after an interruption.
-/

namespace RevisionGuard

namespace Promotion

/-- Why the pointer cannot be made to lead to a revision. -/
def linkFault (layout : Layout) (revision : Revision) (fault : FileFault) : SyncFault :=
  .link layout.lastKnownGood (layout.revisionedManifest revision) fault

/-- Remove a pointer that leads somewhere. -/
def clear (layout : Layout) : Sync Unit := do
  let link := layout.lastKnownGood
  if ← Sync.fileExists link then
    Sync.file link (.remove link)
    Sync.log .info .fallback
      ("Removed existing last known good revision manifest " ++ link.text)

/-- Make the link where nothing is in its place. -/
def makeLink (layout : Layout) (revision : Revision) : Sync Unit := do
  match ← Program.file (.symlink (layout.revisionedManifest revision) layout.lastKnownGood) with
  | .ok () => return ()
  | .error fault => throw (linkFault layout revision fault)

/-- Replace what is in the place of the link, if it leads nowhere: a pointer to
a manifest that was pruned still takes the path. -/
def replaceDangling (layout : Layout) (revision : Revision) (fault : FileFault) :
    Sync Unit := do
  let link := layout.lastKnownGood
  if ← Sync.fileExists link then throw (linkFault layout revision fault)
  else
    Sync.file link (.remove link)
    Sync.log .warn .fallback ("Removed dangling last known good link " ++ link.text)
    makeLink layout revision

/-- Make the link, in place of a dangling one if need be. -/
def place (layout : Layout) (revision : Revision) : Sync Unit := do
  match ← Program.file (.symlink (layout.revisionedManifest revision) layout.lastKnownGood) with
  | .ok () => return ()
  | .error fault =>
    if fault.isAlreadyExists then replaceDangling layout revision fault
    else throw (linkFault layout revision fault)

def createdText (layout : Layout) (revision : Revision) : String :=
  "Created a symlink " ++ layout.lastKnownGood.text ++ " for " ++
    (layout.revisionedManifest revision).text

/-- Make the pointer lead to the manifest of a revision.  A strict call removes
a pointer that leads somewhere first.  A pointer that leads nowhere is replaced
in any case, and a directory in its place never. -/
def createLastKnownGood (layout : Layout) (revision : Revision) (strict : Bool) : Sync Unit := do
  if strict then clear layout
  place layout revision
  Sync.log .info .fallback (createdText layout revision)

/-- The log text of the removal of the guard's marker. -/
def markerRemovedText (layout : Layout) : String :=
  "Removed the startup monitor marker " ++ layout.selfMarker.text

/-- Record a revision as the last known good one and remove the guard's
marker. -/
def promote (layout : Layout) (revision : Revision) : Sync Unit := do
  createLastKnownGood layout revision true
  if ← Sync.removeIfExists layout.selfMarker then
    Sync.log .info .fallback (markerRemovedText layout)

end Promotion

end RevisionGuard
