import RevisionGuard.Pod.Decoding
import RevisionGuard.Pod.Encoding
import RevisionGuard.Sync.Archive
import RevisionGuard.Sync.Promotion

/-!
# Falling back

A revision that does not become healthy in time is replaced by the last known
good one: its manifest is read through the pointer and republished under a new
identity.  Without a pointer the archive's previous revision becomes the last
known good one first.  The active manifest is removed only once its replacement
has been read, and is then written at once.
-/

namespace RevisionGuard

namespace Fallback

/-- What a fallback did. -/
inductive Outcome where
  /-- The last known good manifest was republished in place of a revision. -/
  | restored (failed : Revision)
  | noCandidate
  deriving DecidableEq, Repr

def manifestMode : Nat := 0o644

def noPreviousText (layout : Layout) : String :=
  "Unable to roll back because no previous revision has been found for " ++ layout.target

/-- The log text when the previous revision is not older than the one that
failed. -/
def notOlderText (previous failed : Revision) : String :=
  "Previous revision " ++ previous.text ++ " is not older than the watched revision " ++
    failed.text ++ ", falling back to it anyway"

def noManifestText (manifest : Path) (previous : Revision) : String :=
  "Unable to roll back because a manifest " ++ quoted manifest.text ++
    " hasn't been found for the previous revision " ++ previous.text

/-- Make the pointer lead to the previous revision if that has a manifest, and
return whether it does. -/
def adopt (layout : Layout) (previous : Revision) : Sync Bool := do
  let manifest := layout.revisionedManifest previous
  if ← Sync.fileExists manifest then
    Promotion.createLastKnownGood layout previous false
    return true
  else
    Sync.log .info .fallback (noManifestText manifest previous)
    return false

/-- Make sure that the pointer exists, and return whether it does. -/
def ensurePointer (layout : Layout) (failed : Revision) : Sync Bool := do
  if ← Sync.fileExists layout.lastKnownGood then return true
  else
    match ← Archive.previousRevision layout with
    | none =>
      Sync.log .info .fallback (noPreviousText layout)
      return false
    | some previous =>
      if failed ≤ previous then Sync.log .warn .fallback (notOlderText previous failed)
      adopt layout previous

def readCandidate (layout : Layout) : Sync Pod := do
  let contents ← Sync.file layout.lastKnownGood (.read layout.lastKnownGood)
  Sync.manifest layout.lastKnownGood (Pod.ofBytes contents)

/-- Write a text where the active manifest was. -/
def writeActive (layout : Layout) (text : String) : Sync Unit := do
  let active := layout.activeManifest
  Sync.log .info .fallback ("Writing a static pod manifest " ++ quoted active.text)
  Sync.log .debug .fallback text
  Sync.file active (.write active (Utf8.ofText text) manifestMode)

/-- Put a manifest in place of the active one.  The old one is removed first, so
that whoever watches the file sees a new one. -/
def publish (layout : Layout) (pod : Pod) : Sync Unit := do
  let active := layout.activeManifest
  if ← Sync.removeIfExists active then
    Sync.log .info .fallback ("Removed existing static pod manifest " ++ quoted active.text)
  writeActive layout (← Sync.manifest active pod.toText)

/-- Republish the last known good manifest because a revision did not become
healthy in time. -/
def run (layout : Layout) (failed : Revision) : Sync Outcome := do
  if ← ensurePointer layout failed then
    let pod ← readCandidate layout
    let uid ← (Program.freshUid : Sync String)
    publish layout (pod.republished failed uid)
    return .restored failed
  else return .noCandidate

end Fallback

end RevisionGuard
