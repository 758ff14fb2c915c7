import RevisionGuard.Path
import RevisionGuard.Text.Numeral

/-!
# Where the files of a static pod live

The node agent runs the manifests of the manifests directory.  The installer
keeps one archived manifest per revision below the resources directory, and the
last known good pointer is a link beside them.
-/

namespace RevisionGuard

/-- The files of one static pod target. -/
structure Layout where
  /-- The name of the static pod. -/
  target : String
  /-- The directory of the manifests that the node agent runs. -/
  manifestsDir : Path
  /-- The directory of the archived manifests and of the pointer. -/
  resourcesDir : Path
  deriving DecidableEq, Repr

namespace Layout

/-- Whether two layouts have the same target and directories of the same
components. -/
def same (layout other : Layout) : Bool :=
  layout.target = other.target && layout.manifestsDir.same other.manifestsDir &&
    layout.resourcesDir.same other.resourcesDir

/-- The name that every manifest of the target has in its directory. -/
def manifestName (layout : Layout) : String := layout.target ++ "-pod.yaml"

/-- The manifest that the node agent runs now. -/
def activeManifest (layout : Layout) : Path := layout.manifestsDir.join ⟨layout.manifestName⟩

/-- The marker whose removal tells the host that the guard is done. -/
def selfMarker (layout : Layout) : Path :=
  layout.manifestsDir.join ⟨layout.target ++ "-startup-monitor.yaml"⟩

/-- What the name of a revision's directory starts with. -/
def revisionDirPrefix (layout : Layout) : String := layout.target ++ "-pod-"

def revisionDirName (layout : Layout) (revision : Revision) : String :=
  layout.revisionDirPrefix ++ revision.text

def revisionedManifest (layout : Layout) (revision : Revision) : Path :=
  (layout.resourcesDir.join ⟨layout.revisionDirName revision⟩).join ⟨layout.manifestName⟩

/-- The pointer to the manifest of the last revision that became healthy. -/
def lastKnownGood (layout : Layout) : Path :=
  layout.resourcesDir.join ⟨layout.target ++ "-last-known-good"⟩

end Layout

end RevisionGuard
