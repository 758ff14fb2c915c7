import RevisionGuard.Dictionary
import RevisionGuard.Text.Numeral
import RevisionGuard.Text.Quoted
import RevisionGuard.Yaml.Fault
import RevisionGuard.Yaml.Value

/-!
# Static pod manifests

A manifest as the installer writes it.  Only the fields that the guard reads or
changes have a type of their own; all others are kept as they are, so that a
manifest that is read and written again loses nothing.

The revision of a pod is written in a label (`Pod.revision`).  A manifest that
is republished gets a new identity and a note of the revision that failed
(`Pod.republished`).
-/

namespace RevisionGuard

/-- What is said of a pod as a whole. -/
structure Metadata where
  name : String
  podNamespace : Option String
  /-- The identity of the pod: the node agent replaces a pod whose identity
  changes. -/
  uid : Option String
  labels : Dictionary String
  annotations : Dictionary String
  /-- The fields that the guard has no use for. -/
  extra : Dictionary Yaml.Value

/-- The manifest of a static pod. -/
structure Pod where
  apiVersion : String
  kind : String
  metadata : Metadata
  spec : Yaml.Value
  /-- The fields that the guard has no use for. -/
  extra : Dictionary Yaml.Value

namespace Pod

/-- Why a manifest cannot be used. -/
inductive Fault where
  | decode (fault : Yaml.Fault)
  | encode
  | missingRevision (name : String)
  | emptyRevision (name : String)
  | invalidRevision (name value : String)
  deriving DecidableEq, Repr

/-- What is said of a value that has no written form. -/
def unwritableText : String := "expected SCALAR, SEQUENCE-START, MAPPING-START, or ALIAS"

def Fault.message : Fault → String
  | .decode fault => "failed to decode pod manifest: " ++ fault.message
  | .encode => "failed to encode pod manifest: " ++ unwritableText
  | .missingRevision name => "pod " ++ name ++ " doesn't have revision label"
  | .emptyRevision name => "empty revision label on " ++ name ++ " pod"
  | .invalidRevision name value =>
    "invalid revision label on pod " ++ name ++ ": " ++ quoted value

def revisionLabel : String := "revision"

/-- The annotation of a republished manifest that names the revision which did
not become healthy. -/
def fallbackAnnotation : String := "fallback-for-revision"

def revision (pod : Pod) : Except Fault Revision :=
  match pod.metadata.labels.get? revisionLabel with
  | none => .error (.missingRevision pod.metadata.name)
  | some value =>
    if value.isEmpty then .error (.emptyRevision pod.metadata.name)
    else
      match Numeral.parse value with
      | .ok revision => .ok revision
      | .error _ => .error (.invalidRevision pod.metadata.name value)

def annotate (pod : Pod) (key value : String) : Pod :=
  { pod with
    metadata := { pod.metadata with annotations := pod.metadata.annotations.insert key value } }

def withUid (pod : Pod) (uid : String) : Pod :=
  { pod with metadata := { pod.metadata with uid := some uid } }

/-- The manifest that is put in place of a revision that did not become
healthy. -/
def republished (pod : Pod) (failed : Revision) (uid : String) : Pod :=
  (pod.annotate fallbackAnnotation failed.text).withUid uid

/-- Whether two manifests say the same. -/
def same (pod other : Pod) : Bool :=
  let sameFields (left right : Dictionary Yaml.Value) : Bool :=
    left.entries.map Prod.fst = right.entries.map Prod.fst &&
      Yaml.Value.sameItems (left.entries.map Prod.snd) (right.entries.map Prod.snd)
  pod.apiVersion = other.apiVersion && pod.kind = other.kind &&
    pod.metadata.name = other.metadata.name &&
    pod.metadata.podNamespace = other.metadata.podNamespace &&
    pod.metadata.uid = other.metadata.uid &&
    pod.metadata.labels.entries = other.metadata.labels.entries &&
    pod.metadata.annotations.entries = other.metadata.annotations.entries &&
    sameFields pod.metadata.extra other.metadata.extra &&
    pod.spec.same other.spec && sameFields pod.extra other.extra

end Pod

end RevisionGuard
