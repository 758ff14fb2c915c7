import RevisionGuard.Config
import RevisionGuard.Program
import RevisionGuard.Text.Utf8
import RevisionGuard.Yaml.Decode

/-!
# Configuration files

A configuration file is a document with some of the settings.  Durations are
kept as they are written; a name that is no setting is refused.
-/

namespace RevisionGuard

/-- The settings in a configuration file. -/
structure ConfigFile where
  target : Option String
  manifestsDir : Option Path
  resourcesDir : Option Path
  revision : Option Revision
  fallbackTimeout : Option String
  probeInterval : Option String
  readyFile : Option Path
  deriving DecidableEq, Repr

namespace ConfigFile

open Yaml Yaml.Decoder

def names : List String :=
  ["target", "manifests-dir", "resources-dir", "revision", "fallback-timeout-duration",
    "probe-interval", "ready-file"]

/-- The settings that have been met. -/
structure Draft where
  target : Option (Option String) := none
  manifestsDir : Option (Option Path) := none
  resourcesDir : Option (Option Path) := none
  revision : Option (Option Revision) := none
  fallbackTimeout : Option (Option String) := none
  probeInterval : Option (Option String) := none
  readyFile : Option (Option Path) := none

def readName (scope : Scope) (node : Node) : Decoder String := do
  let node ← follow scope node
  locatedAt (scope.place (markOf node)) do
    let name ← text "field identifier" scope node
    if names.contains name then return name else mismatch (.unknownField name names)

def readText (scope : Scope) (node : Node) : Decoder (Option String) :=
  Decoder.optional (text "a string") scope node

def readPath (scope : Scope) (node : Node) : Decoder (Option Path) := do
  return (← Decoder.optional (text "path string") scope node).map Path.mk

def readRevision (scope : Scope) (node : Node) : Decoder (Option Revision) :=
  Decoder.optional (unsigned "u64") scope node

/-- Add a setting to those met so far. -/
def Draft.read (scope : Scope) (draft : Draft) (entry : Node × Node) : Decoder Draft := do
  let (keyNode, node) := entry
  let name ← readName scope keyNode
  let inside := scope.valueOf keyNode
  match name with
  | "target" => return { draft with target := ← fill name draft.target (readText inside node) }
  | "manifests-dir" =>
    return { draft with manifestsDir := ← fill name draft.manifestsDir (readPath inside node) }
  | "resources-dir" =>
    return { draft with resourcesDir := ← fill name draft.resourcesDir (readPath inside node) }
  | "revision" =>
    return { draft with revision := ← fill name draft.revision (readRevision inside node) }
  | "fallback-timeout-duration" =>
    let read := readText inside node
    return { draft with fallbackTimeout := ← fill name draft.fallbackTimeout read }
  | "probe-interval" =>
    return { draft with probeInterval := ← fill name draft.probeInterval (readText inside node) }
  | _ => return { draft with readyFile := ← fill name draft.readyFile (readPath inside node) }

def Draft.finish (draft : Draft) : ConfigFile where
  target := draft.target.join
  manifestsDir := draft.manifestsDir.join
  resourcesDir := draft.resourcesDir.join
  revision := draft.revision.join
  fallbackTimeout := draft.fallbackTimeout.join
  probeInterval := draft.probeInterval.join
  readyFile := draft.readyFile.join

def decodeNode : Scope → Node → Decoder ConfigFile :=
  mapping "struct FileConfig" fun scope entries => do
    let draft ← entries.foldlM (Draft.read scope) {}
    return draft.finish

def ofBytes (path : Path) (contents : Bytes) : Except Config.Fault ConfigFile :=
  match Utf8.text? contents with
  | none => .error (.unreadable path .notText)
  | some _ =>
    ((Document.ofSource (Source.ofBytes contents)).decode decodeNode).mapError .undecodable

def load (path : Path) : Program (Except Config.Fault ConfigFile) := do
  match ← Program.file (.read path) with
  | .ok contents => return ofBytes path contents
  | .error fault => return .error (.unreadable path fault)

end ConfigFile

end RevisionGuard
