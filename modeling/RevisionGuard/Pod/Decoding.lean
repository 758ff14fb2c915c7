import RevisionGuard.Pod
import RevisionGuard.Yaml.Decode

/-!
# Reading manifests

A manifest is a mapping.  Its known fields are read as what they are to be, and
each may come only once; all other fields are kept, the last of those with the
same name.  The fields may come in any order, so they are collected first, and
what is missing is noticed at the end.
-/

namespace RevisionGuard

namespace Pod

open Yaml Yaml.Decoder

/-- The fields without a use, once all is read: no mapping among them has a key
twice. -/
def otherFields (fields : List (String × Value)) : Decoder (Dictionary Value) := do
  fields.forM fun (_, value) => distinct value
  return Dictionary.ofList fields

/-- The fields of the metadata that have been met. -/
structure MetadataDraft where
  name : Option String := none
  podNamespace : Option (Option String) := none
  uid : Option (Option String) := none
  labels : Option (List (String × String)) := none
  annotations : Option (List (String × String)) := none
  /-- The fields without a use, in reverse. -/
  extra : List (String × Value) := []

def MetadataDraft.read (scope : Scope) (draft : MetadataDraft) (entry : Node × Node) :
    Decoder MetadataDraft := do
  let (keyNode, node) := entry
  let key ← text "field identifier" scope keyNode
  let inside := scope.valueOf keyNode
  match key with
  | "name" =>
    return { draft with name := ← fill key draft.name (text "a string" inside node) }
  | "namespace" =>
    let read := Decoder.optional (text "a string") inside node
    return { draft with podNamespace := ← fill key draft.podNamespace read }
  | "uid" =>
    let read := Decoder.optional (text "a string") inside node
    return { draft with uid := ← fill key draft.uid read }
  | "labels" => return { draft with labels := ← fill key draft.labels (texts inside node) }
  | "annotations" =>
    return { draft with annotations := ← fill key draft.annotations (texts inside node) }
  | _ =>
    let value ← Decoder.value .loose inside node
    return { draft with extra := (key, value) :: draft.extra }

def MetadataDraft.finish (draft : MetadataDraft) : Decoder Metadata := do
  let name ← require "name" draft.name
  let extra ← otherFields draft.extra.reverse
  return {
    name := name
    podNamespace := draft.podNamespace.join
    uid := draft.uid.join
    labels := Dictionary.ofList (draft.labels.getD [])
    annotations := Dictionary.ofList (draft.annotations.getD [])
    extra := extra }

def decodeMetadata : Scope → Node → Decoder Metadata :=
  mapping "struct ObjectMeta" fun scope entries => do
    let draft ← entries.foldlM (MetadataDraft.read scope) {}
    draft.finish

/-- The fields of a manifest that have been met. -/
structure Draft where
  apiVersion : Option String := none
  kind : Option String := none
  metadata : Option Metadata := none
  spec : Option Value := none
  /-- The fields without a use, in reverse. -/
  extra : List (String × Value) := []

def Draft.read (scope : Scope) (draft : Draft) (entry : Node × Node) : Decoder Draft := do
  let (keyNode, node) := entry
  let key ← text "field identifier" scope keyNode
  let inside := scope.valueOf keyNode
  match key with
  | "apiVersion" =>
    return { draft with apiVersion := ← fill key draft.apiVersion (text "a string" inside node) }
  | "kind" => return { draft with kind := ← fill key draft.kind (text "a string" inside node) }
  | "metadata" =>
    return { draft with metadata := ← fill key draft.metadata (decodeMetadata inside node) }
  | "spec" =>
    return { draft with spec := ← fill key draft.spec (Decoder.value .exact inside node) }
  | _ =>
    let value ← Decoder.value .loose inside node
    return { draft with extra := (key, value) :: draft.extra }

def Draft.finish (draft : Draft) : Decoder Pod := do
  let apiVersion ← require "apiVersion" draft.apiVersion
  let kind ← require "kind" draft.kind
  let metadata ← require "metadata" draft.metadata
  let extra ← otherFields draft.extra.reverse
  return ⟨apiVersion, kind, metadata, draft.spec.getD .null, extra⟩

def decodeNode : Scope → Node → Decoder Pod :=
  mapping "struct PodManifest" fun scope entries => do
    let draft ← entries.foldlM (Draft.read scope) {}
    draft.finish

def ofDocument (document : Document) : Except Fault Pod :=
  (document.decode decodeNode).mapError .decode

def ofBytes (contents : Bytes) : Except Fault Pod :=
  ofDocument (Document.ofSource (Source.ofBytes contents))

end Pod

end RevisionGuard
