import RevisionGuard.Pod
import RevisionGuard.Yaml.Written

/-!
# Writing manifests

A manifest is written with its known fields first, in a fixed order, and the
other fields behind them in the order of their names.  Fields that are absent or
empty are left out.
-/

namespace RevisionGuard

namespace Pod

open Yaml

def field (name : String) (value : Value) : Value × Value := (.text name, value)

/-- A field that is left out if it is absent. -/
def optionalField (name : String) : Option String → List (Value × Value)
  | none => []
  | some text => [field name (.text text)]

/-- A field of texts under texts, which is left out if it is empty. -/
def textsField (name : String) (texts : Dictionary String) : List (Value × Value) :=
  if texts.isEmpty then []
  else [field name (.mapping (texts.entries.map fun (key, value) => field key (.text value)))]

def extraFields (fields : Dictionary Value) : List (Value × Value) :=
  fields.entries.map fun (name, value) => field name value

def metadataFields (metadata : Metadata) : List (Value × Value) :=
  field "name" (.text metadata.name) :: optionalField "namespace" metadata.podNamespace ++
    optionalField "uid" metadata.uid ++ textsField "labels" metadata.labels ++
    textsField "annotations" metadata.annotations ++ extraFields metadata.extra

/-- A field that is left out if it is null, with or without a tag. -/
def specField (value : Value) : List (Value × Value) :=
  if value.isNull then [] else [field "spec" value]

def fields (pod : Pod) : List (Value × Value) :=
  [field "apiVersion" (.text pod.apiVersion), field "kind" (.text pod.kind),
    field "metadata" (.mapping (metadataFields pod.metadata))] ++
    specField pod.spec ++ extraFields pod.extra

def toText (pod : Pod) : Except Fault String :=
  match Value.write? pod.fields with
  | some text => .ok text
  | none => .error .encode

end Pod

end RevisionGuard
