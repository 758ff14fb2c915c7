import RevisionGuard.Yaml.Mark

/-!
# Tokens of a document

The words of the notation: indicators, the starts and ends that indentation
implies, properties of nodes, and scalars with their values.
-/

namespace RevisionGuard

namespace Yaml

/-- How a scalar is written.  Plain scalars may stand for something other than
text, and a literal block may do so under a tag. -/
inductive Style where
  | plain
  | literal
  | other
  deriving DecidableEq, Repr

/-- A tag as it is written: a handle and what follows it.  What follows may
hold escaped bytes and is kept as bytes. -/
structure TagText where
  handle : List Char
  suffix : List UInt8
  deriving DecidableEq, Repr

/-- What a token says. -/
inductive Word where
  | streamEnd
  | versionDirective (major minor : Nat)
  | tagDirective (handle : List Char) (replacement : List UInt8)
  | documentStart
  | documentEnd
  | blockSequenceStart
  | blockMappingStart
  | blockEnd
  | flowSequenceStart
  | flowSequenceEnd
  | flowMappingStart
  | flowMappingEnd
  | blockEntry
  | flowEntry
  | key
  | value
  | reference (name : List Char)
  | anchor (name : List Char)
  | tag (text : TagText)
  | scalar (text : String) (style : Style)
  deriving DecidableEq, Repr

/-- A token and where it starts and ends. -/
structure Token where
  word : Word
  first : Mark
  last : Mark
  deriving Repr

end Yaml

end RevisionGuard
