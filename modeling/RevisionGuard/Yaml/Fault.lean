import RevisionGuard.Text.Quoted
import RevisionGuard.Yaml.Defect
import RevisionGuard.Yaml.Source

/-!
# Why a document cannot be used

A document is unreadable, malformed, or not what is asked for.  In the last
case a `Mismatch` says what does not fit, and a `Place` where in the document
that is.
-/

namespace RevisionGuard

namespace Yaml

/-- One step from a node into its contents. -/
inductive PathStep where
  | item (position : Nat)
  | value (key : String)
  /-- The value of a key that is no scalar. -/
  | unnamed
  deriving DecidableEq, Repr

/-- The text of the steps that lead to a node, the innermost first. -/
def pathText : List PathStep → String
  | [] => "."
  | .item position :: outer => pathText outer ++ "[" ++ Numeral.text position ++ "]"
  | .value key :: outer => (if outer.isEmpty then "" else pathText outer ++ ".") ++ key
  | .unnamed :: outer => (if outer.isEmpty then "" else pathText outer ++ ".") ++ "?"

/-- A place in a document: the steps that lead there, and the mark. -/
structure Place where
  path : List PathStep
  mark : Mark
  deriving DecidableEq, Repr

/-- What was found where something else was expected. -/
inductive Found where
  | nothing
  | boolean (value : Bool)
  | integer (value : Int)
  /-- An integer beyond 64 bits, with the width that holds it. -/
  | wideInteger (value : Int) (width : String)
  | float (text : String)
  | text (value : String)
  | sequence
  | mapping
  deriving DecidableEq, Repr

def integerText : Int → String
  | .ofNat value => Numeral.text value
  | .negSucc value => "-" ++ Numeral.text (value + 1)

/-- What a message says was found. -/
def Found.description : Found → String
  | .nothing => "unit value"
  | .boolean value => "boolean `" ++ (if value then "true" else "false") ++ "`"
  | .integer value => "integer `" ++ integerText value ++ "`"
  | .wideInteger value width => "integer `" ++ integerText value ++ "` as " ++ width
  | .float decimal => "floating point `" ++ decimal ++ "`"
  | .text value => "string " ++ quoted value
  | .sequence => "sequence"
  | .mapping => "map"

/-- What does not fit in a document. -/
inductive Mismatch where
  | invalidType (found : Found) (expected : String)
  /-- A text does not have the form that its tag asks for. -/
  | invalidValue (text : String) (expected : String)
  | missingField (name : String)
  | duplicateField (name : String)
  | unknownField (name : String) (known : List String)
  /-- A mapping has a key twice; the key is described. -/
  | duplicateEntry (key : String)
  /-- A tag stands where none can be kept. -/
  | misplacedTag
  deriving DecidableEq, Repr

def Mismatch.text : Mismatch → String
  | .invalidType found expected =>
    "invalid type: " ++ found.description ++ ", expected " ++ expected
  | .invalidValue text expected =>
    "invalid value: string " ++ quoted text ++ ", expected " ++ expected
  | .missingField name => "missing field `" ++ name ++ "`"
  | .duplicateField name => "duplicate field `" ++ name ++ "`"
  | .unknownField name known =>
    "unknown field `" ++ name ++ "`, expected one of " ++
      String.intercalate ", " (known.map fun field => "`" ++ field ++ "`")
  | .duplicateEntry key => "duplicate entry " ++ key
  | .misplacedTag => "untagged and internally tagged enums do not support enum input"

/-- Why a document cannot be used. -/
inductive Fault where
  | unreadable (fault : ByteFault)
  | malformed (defect : Defect)
  /-- A reference names no anchor in front of it. -/
  | unknownAnchor (mark : Mark)
  | noValue
  | severalDocuments
  | tooDeep (mark : Mark)
  | tooManyReferences
  | mismatch (cause : Mismatch) (place : Option Place)
  deriving DecidableEq, Repr

namespace Fault

def message : Fault → String
  | .unreadable fault => fault.message
  | .malformed defect => defect.message
  | .unknownAnchor mark => "unknown anchor" ++ mark.suffix
  | .noValue => "EOF while parsing a value"
  | .severalDocuments =>
    "deserializing from YAML containing more than one document is not supported"
  | .tooDeep mark => "recursion limit exceeded" ++ mark.suffix
  | .tooManyReferences => "repetition limit exceeded"
  | .mismatch cause none => cause.text
  | .mismatch cause (some place) =>
    let path := pathText place.path
    (if path = "." then "" else path ++ ": ") ++ cause.text ++ place.mark.suffix

/-- Say where a mismatch is, unless that has been said. -/
def locate (place : Place) : Fault → Fault
  | .mismatch cause none => .mismatch cause (some place)
  | fault => fault

end Fault

end Yaml

end RevisionGuard
