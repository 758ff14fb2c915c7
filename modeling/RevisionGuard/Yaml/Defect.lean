import RevisionGuard.Yaml.Mark

/-!
# Malformed documents

What can be wrong with the form of a document: a problem, the place where it
was noticed, and perhaps what was being read and where that began.  The wording
of every problem and every activity is here.
-/

namespace RevisionGuard

namespace Yaml

/-- What is wrong with the form of a text. -/
inductive Problem where
  | keyWithoutColon
  | strayCharacter
  | misplacedSequenceEntry
  | misplacedKey
  | misplacedValue
  | unknownDirective
  | noCommentOrBreak
  | noDirectiveName
  | oddDirectiveName
  | noVersionPoint
  | longVersionNumber
  | noVersionNumber
  | noBlank
  | noBlankOrBreak
  | noAnchorName
  | noTagClose
  | noTagMark
  | noTagUri
  | noEscapedOctet
  | wrongLeadOctet
  | wrongTrailOctet
  | zeroIndentation
  | tabInIndentation
  | documentInsideQuotes
  | endInsideQuotes
  | unknownEscape
  | noHexNumber
  | wrongEscapeCode
  | strayColon
  | tabBelowIndentation
  | noDocumentStart
  | undefinedTagHandle
  | noNodeContent
  | noDash
  | noKey
  | noCommaOrBracket
  | noCommaOrBrace
  | duplicateVersionDirective
  | incompatibleVersion
  | duplicateTagDirective
  deriving DecidableEq, Repr

def Problem.text : Problem → String
  | .keyWithoutColon => "could not find expected ':'"
  | .strayCharacter => "found character that cannot start any token"
  | .misplacedSequenceEntry => "block sequence entries are not allowed in this context"
  | .misplacedKey => "mapping keys are not allowed in this context"
  | .misplacedValue => "mapping values are not allowed in this context"
  | .unknownDirective => "found unknown directive name"
  | .noCommentOrBreak => "did not find expected comment or line break"
  | .noDirectiveName => "could not find expected directive name"
  | .oddDirectiveName => "found unexpected non-alphabetical character"
  | .noVersionPoint => "did not find expected digit or '.' character"
  | .longVersionNumber => "found extremely long version number"
  | .noVersionNumber => "did not find expected version number"
  | .noBlank => "did not find expected whitespace"
  | .noBlankOrBreak => "did not find expected whitespace or line break"
  | .noAnchorName => "did not find expected alphabetic or numeric character"
  | .noTagClose => "did not find the expected '>'"
  | .noTagMark => "did not find expected '!'"
  | .noTagUri => "did not find expected tag URI"
  | .noEscapedOctet => "did not find URI escaped octet"
  | .wrongLeadOctet => "found an incorrect leading UTF-8 octet"
  | .wrongTrailOctet => "found an incorrect trailing UTF-8 octet"
  | .zeroIndentation => "found an indentation indicator equal to 0"
  | .tabInIndentation => "found a tab character where an indentation space is expected"
  | .documentInsideQuotes => "found unexpected document indicator"
  | .endInsideQuotes => "found unexpected end of stream"
  | .unknownEscape => "found unknown escape character"
  | .noHexNumber => "did not find expected hexadecimal number"
  | .wrongEscapeCode => "found invalid Unicode character escape code"
  | .strayColon => "found unexpected ':'"
  | .tabBelowIndentation => "found a tab character that violates indentation"
  | .noDocumentStart => "did not find expected <document start>"
  | .undefinedTagHandle => "found undefined tag handle"
  | .noNodeContent => "did not find expected node content"
  | .noDash => "did not find expected '-' indicator"
  | .noKey => "did not find expected key"
  | .noCommaOrBracket => "did not find expected ',' or ']'"
  | .noCommaOrBrace => "did not find expected ',' or '\x7d'"
  | .duplicateVersionDirective => "found duplicate %YAML directive"
  | .incompatibleVersion => "found incompatible YAML document"
  | .duplicateTagDirective => "found duplicate %TAG directive"

/-- What was being read when a problem was noticed. -/
inductive Activity where
  | simpleKey
  | nextToken
  | directive
  | versionDirective
  | tagDirective
  | tagDirectiveMark
  | tagDirectiveHandle
  | tagDirectiveUri
  | anchor
  | reference
  | tag
  | tagUri
  | blockScalar
  | quotedScalar
  | escape
  | plainScalar
  | node
  | blockNode
  | flowNode
  | blockSequence
  | blockMapping
  | flowSequence
  | flowMapping
  deriving DecidableEq, Repr

def Activity.text : Activity → String
  | .simpleKey => "while scanning a simple key"
  | .nextToken => "while scanning for the next token"
  | .directive => "while scanning a directive"
  | .versionDirective => "while scanning a %YAML directive"
  | .tagDirective => "while scanning a %TAG directive"
  | .tagDirectiveMark => "while scanning a tag directive"
  | .tagDirectiveHandle => "while parsing a tag directive"
  | .tagDirectiveUri => "while parsing a %TAG directive"
  | .anchor => "while scanning an anchor"
  | .reference => "while scanning an alias"
  | .tag => "while scanning a tag"
  | .tagUri => "while parsing a tag"
  | .blockScalar => "while scanning a block scalar"
  | .quotedScalar => "while scanning a quoted scalar"
  | .escape => "while parsing a quoted scalar"
  | .plainScalar => "while scanning a plain scalar"
  | .node => "while parsing a node"
  | .blockNode => "while parsing a block node"
  | .flowNode => "while parsing a flow node"
  | .blockSequence => "while parsing a block collection"
  | .blockMapping => "while parsing a block mapping"
  | .flowSequence => "while parsing a flow sequence"
  | .flowMapping => "while parsing a flow mapping"

/-- A flaw in the form of a text. -/
structure Defect where
  problem : Problem
  mark : Mark
  /-- What was being read, and where that began. -/
  context : Option (Activity × Mark)
  deriving DecidableEq, Repr

namespace Defect

/-- What the message says of the activity.  The place where it began is named
only if it is not the place of the problem. -/
def contextText (defect : Defect) : String :=
  match defect.context with
  | none => ""
  | some (activity, began) =>
    ", " ++ activity.text ++
      (if began.line = defect.mark.line ∧ began.column = defect.mark.column then ""
       else began.suffix)

def message (defect : Defect) : String :=
  defect.problem.text ++ defect.mark.suffix ++ defect.contextText

end Defect

end Yaml

end RevisionGuard
