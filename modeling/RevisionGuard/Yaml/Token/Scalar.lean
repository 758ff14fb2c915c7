import RevisionGuard.Yaml.Token.Property

/-!
# Scalars

How the value of a scalar is read in each of the styles.  Blanks and line breaks
between the words of plain and quoted scalars form a gap (`Gap`), which counts
as its blanks within a line and is folded over several lines.  Block scalars
keep their lines or fold them.
-/

namespace RevisionGuard

namespace Yaml

namespace Token

/-! ## Gaps -/

/-- The blanks and line breaks between two words of a scalar. -/
structure Gap where
  /-- The blanks, as long as the line has not ended. -/
  blanks : List Char
  crossed : Bool
  firstBreak : List Char
  /-- The line breaks after the first. -/
  breaks : List Char

def Gap.none : Gap := ⟨[], false, [], []⟩

/-- A gap that starts with an escaped line break, which counts as nothing. -/
def Gap.escapedBreak : Gap := ⟨[], true, [], []⟩

/-- What a gap counts as: one break is a blank, several lose the first. -/
def Gap.value (gap : Gap) : List Char :=
  if !gap.crossed then gap.blanks
  else if gap.firstBreak = ['\n'] then
    if gap.breaks.isEmpty then [' '] else gap.breaks
  else gap.firstBreak ++ gap.breaks

/-- Extend a gap by what follows, up to the next word.  `floor` is the column
below which a line must not be indented by a tab, if there is one. -/
def Gap.read (floor : Option Nat) : Nat → Gap → Cursor → Gap × Cursor × Bool
  | 0, gap, cursor => (gap, cursor, true)
  | fuel + 1, gap, cursor =>
    match cursor.next? with
    | some letter =>
      if isSpaceOrTab letter then
        let tooShallow :=
          match floor with
          | some column => gap.crossed && letter = '\t' && cursor.mark.column < column
          | _ => false
        if tooShallow then (gap, cursor, false)
        else if gap.crossed then Gap.read floor fuel gap (cursor.skip 1)
        else Gap.read floor fuel { gap with blanks := gap.blanks ++ [letter] } (cursor.skip 1)
      else if isBreak letter then
        let (value, behind) := cursor.takeBreak
        if gap.crossed then
          Gap.read floor fuel { gap with breaks := gap.breaks ++ value } behind
        else Gap.read floor fuel ⟨[], true, value, []⟩ behind
      else (gap, cursor, true)
    | _ => (gap, cursor, true)

/-! ## Plain scalars -/

/-- The indicators that end a plain scalar in a flow collection. -/
def isFlowIndicator (letter : Char) : Bool :=
  [',', '[', ']', Char.ofNat 0x7b, Char.ofNat 0x7d].contains letter

/-- The characters that must not follow a colon in a flow collection. -/
def isFlowColonEnd (letter : Char) : Bool :=
  letter = '?' || isFlowIndicator letter

/-- Take the next word of a plain scalar, with the colon that breaks the rules
if one does. -/
def plainWord (inFlow : Bool) : Nat → Cursor → Except Cursor (List Char × Cursor)
  | 0, cursor => .ok ([], cursor)
  | fuel + 1, cursor =>
    match cursor.next? with
    | none => .ok ([], cursor)
    | some letter =>
      if isBlankOrBreak letter then .ok ([], cursor)
      else if inFlow && letter = ':' && cursor.isAt 1 isFlowColonEnd then .error cursor
      else if letter = ':' && (cursor.skip 1).atBlank then .ok ([], cursor)
      else if inFlow && isFlowIndicator letter then .ok ([], cursor)
      else do
        let (letters, behind) ← plainWord inFlow fuel (cursor.skip 1)
        return (letter :: letters, behind)

/-- What was read of a plain scalar. -/
structure PlainScalar where
  value : List Char
  /-- Where its last word ends. -/
  last : Mark
  /-- Whether a line break follows the last word. -/
  broken : Bool

def readPlainWords (inFlow : Bool) (indent : Nat) (began : Mark) :
    Nat → PlainScalar → Gap → Cursor → Except Defect (PlainScalar × Cursor)
  | 0, scalar, _, cursor => .ok (scalar, cursor)
  | fuel + 1, scalar, gap, cursor =>
    if cursor.atDocumentIndicator || cursor.nextIs (· = '#') then .ok (scalar, cursor)
    else
      match plainWord inFlow (cursor.rest.length + 1) cursor with
      | .error colon => failAt colon .plainScalar began .strayColon
      | .ok (word, behind) =>
        let scalar :=
          if word.isEmpty then scalar
          else ⟨scalar.value ++ gap.value ++ word, behind.mark, false⟩
        if !behind.nextIs isBlankOrBreak then .ok (scalar, behind)
        else
          let floor := some indent
          let (gap, further, wellIndented) :=
            Gap.read floor (behind.rest.length + 1) Gap.none behind
          if !wellIndented then failAt further .plainScalar began .tabBelowIndentation
          else
            let scalar := { scalar with broken := gap.crossed }
            if !inFlow && further.mark.column < indent then .ok (scalar, further)
            else readPlainWords inFlow indent began fuel scalar gap further

/-- Read a plain scalar whose lines are indented to a column.  Also tells
whether it ended with a line break. -/
def readPlain (inFlow : Bool) (indent : Nat) (cursor : Cursor) :
    Except Defect (Token × Bool × Cursor) := do
  let began := cursor.mark
  let (scalar, behind) ←
    readPlainWords inFlow indent began (cursor.rest.length + 1) ⟨[], began, false⟩ Gap.none cursor
  return (⟨.scalar (String.ofList scalar.value) .plain, began, scalar.last⟩, scalar.broken, behind)

/-! ## Quoted scalars -/

/-- The escapes of one letter and what they stand for. -/
def simpleEscapes : List (Char × Nat) :=
  [('0', 0x00), ('a', 0x07), ('b', 0x08), ('t', 0x09), ('\t', 0x09), ('n', 0x0a), ('v', 0x0b),
    ('f', 0x0c), ('r', 0x0d), ('e', 0x1b), (' ', 0x20), ('"', 0x22), ('/', 0x2f), ('\\', 0x5c),
    ('N', 0x85), ('_', 0xa0), ('L', 0x2028), ('P', 0x2029)]

/-- The escapes that are followed by a code point, and its number of digits. -/
def numericEscapes : List (Char × Nat) := [('x', 2), ('u', 4), ('U', 8)]

/-- Read a hexadecimal number of a given length. -/
def hexNumber? (value : Nat) : Nat → List Char → Option Nat
  | 0, _ => some value
  | count + 1, letter :: rest => do
    let digit ← hexDigit? letter
    hexNumber? (value * 16 + digit) count rest
  | _ + 1, [] => none

def readEscape (began : Mark) (cursor : Cursor) : Except Defect (Char × Cursor) :=
  match cursor.rest with
  | _ :: letter :: rest =>
    match simpleEscapes.lookup letter with
    | some point => .ok (Char.ofNat point, cursor.skip 2)
    | none =>
      match numericEscapes.lookup letter with
      | none => failAt cursor .escape began .unknownEscape
      | some count =>
        match hexNumber? 0 count rest with
        | none => failAt (cursor.skip 2) .escape began .noHexNumber
        | some point =>
          if Utf8.isScalar point then .ok (Char.ofNat point, cursor.skip (2 + count))
          else failAt (cursor.skip 2) .escape began .wrongEscapeCode
  | _ => failAt cursor .escape began .unknownEscape

/-- How a word of a quoted scalar ended. -/
inductive QuotedEnd where
  /-- At a blank, a line break, the quote or the end of the text. -/
  | boundary
  /-- At an escaped line break. -/
  | escapedBreak

/-- Take the next word of a quoted scalar. -/
def quotedWord (single : Bool) (began : Mark) :
    Nat → Cursor → Except Defect (List Char × QuotedEnd × Cursor)
  | 0, cursor => .ok ([], .boundary, cursor)
  | fuel + 1, cursor =>
    match cursor.next? with
    | none => .ok ([], .boundary, cursor)
    | some letter =>
      if isBlankOrBreak letter then .ok ([], .boundary, cursor)
      else if single && letter = '\'' then
        if cursor.isAt 1 (· = '\'') then do
          let (letters, ending, behind) ← quotedWord single began fuel (cursor.skip 2)
          return ('\'' :: letters, ending, behind)
        else .ok ([], .boundary, cursor)
      else if !single && letter = '"' then .ok ([], .boundary, cursor)
      else if !single && letter = '\\' then
        if cursor.isAt 1 isBreak then .ok ([], .escapedBreak, (cursor.skip 1).skipBreak)
        else do
          let (escaped, behind) ← readEscape began cursor
          let (letters, ending, behind) ← quotedWord single began fuel behind
          return (escaped :: letters, ending, behind)
      else do
        let (letters, ending, behind) ← quotedWord single began fuel (cursor.skip 1)
        return (letter :: letters, ending, behind)

def readQuotedWords (single : Bool) (began : Mark) :
    Nat → List Char → Cursor → Except Defect (List Char × Cursor)
  | 0, value, cursor => .ok (value, cursor)
  | fuel + 1, value, cursor =>
    if cursor.atDocumentIndicator then failAt cursor .quotedScalar began .documentInsideQuotes
    else if cursor.rest.isEmpty then failAt cursor .quotedScalar began .endInsideQuotes
    else do
      let (word, ending, behind) ← quotedWord single began (cursor.rest.length + 1) cursor
      let value := value ++ word
      let quote := if single then '\'' else '"'
      if behind.nextIs (· = quote) then return (value, behind)
      else
        let gap :=
          match ending with
          | .boundary => Gap.none
          | .escapedBreak => Gap.escapedBreak
        let (gap, further, _) := Gap.read none (behind.rest.length + 1) gap behind
        readQuotedWords single began fuel (value ++ gap.value) further

def readQuoted (single : Bool) (cursor : Cursor) : Except Defect (Token × Cursor) := do
  let began := cursor.mark
  let (value, behind) ←
    readQuotedWords single began (cursor.rest.length + 1) [] (cursor.skip 1)
  let behind := behind.skip 1
  return (⟨.scalar (String.ofList value) .other, began, behind.mark⟩, behind)

/-! ## Block scalars -/

/-- What becomes of the line breaks at the end of a block scalar. -/
inductive Chomping where
  | strip
  | clip
  | keep
  deriving DecidableEq

/-- The header of a block scalar: its chomping, and its indentation if the
header gives one. -/
structure BlockHeader where
  chomping : Chomping
  indentation : Option Nat

def chomping? (letter : Char) : Option Chomping :=
  if letter = '+' then some .keep else if letter = '-' then some .strip else none

def readIndentation (began : Mark) (cursor : Cursor) : Except Defect (Option Nat × Cursor) :=
  match cursor.next? with
  | some letter =>
    if letter = '0' then failAt cursor .blockScalar began .zeroIndentation
    else if '1' ≤ letter ∧ letter ≤ '9' then
      .ok (some (letter.toNat - '0'.toNat), cursor.skip 1)
    else .ok (none, cursor)
  | none => .ok (none, cursor)

def readBlockHeader (began : Mark) (cursor : Cursor) : Except Defect (BlockHeader × Cursor) :=
  match cursor.next?.bind chomping? with
  | some chomping => do
    let (indentation, behind) ← readIndentation began (cursor.skip 1)
    return (⟨chomping, indentation⟩, behind)
  | none => do
    let (indentation, behind) ← readIndentation began cursor
    match indentation, behind.next?.bind chomping? with
    | some _, some chomping => return (⟨chomping, indentation⟩, behind.skip 1)
    | _, _ => return (⟨.clip, indentation⟩, behind)

/-- The empty lines in front of a line of a block scalar. -/
structure EmptyLines where
  breaks : List Char
  deepest : Nat
  last : Mark

/-- Read empty lines.  `indent` is the indentation of the scalar, zero as long
as it is unknown. -/
def readEmptyLines (began : Mark) (indent : Nat) :
    Nat → EmptyLines → Cursor → Except Defect (EmptyLines × Cursor)
  | 0, lines, cursor => .ok (lines, cursor)
  | fuel + 1, lines, cursor =>
    let blanks := (cursor.rest.takeWhile (· = ' ')).length
    let count := if indent = 0 then blanks else min blanks (indent - cursor.mark.column)
    let behind := cursor.skip count
    let lines := { lines with deepest := max lines.deepest behind.mark.column }
    if (indent = 0 ∨ behind.mark.column < indent) ∧ behind.nextIs (· = '\t') then
      failAt behind .blockScalar began .tabInIndentation
    else if behind.nextIs isBreak then
      let (value, further) := behind.takeBreak
      readEmptyLines began indent fuel
        { lines with breaks := lines.breaks ++ value, last := further.mark } further
    else .ok (lines, behind)

/-- What was read of a block scalar. -/
structure BlockScalar where
  value : List Char
  /-- The line break behind the last line that is not empty. -/
  lineBreak : List Char
  /-- The line breaks of the empty lines behind it. -/
  breaks : List Char
  /-- Whether the last line starts with a blank. -/
  blankLine : Bool
  last : Mark

/-- What joins the next line of a block scalar to the lines before it. -/
def BlockScalar.joint (scalar : BlockScalar) (literal startsBlank : Bool) : List Char :=
  if !literal && scalar.lineBreak.head? = some '\n' && !scalar.blankLine && !startsBlank then
    if scalar.breaks.isEmpty then [' '] else scalar.breaks
  else scalar.lineBreak ++ scalar.breaks

def readBlockLines (literal : Bool) (began : Mark) (indent : Nat) :
    Nat → BlockScalar → Cursor → Except Defect (BlockScalar × Cursor)
  | 0, scalar, cursor => .ok (scalar, cursor)
  | fuel + 1, scalar, cursor =>
    if cursor.mark.column = indent ∧ !cursor.rest.isEmpty then do
      let startsBlank := cursor.nextIs isSpaceOrTab
      let (line, behind) := cursor.span fun letter => !isBreak letter
      let (lineBreak, behind) := behind.takeBreak
      let (lines, further) ←
        readEmptyLines began indent (behind.rest.length + 1) ⟨[], 0, behind.mark⟩ behind
      readBlockLines literal began indent fuel
        ⟨scalar.value ++ scalar.joint literal startsBlank ++ line, lineBreak, lines.breaks,
          startsBlank, lines.last⟩ further
    else .ok (scalar, cursor)

/-- The value of a block scalar once its end is chomped. -/
def BlockScalar.chomped (scalar : BlockScalar) : Chomping → List Char
  | .strip => scalar.value
  | .clip => scalar.value ++ scalar.lineBreak
  | .keep => scalar.value ++ scalar.lineBreak ++ scalar.breaks

/-- Read a block scalar inside a collection indented to a column, or to none. -/
def readBlock (literal : Bool) (parent : Option Nat) (cursor : Cursor) :
    Except Defect (Token × Cursor) := do
  let began := cursor.mark
  let (header, behind) ← readBlockHeader began (cursor.skip 1)
  let lineEnd := (behind.skipSpan isSpaceOrTab).skipComment
  if !lineEnd.atLineEnd then failAt lineEnd .blockScalar began .noCommentOrBreak
  else do
    let body := lineEnd.skipBreak
    let given :=
      match header.indentation with
      | some indentation => parent.getD 0 + indentation
      | none => 0
    let (lines, first) ←
      readEmptyLines began given (body.rest.length + 1) ⟨[], 0, body.mark⟩ body
    let indent :=
      if given = 0 then max lines.deepest (max (parent.map (· + 1) |>.getD 0) 1) else given
    let (scalar, behind) ←
      readBlockLines literal began indent (first.rest.length + 1)
        ⟨[], [], lines.breaks, false, lines.last⟩ first
    let style := if literal then Style.literal else Style.other
    return (⟨.scalar (String.ofList (scalar.chomped header.chomping)) style, began, scalar.last⟩,
      behind)

end Token

end Yaml

end RevisionGuard
