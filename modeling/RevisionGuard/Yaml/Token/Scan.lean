import RevisionGuard.Yaml.Fault
import RevisionGuard.Yaml.Token.Scalar

/-!
# From characters to tokens

A scan reads one token after another and keeps track of indentation, of the
open flow collections, and of the places where a simple key may have begun.
Whether a token begins a simple key shows only when a colon follows, so such a
token waits until that is settled, and the key's own tokens are put in front of
it.  `Token.scan` returns the tokens that were settled before the text ended or
a fault was met.
-/

namespace RevisionGuard

namespace Yaml

namespace Token

/-- A place where a simple key may have begun. -/
structure PossibleKey where
  /-- The number of tokens in front of it. -/
  position : Nat
  mark : Mark
  /-- Whether indentation leaves no other reading than a key. -/
  required : Bool

def longestSimpleKey : Nat := 1024

/-- The state of a scan. -/
structure Scan where
  cursor : Cursor
  /-- The tokens that may still get a key in front of them, in order. -/
  waiting : List Token
  settled : Nat
  /-- The column of the innermost block collection, if there is one. -/
  indent : Option Nat
  /-- The columns of the collections around it. -/
  outer : List (Option Nat)
  keyAllowed : Bool
  /-- The key that may have begun in each open flow collection, the innermost
  first, and last in the block collections around them. -/
  keys : List (Option PossibleKey)

namespace Scan

def ofLetters (letters : List Char) : Scan :=
  ⟨Cursor.ofLetters letters, [], 0, none, [], true, [none]⟩

def inFlow (scan : Scan) : Bool := 2 ≤ scan.keys.length

def mark (scan : Scan) : Mark := scan.cursor.mark

def push (scan : Scan) (token : Token) : Scan := { scan with waiting := scan.waiting ++ [token] }

/-- Add a token without extent behind the others. -/
def pushEmpty (scan : Scan) (word : Word) : Scan := scan.push ⟨word, scan.mark, scan.mark⟩

def insert (scan : Scan) (position : Nat) (token : Token) : Scan :=
  let count := position - scan.settled
  { scan with waiting := scan.waiting.take count ++ token :: scan.waiting.drop count }

def pushSpan (scan : Scan) (word : Word) (length : Nat) : Scan :=
  let behind := scan.cursor.skip length
  { scan.push ⟨word, scan.mark, behind.mark⟩ with cursor := behind }

/-! ## Simple keys -/

/-- Report that a key without a colon had to be one. -/
def missingColon {α : Type} (scan : Scan) (key : PossibleKey) : Except Defect α :=
  failAt scan.cursor .simpleKey key.mark .keyWithoutColon

/-- Give up a key that can no longer get its colon: it has to be within one
line and not too long. -/
def dropStale (scan : Scan) (key : Option PossibleKey) : Except Defect (Option PossibleKey) :=
  match key with
  | none => .ok none
  | some key =>
    if key.mark.line < scan.mark.line ∨ key.mark.index + longestSimpleKey < scan.mark.index then
      if key.required then scan.missingColon key else .ok none
    else .ok (some key)

/-- Give up all keys that can no longer get their colons; the outermost is
looked at first. -/
def dropStaleKeys (scan : Scan) : Except Defect Scan := do
  let keys ← scan.keys.reverse.mapM scan.dropStale
  return { scan with keys := keys.reverse }

/-- Give up the key of the innermost collection. -/
def dropKey (scan : Scan) : Except Defect Scan :=
  match scan.keys with
  | some key :: others =>
    if key.required then scan.missingColon key else .ok { scan with keys := none :: others }
  | _ => .ok scan

/-- Note that a simple key may begin here. -/
def noteKey (scan : Scan) : Except Defect Scan :=
  if scan.keyAllowed then do
    let required := !scan.inFlow && scan.indent = some scan.mark.column
    let position := scan.settled + scan.waiting.length
    let scan ← scan.dropKey
    return { scan with keys := some ⟨position, scan.mark, required⟩ :: scan.keys.tail }
  else .ok scan

/-! ## Indentation -/

def isDeeper (scan : Scan) (column : Nat) : Bool :=
  match scan.indent with
  | none => true
  | some indent => indent < column

/-- Open a block collection at a column if none is open there. -/
def openBlock (scan : Scan) (column : Nat) (place : Scan → Scan) : Scan :=
  if !scan.inFlow && scan.isDeeper column then
    place { scan with indent := some column, outer := scan.indent :: scan.outer }
  else scan

/-- Close the block collections for as long as the innermost satisfies a
test. -/
def closeBlocksWhile (isDone : Nat → Bool) (scan : Scan) : List (Option Nat) → Scan
  | [] => scan
  | outer :: others =>
    match scan.indent with
    | none => scan
    | some indent =>
      if isDone indent then
        closeBlocksWhile isDone
          { scan.pushEmpty .blockEnd with indent := outer, outer := others } others
      else scan

def closeBlocks (scan : Scan) (column : Nat) : Scan :=
  if scan.inFlow then scan else scan.closeBlocksWhile (column < ·) scan.outer

def closeAllBlocks (scan : Scan) : Scan :=
  if scan.inFlow then scan else scan.closeBlocksWhile (fun _ => true) scan.outer

/-! ## Blanks and comments -/

/-- Move to the next token.  A tab is a blank where no simple key may begin. -/
def skipBlanks : Nat → Scan → Scan
  | 0, scan => scan
  | fuel + 1, scan =>
    let cursor :=
      if scan.mark.index = 0 ∧ scan.cursor.nextIs (·.toNat = 0xfeff) then scan.cursor.skip 1
      else scan.cursor
    let tabs := scan.inFlow || !scan.keyAllowed
    let cursor :=
      (cursor.skipSpan fun letter => letter = ' ' || (tabs && letter = '\t')).skipComment
    if cursor.nextIs isBreak then
      skipBlanks fuel
        { scan with
          cursor := cursor.skipBreak
          keyAllowed := if scan.inFlow then scan.keyAllowed else true }
    else { scan with cursor := cursor }

/-! ## One token -/

def readStreamEnd (scan : Scan) : Except Defect Scan := do
  let scan :=
    if scan.mark.column = 0 then scan
    else { scan with cursor := ⟨scan.cursor.rest, scan.mark.nextLine 0⟩ }
  let scan ← scan.closeAllBlocks.dropKey
  return { scan.pushEmpty .streamEnd with keyAllowed := false }

def readDirectiveLine (scan : Scan) : Except Defect Scan := do
  let scan ← scan.closeAllBlocks.dropKey
  let (token, behind) ← readDirective scan.cursor
  return { scan.push token with keyAllowed := false, cursor := behind }

/-- Read a line that marks where a document starts or ends. -/
def readDocumentIndicator (scan : Scan) (word : Word) : Except Defect Scan := do
  let scan ← scan.closeAllBlocks.dropKey
  return { scan.pushSpan word 3 with keyAllowed := false }

def readFlowStart (scan : Scan) (word : Word) : Except Defect Scan := do
  let scan ← scan.noteKey
  return { scan.pushSpan word 1 with keys := none :: scan.keys, keyAllowed := true }

def readFlowEnd (scan : Scan) (word : Word) : Except Defect Scan := do
  let scan ← scan.dropKey
  let keys := if scan.inFlow then scan.keys.tail else scan.keys
  return { scan.pushSpan word 1 with keys := keys, keyAllowed := false }

/-- Read the comma between the entries of a flow collection. -/
def readFlowEntry (scan : Scan) : Except Defect Scan := do
  let scan ← scan.dropKey
  return { scan.pushSpan .flowEntry 1 with keyAllowed := true }

/-- Read an indicator that may open a block collection at its own column. -/
def openBlockHere (scan : Scan) (word : Word) (problem : Problem) : Except Defect Scan :=
  if scan.inFlow then .ok scan
  else if !scan.keyAllowed then .error ⟨problem, scan.mark, none⟩
  else .ok (scan.openBlock scan.mark.column (·.pushEmpty word))

def readBlockEntry (scan : Scan) : Except Defect Scan := do
  let scan ← scan.openBlockHere .blockSequenceStart .misplacedSequenceEntry
  let scan ← scan.dropKey
  return { scan.pushSpan .blockEntry 1 with keyAllowed := true }

def readKey (scan : Scan) : Except Defect Scan := do
  let scan ← scan.openBlockHere .blockMappingStart .misplacedKey
  let scan ← scan.dropKey
  return { scan.pushSpan .key 1 with keyAllowed := !scan.inFlow }

def readValue (scan : Scan) : Except Defect Scan :=
  match scan.keys with
  | some key :: others =>
    let scan := scan.insert key.position ⟨.key, key.mark, key.mark⟩
    let scan := scan.openBlock key.mark.column
      (·.insert key.position ⟨.blockMappingStart, key.mark, key.mark⟩)
    .ok { scan.pushSpan .value 1 with keys := none :: others, keyAllowed := false }
  | _ => do
    let scan ← scan.openBlockHere .blockMappingStart .misplacedValue
    return { scan.pushSpan .value 1 with keyAllowed := !scan.inFlow }

def readAnchor (scan : Scan) (activity : Activity) (word : List Char → Word) :
    Except Defect Scan := do
  let scan ← scan.noteKey
  let (name, behind) ← readAnchorName activity scan.cursor
  return { scan.push ⟨word name, scan.mark, behind.mark⟩ with
    cursor := behind, keyAllowed := false }

def readNodeTag (scan : Scan) : Except Defect Scan := do
  let scan ← scan.noteKey
  let (text, behind) ← readTag scan.inFlow scan.cursor
  return { scan.push ⟨.tag text, scan.mark, behind.mark⟩ with
    cursor := behind, keyAllowed := false }

def readBlockScalar (scan : Scan) (literal : Bool) : Except Defect Scan := do
  let scan ← scan.dropKey
  let (token, behind) ← readBlock literal scan.indent scan.cursor
  return { scan.push token with cursor := behind, keyAllowed := true }

def readQuotedScalar (scan : Scan) (single : Bool) : Except Defect Scan := do
  let scan ← scan.noteKey
  let (token, behind) ← readQuoted single scan.cursor
  return { scan.push token with cursor := behind, keyAllowed := false }

/-- Read a plain scalar.  Behind a line break a simple key may begin again. -/
def readPlainScalar (scan : Scan) : Except Defect Scan := do
  let scan ← scan.noteKey
  let indent := (scan.indent.map (· + 1)).getD 0
  let (token, broken, behind) ← readPlain scan.inFlow indent scan.cursor
  return { scan.push token with cursor := behind, keyAllowed := broken }

/-- The characters that cannot start a plain scalar. -/
def isIndicator (letter : Char) : Bool :=
  ['-', '?', ':', ',', '[', ']', Char.ofNat 0x7b, Char.ofNat 0x7d, '#', '&', '*', '!', '|', '>',
    '\'', '"', '%', '@', '`'].contains letter

def atPlainScalar (scan : Scan) : Bool :=
  let cursor := scan.cursor
  !(cursor.atBlank || cursor.nextIs isIndicator) ||
    (cursor.nextIs (· = '-') && !cursor.isAt 1 isSpaceOrTab) ||
    (!scan.inFlow && cursor.nextIs (fun letter => letter = '?' || letter = ':') &&
      !(cursor.skip 1).atBlank)

def readTokenAt (scan : Scan) (letter : Char) : Except Defect Scan :=
  let cursor := scan.cursor
  let separated := (cursor.skip 1).atBlank
  if cursor.mark.column = 0 ∧ letter = '%' then scan.readDirectiveLine
  else if cursor.atIndicatorLine '-' then scan.readDocumentIndicator .documentStart
  else if cursor.atIndicatorLine '.' then scan.readDocumentIndicator .documentEnd
  else if letter = '[' then scan.readFlowStart .flowSequenceStart
  else if letter.toNat = 0x7b then scan.readFlowStart .flowMappingStart
  else if letter = ']' then scan.readFlowEnd .flowSequenceEnd
  else if letter.toNat = 0x7d then scan.readFlowEnd .flowMappingEnd
  else if letter = ',' then scan.readFlowEntry
  else if letter = '-' ∧ separated then scan.readBlockEntry
  else if letter = '?' ∧ (scan.inFlow ∨ separated) then scan.readKey
  else if letter = ':' ∧ (scan.inFlow ∨ separated) then scan.readValue
  else if letter = '*' then scan.readAnchor .reference .reference
  else if letter = '&' then scan.readAnchor .anchor .anchor
  else if letter = '!' then scan.readNodeTag
  else if letter = '|' ∧ !scan.inFlow then scan.readBlockScalar true
  else if letter = '>' ∧ !scan.inFlow then scan.readBlockScalar false
  else if letter = '\'' then scan.readQuotedScalar true
  else if letter = '"' then scan.readQuotedScalar false
  else if scan.atPlainScalar then scan.readPlainScalar
  else failAt cursor .nextToken cursor.mark .strayCharacter

/-- Read one more token, with those that indentation implies in front of it. -/
def readToken (scan : Scan) : Except Defect Scan := do
  let scan ← (scan.skipBlanks (scan.cursor.rest.length + 1)).dropStaleKeys
  let scan := scan.closeBlocks scan.mark.column
  match scan.cursor.next? with
  | none => scan.readStreamEnd
  | some letter => scan.readTokenAt letter

/-! ## All tokens -/

/-- Whether a token at a position may still get a key in front of it. -/
def mayBeKey (scan : Scan) (position : Nat) : Bool :=
  scan.keys.any fun key =>
    match key with
    | some key => key.position = position
    | none => false

/-- Take the tokens that are settled, up to one that may still get a key in
front of it. -/
def settle (scan : Scan) : List Token → List Token × Scan
  | [] => ([], { scan with waiting := [] })
  | token :: others =>
    if scan.mayBeKey scan.settled then ([], { scan with waiting := token :: others })
    else
      let (tokens, scan) := settle { scan with settled := scan.settled + 1 } others
      (token :: tokens, scan)

end Scan

/-- The characters that a scan looks at in front of a token. -/
def lookahead : Nat := 4

/-- Read the tokens of a text.  Where the text breaks off because of its bytes,
a token that would have needed more of it is lost. -/
def scanAll (fault : Option ByteFault) : Nat → Scan → List Token × Option Fault
  | 0, _ => ([], none)
  | fuel + 1, scan =>
    let ahead := scan.skipBlanks (scan.cursor.rest.length + 1)
    match fault.filter fun _ => ahead.cursor.rest.length < lookahead with
    | some fault => ([], some (.unreadable fault))
    | none =>
      match scan.readToken >>= Scan.dropStaleKeys with
      | .error defect =>
        let last := scan.mark.index + scan.cursor.rest.length
        match fault.filter fun _ => last ≤ defect.mark.index with
        | some fault => ([], some (.unreadable fault))
        | none => ([], some (.malformed defect))
      | .ok next =>
        match fault.filter fun _ => next.cursor.rest.isEmpty with
        | some fault => ([], some (.unreadable fault))
        | none =>
          let (tokens, next) := next.settle next.waiting
          if tokens.any fun token => token.word = .streamEnd then (tokens, none)
          else
            let (others, interruption) := scanAll fault fuel next
            (tokens ++ others, interruption)

/-- The tokens of a text, and what interrupted them if the text does not come
to its end. -/
def scan (source : Source) : List Token × Option Fault :=
  scanAll source.fault (source.letters.length + 2) (Scan.ofLetters source.letters)

end Token

end Yaml

end RevisionGuard
