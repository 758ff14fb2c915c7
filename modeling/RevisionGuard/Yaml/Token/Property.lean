import RevisionGuard.Text.Utf8
import RevisionGuard.Yaml.Cursor
import RevisionGuard.Yaml.Defect
import RevisionGuard.Yaml.Token

/-!
# Directives, anchors and tags

The tokens that say something about a document or a node rather than hold its
contents.  Each reader starts at the token's first character and returns the
token and the cursor behind it.
-/

namespace RevisionGuard

namespace Yaml

namespace Token

def failAt {α : Type} (cursor : Cursor) (activity : Activity) (began : Mark) (problem : Problem) :
    Except Defect α :=
  .error ⟨problem, cursor.mark, some (activity, began)⟩

/-! ## Anchors -/

/-- The characters that may stand directly behind an anchor's name. -/
def isAnchorEnd (letter : Char) : Bool :=
  isBlankOrBreak letter || ['?', ':', ',', ']', Char.ofNat 0x7d, '%', '@', '`'].contains letter

def readAnchorName (activity : Activity) (cursor : Cursor) : Except Defect (List Char × Cursor) :=
  let (name, behind) := (cursor.skip 1).span isWordLetter
  if name.isEmpty || !(behind.rest.isEmpty || behind.nextIs isAnchorEnd) then
    failAt behind activity cursor.mark .noAnchorName
  else .ok (name, behind)

/-! ## Tags -/

def isTagLetter (letter : Char) : Bool :=
  isWordLetter letter ||
    [';', '/', '?', ':', '@', '&', '=', '+', '$', '.', '!', '~', '*', '\'', '(', ')'].contains
      letter

/-- The characters of a tag that is marked off on both sides. -/
def isEnclosedTagLetter (letter : Char) : Bool :=
  isTagLetter letter || [',', '[', ']'].contains letter

def escapedOctet? (cursor : Cursor) : Option UInt8 :=
  match cursor.rest with
  | '%' :: high :: low :: _ => do
    let high ← hexDigit? high
    let low ← hexDigit? low
    return UInt8.ofNat (high * 16 + low)
  | _ => none

/-- Read the escaped bytes that complete one character. -/
def readTrailingOctets (activity : Activity) (began : Mark) :
    Nat → Cursor → Except Defect (List UInt8 × Cursor)
  | 0, cursor => .ok ([], cursor)
  | count + 1, cursor =>
    match escapedOctet? cursor with
    | none => failAt cursor activity began .noEscapedOctet
    | some octet =>
      if !Utf8.isTrailing octet then failAt cursor activity began .wrongTrailOctet
      else do
        let (octets, behind) ← readTrailingOctets activity began count (cursor.skip 3)
        return (octet :: octets, behind)

def readEscapedLetter (activity : Activity) (began : Mark) (cursor : Cursor) :
    Except Defect (List UInt8 × Cursor) :=
  match escapedOctet? cursor with
  | none => failAt cursor activity began .noEscapedOctet
  | some octet =>
    match Utf8.width? octet with
    | none => failAt cursor activity began .wrongLeadOctet
    | some width => do
      let (octets, behind) ← readTrailingOctets activity began (width - 1) (cursor.skip 3)
      return (octet :: octets, behind)

def asciiBytes (letters : List Char) : List UInt8 :=
  letters.map fun letter => UInt8.ofNat letter.toNat

/-- Read the letters of a tag behind what was found so far. -/
def readTagLetters (activity : Activity) (began : Mark) (isMember : Char → Bool) :
    Nat → Cursor → Except Defect (List UInt8 × Cursor)
  | 0, cursor => .ok ([], cursor)
  | fuel + 1, cursor =>
    let (letters, behind) := cursor.span isMember
    if behind.nextIs (· = '%') then do
      let (octets, further) ← readEscapedLetter activity began behind
      let (others, final) ← readTagLetters activity began isMember fuel further
      return (asciiBytes letters ++ octets ++ others, final)
    else .ok (asciiBytes letters, behind)

/-- Read what follows a tag's handle.  With nothing of the tag read before, at
least one letter has to follow. -/
def readTagSuffix (activity : Activity) (began : Mark) (enclosed : Bool) (before : List Char)
    (cursor : Cursor) : Except Defect (List UInt8 × Cursor) := do
  let isMember := if enclosed then isEnclosedTagLetter else isTagLetter
  let (octets, behind) ← readTagLetters activity began isMember (cursor.rest.length + 1) cursor
  if before.isEmpty && octets.isEmpty then failAt behind activity began .noTagUri
  else return (asciiBytes (before.drop 1) ++ octets, behind)

/-- Read the handle of a tag: an exclamation mark, and perhaps a word and
another one. -/
def readTagHandle (activity : Activity) (began : Mark) (cursor : Cursor) :
    Except Defect (List Char × Cursor) :=
  if !cursor.nextIs (· = '!') then failAt cursor activity began .noTagMark
  else
    let (name, behind) := (cursor.skip 1).span isWordLetter
    if behind.nextIs (· = '!') then .ok ('!' :: name ++ ['!'], behind.skip 1)
    else .ok ('!' :: name, behind)

/-- Whether a handle has a mark at both ends. -/
def isNamedHandle (handle : List Char) : Bool :=
  2 ≤ handle.length && handle.getLast? = some '!'

def readTag (inFlow : Bool) (cursor : Cursor) : Except Defect (TagText × Cursor) := do
  let began := cursor.mark
  let (text, behind) ←
    if cursor.isAt 1 (· = '<') then do
      let (suffix, behind) ← readTagSuffix .tagUri began true [] (cursor.skip 2)
      if !behind.nextIs (· = '>') then failAt behind .tag began .noTagClose
      else pure (TagText.mk [] suffix, behind.skip 1)
    else do
      let (handle, behind) ← readTagHandle .tag began cursor
      if isNamedHandle handle then do
        let (suffix, behind) ← readTagSuffix .tagUri began false [] behind
        pure (TagText.mk handle suffix, behind)
      else do
        let (suffix, behind) ← readTagSuffix .tagUri began false handle behind
        if suffix.isEmpty then pure (TagText.mk [] (asciiBytes ['!']), behind)
        else pure (TagText.mk ['!'] suffix, behind)
  if behind.atBlank || (inFlow && behind.nextIs (· = ',')) then return (text, behind)
  else failAt behind .tag began .noBlankOrBreak

/-! ## Directives -/

def longestVersionNumber : Nat := 9

def readVersionNumber (began : Mark) (cursor : Cursor) : Except Defect (Nat × Cursor) :=
  let (digits, behind) := cursor.span fun letter => '0' ≤ letter && letter ≤ '9'
  if longestVersionNumber < digits.length then
    failAt (cursor.skip longestVersionNumber) .versionDirective began .longVersionNumber
  else if digits.isEmpty then failAt behind .versionDirective began .noVersionNumber
  else .ok (digits.foldl (fun value digit => value * 10 + (digit.toNat - '0'.toNat)) 0, behind)

def readVersion (began : Mark) (cursor : Cursor) : Except Defect (Word × Cursor) := do
  let (major, behind) ← readVersionNumber began (cursor.skipSpan isSpaceOrTab)
  if !behind.nextIs (· = '.') then failAt behind .versionDirective began .noVersionPoint
  else do
    let (minor, behind) ← readVersionNumber began (behind.skip 1)
    return (.versionDirective major minor, behind)

def readTagShorthand (began : Mark) (cursor : Cursor) : Except Defect (Word × Cursor) := do
  let (handle, behind) ← readTagHandle .tagDirectiveMark began (cursor.skipSpan isSpaceOrTab)
  if handle ≠ ['!'] ∧ !isNamedHandle handle then
    failAt behind .tagDirectiveHandle began .noTagMark
  else if !behind.nextIs isSpaceOrTab then failAt behind .tagDirective began .noBlank
  else do
    let (replacement, behind) ←
      readTagSuffix .tagDirectiveUri began true [] (behind.skipSpan isSpaceOrTab)
    if behind.atBlank then return (.tagDirective handle replacement, behind)
    else failAt behind .tagDirective began .noBlankOrBreak

/-- Read a directive; the token ends before the blanks and the comment behind
it, and the cursor moves on to the next line. -/
def readDirective (cursor : Cursor) : Except Defect (Token × Cursor) := do
  let began := cursor.mark
  let (name, behind) := (cursor.skip 1).span isWordLetter
  if name.isEmpty then failAt behind .directive began .noDirectiveName
  else if !behind.atBlank then failAt behind .directive began .oddDirectiveName
  else do
    let (word, behind) ←
      if name = ['Y', 'A', 'M', 'L'] then readVersion began behind
      else if name = ['T', 'A', 'G'] then readTagShorthand began behind
      else failAt behind .directive began .unknownDirective
    let lineEnd := (behind.skipSpan isSpaceOrTab).skipComment
    if lineEnd.atLineEnd then return (⟨word, began, behind.mark⟩, lineEnd.skipBreak)
    else failAt lineEnd .directive began .noCommentOrBreak

end Token

end Yaml

end RevisionGuard
