import RevisionGuard.Yaml.Mark

/-!
# Moving through a text

A cursor is what is left of a text and the place where that starts.  It moves
over single characters, over spans of characters of one class, and over line
breaks, of which a carriage return with the line feed behind it is one.
-/

namespace RevisionGuard

namespace Yaml

def isSpaceOrTab (letter : Char) : Bool := letter = ' ' || letter = '\t'

/-- A character that ends a line. -/
def isBreak (letter : Char) : Bool :=
  letter = '\n' || letter = '\r' || letter.toNat = 0x85 || letter.toNat = 0x2028 ||
    letter.toNat = 0x2029

def isBlankOrBreak (letter : Char) : Bool := isSpaceOrTab letter || isBreak letter

/-- A letter, a digit, a dash or an underscore of ASCII. -/
def isWordLetter (letter : Char) : Bool :=
  ('0' ≤ letter && letter ≤ '9') || ('A' ≤ letter && letter ≤ 'Z') ||
    ('a' ≤ letter && letter ≤ 'z') || letter = '_' || letter = '-'

def hexDigit? (letter : Char) : Option Nat :=
  if '0' ≤ letter ∧ letter ≤ '9' then some (letter.toNat - '0'.toNat)
  else if 'a' ≤ letter ∧ letter ≤ 'f' then some (letter.toNat - 'a'.toNat + 10)
  else if 'A' ≤ letter ∧ letter ≤ 'F' then some (letter.toNat - 'A'.toNat + 10)
  else none

/-- A line break as it counts in the value of a scalar: the breaks that every
system has become a line feed, the two separators of Unicode stay. -/
def breakValue (letter : Char) : Char :=
  if letter.toNat = 0x2028 ∨ letter.toNat = 0x2029 then letter else '\n'

/-- What is left of a text, and where that starts. -/
structure Cursor where
  rest : List Char
  mark : Mark

namespace Cursor

def ofLetters (letters : List Char) : Cursor := ⟨letters, Mark.start⟩

def next? (cursor : Cursor) : Option Char := cursor.rest.head?

/-- Whether the next character exists and is of a class. -/
def nextIs (cursor : Cursor) (isMember : Char → Bool) : Bool :=
  match cursor.rest with
  | [] => false
  | letter :: _ => isMember letter

/-- Whether the text ends here, or a blank or a line break follows. -/
def atBlank (cursor : Cursor) : Bool := cursor.rest.isEmpty || cursor.nextIs isBlankOrBreak

def atLineEnd (cursor : Cursor) : Bool := cursor.rest.isEmpty || cursor.nextIs isBreak

/-- Move over characters that are no line breaks. -/
def skip (cursor : Cursor) (count : Nat) : Cursor :=
  ⟨cursor.rest.drop count, cursor.mark.advance count⟩

/-- Whether the character at a distance exists and is of a class. -/
def isAt (cursor : Cursor) (distance : Nat) (isMember : Char → Bool) : Bool :=
  (cursor.skip distance).nextIs isMember

/-- Take the characters of a class that follow.  The class holds no line
breaks. -/
def span (cursor : Cursor) (isMember : Char → Bool) : List Char × Cursor :=
  let taken := cursor.rest.takeWhile isMember
  (taken, ⟨cursor.rest.dropWhile isMember, cursor.mark.advance taken.length⟩)

/-- Move over the characters of a class that follow. -/
def skipSpan (cursor : Cursor) (isMember : Char → Bool) : Cursor := (cursor.span isMember).2

/-- Take the line break that follows, as it counts in a value. -/
def takeBreak (cursor : Cursor) : List Char × Cursor :=
  match cursor.rest with
  | '\r' :: '\n' :: rest => (['\n'], ⟨rest, cursor.mark.nextLine 2⟩)
  | letter :: rest =>
    if isBreak letter then ([breakValue letter], ⟨rest, cursor.mark.nextLine 1⟩)
    else ([], cursor)
  | [] => ([], cursor)

/-- Move over the line break that follows, if one does. -/
def skipBreak (cursor : Cursor) : Cursor := cursor.takeBreak.2

/-- Move over the blanks and the comment in the rest of a line. -/
def skipComment (cursor : Cursor) : Cursor :=
  if cursor.nextIs (· = '#') then cursor.skipSpan fun letter => !isBreak letter else cursor

/-- Whether the line starts with three of a character and a blank. -/
def atIndicatorLine (cursor : Cursor) (letter : Char) : Bool :=
  cursor.mark.column = 0 && cursor.rest.take 3 = [letter, letter, letter] &&
    (cursor.skip 3).atBlank

/-- Whether the line marks where a document starts or ends. -/
def atDocumentIndicator (cursor : Cursor) : Bool :=
  cursor.atIndicatorLine '-' || cursor.atIndicatorLine '.'

end Cursor

end Yaml

end RevisionGuard
