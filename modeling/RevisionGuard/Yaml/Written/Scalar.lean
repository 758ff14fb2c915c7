import RevisionGuard.Yaml.Literal
import RevisionGuard.Yaml.Written.Pen

/-!
# Writing scalars

A text is written without quotes where it then reads as the same text, as a
literal block where it has several lines, and otherwise between single or, where
it holds what single quotes cannot hold, double quotes.
-/

namespace RevisionGuard

namespace Yaml

namespace Written

/-- How a scalar is to be written. -/
inductive Look where
  | plain
  | single
  | double
  | block
  deriving DecidableEq

/-! ## What a text allows -/

def isWritable (letter : Char) : Bool :=
  let point := letter.toNat
  point = 0x0a || (0x20 ≤ point && point ≤ 0x7e) ||
    (0xa0 ≤ point && point < 0xd800) ||
    (0xe000 ≤ point && point ≠ 0xfeff && point ≠ 0xfffe && point ≠ 0xffff)

/-- The characters that mean something at the start of a scalar. -/
def isLeadingIndicator (letter : Char) : Bool :=
  ['#', ',', '[', ']', Char.ofNat 0x7b, Char.ofNat 0x7d, '&', '*', '!', '|', '>', '\'', '"', '%',
    '@', '`'].contains letter

/-- Whether a scalar without quotes would end or mean something else at a
character, given the one in front of it and what follows. -/
def isIndicator (before : Option Char) (letter : Char) (behind : List Char) : Bool :=
  let followedByBlank := behind.head?.all isBlankOrBreak
  match before with
  | none =>
    isLeadingIndicator letter ||
      (['?', ':', '-'].contains letter && followedByBlank)
  | some other => (letter = ':' && followedByBlank) || (letter = '#' && isBlankOrBreak other)

/-- Whether a text holds a character that ends or changes a scalar without
quotes, behind a given character. -/
def hasIndicator (before : Option Char) : List Char → Bool
  | [] => false
  | letter :: behind => isIndicator before letter behind || hasIndicator (some letter) behind

/-- Whether a character of one class directly follows one of another. -/
def hasPair (isFirst isSecond : Char → Bool) : List Char → Bool
  | first :: second :: behind =>
    (isFirst first && isSecond second) || hasPair isFirst isSecond (second :: behind)
  | _ => false

/-- Whether a text starts like a line that starts or ends a document. -/
def startsLikeDocument (letters : List Char) : Bool :=
  letters.take 3 = ['-', '-', '-'] || letters.take 3 = ['.', '.', '.']

def isSpace (letter : Char) : Bool := letter = ' '

/-- Whether a text has a blank or a line break at one of its ends. -/
def hasLooseEnd (letters : List Char) : Bool :=
  let isLoose (letter : Option Char) : Bool :=
    letter.any fun letter => isSpace letter || isBreak letter
  isLoose letters.head? || isLoose letters.getLast?

def isEscapeFree (letters : List Char) : Bool :=
  letters.all isWritable && !hasPair isSpace isBreak letters

def isMultiline (letters : List Char) : Bool := letters.any isBreak

def allowsPlain (letters : List Char) : Bool :=
  isEscapeFree letters && !hasLooseEnd letters && !isMultiline letters &&
    !startsLikeDocument letters && !hasIndicator none letters

def allowsSingle (letters : List Char) : Bool :=
  isEscapeFree letters && !hasPair isBreak isSpace letters

def allowsBlock (letters : List Char) : Bool :=
  !letters.isEmpty && isEscapeFree letters && letters.getLast? ≠ some ' '

/-- The look that suits a text best. -/
def preferred (text : String) : Look :=
  if text.toList.contains '\n' then .block
  else
    match Literal.ofText text with
    | .text => if Literal.hasNeedlessZero text.toList then .single else .plain
    | _ => .single

/-- The look of a text: the preferred one or the next that the text allows.  A
simple key has to stay in its line. -/
def look (isKey : Bool) (text : String) : Look :=
  let letters := text.toList
  let quotes : Look := if allowsSingle letters then .single else .double
  if isKey && isMultiline letters then .double
  else
    match preferred text with
    | .plain => if allowsPlain letters then .plain else quotes
    | .block => if isKey || !allowsBlock letters then .double else .block
    | _ => quotes

/-! ## Writing -/

def hexDigit (value : Nat) : Char :=
  if value < 10 then Char.ofNat ('0'.toNat + value) else Char.ofNat ('A'.toNat + (value - 10))

/-- The last digits of a number in hexadecimal. -/
def hexDigits (value : Nat) : Nat → List Char
  | 0 => []
  | count + 1 => hexDigits (value / 16) count ++ [hexDigit (value % 16)]

def shortEscapes : List (Nat × Char) :=
  [(0x00, '0'), (0x07, 'a'), (0x08, 'b'), (0x09, 't'), (0x0a, 'n'), (0x0b, 'v'), (0x0c, 'f'),
    (0x0d, 'r'), (0x1b, 'e'), (0x22, '"'), (0x5c, '\\'), (0x85, 'N'), (0xa0, '_'), (0x2028, 'L'),
    (0x2029, 'P')]

/-- What stands for a character between double quotes. -/
def escape (letter : Char) : List Char :=
  if isWritable letter && !isBreak letter && letter ≠ '"' && letter ≠ '\\' then [letter]
  else
    let point := letter.toNat
    match shortEscapes.lookup point with
    | some short => ['\\', short]
    | none =>
      if point ≤ 0xff then '\\' :: 'x' :: hexDigits point 2
      else if point ≤ 0xffff then '\\' :: 'u' :: hexDigits point 4
      else '\\' :: 'U' :: hexDigits point 8

def writeBreak (pen : Pen) (letter : Char) : Pen :=
  { pen.endLine letter with indented := true }

/-- Write the characters between single quotes; `broken` says whether a line
break precedes them. -/
def writeSingle (indent : Nat) (broken : Bool) (pen : Pen) : List Char → Pen
  | [] => if broken then pen.indent indent else pen
  | letter :: behind =>
    if isBreak letter then
      let pen := if !broken && letter = '\n' then pen.endLine '\n' else pen
      writeSingle indent true (writeBreak pen letter) behind
    else if letter = ' ' then writeSingle indent broken (pen.put ' ') behind
    else
      let pen := if broken then pen.indent indent else pen
      let pen := pen.puts (if letter = '\'' then ['\'', '\''] else [letter])
      writeSingle indent false { pen with indented := false } behind

/-- Write the lines of a literal block; `broken` says whether a line break
precedes them. -/
def writeBlock (indent : Nat) (broken : Bool) (pen : Pen) : List Char → Pen
  | [] => pen
  | letter :: behind =>
    if isBreak letter then writeBlock indent true (writeBreak pen letter) behind
    else
      let pen := if broken then pen.indent indent else pen
      writeBlock indent false { pen.put letter with indented := false } behind

def indentation : Nat := 2

/-- What the header of a literal block says: the indentation if the first line
hides it, and what becomes of the line breaks at the end. -/
def blockHeader (letters : List Char) : List Char :=
  let startsBlank := letters.head?.any fun letter => isSpace letter || isBreak letter
  let depth := if startsBlank then [Numeral.digitChar indentation] else []
  let chomping :=
    match letters.reverse with
    | [] => ['-']
    | last :: before =>
      if !isBreak last then ['-']
      else if before.head?.all isBreak then ['+']
      else []
  '|' :: depth ++ chomping

/-- Write a text with a look, its lines indented to a column. -/
def writeText (look : Look) (indent : Nat) (pen : Pen) (text : String) : Pen :=
  let letters := text.toList
  match look with
  | .plain => pen.word letters
  | .single =>
    let pen := pen.mark ['\''] true false
    (writeSingle indent false pen letters).mark ['\''] false false
  | .double => pen.word ('"' :: letters.flatMap escape ++ ['"'])
  | .block =>
    let pen := (pen.mark (blockHeader letters) true false).endLine '\n'
    writeBlock indent true { pen with separated := true, indented := true } letters

end Written

end Yaml

end RevisionGuard
