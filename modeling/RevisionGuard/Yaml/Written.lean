import RevisionGuard.Decimal.Shortest
import RevisionGuard.Yaml.Fault
import RevisionGuard.Yaml.Token.Property
import RevisionGuard.Yaml.Value
import RevisionGuard.Yaml.Written.Scalar

/-!
# The written form of values

A value is written in block form: one line per scalar, mappings and sequences by
indentation, and only empty collections in brackets.  A sequence that is the
value of a key is indented like the key.  `Value.write?` writes the mapping that
a document consists of.

One shape has no written form: a mapping with one entry and without a tag whose
key is itself a mapping with one entry, or has a tag.  The start of such a
mapping cannot be told from a tag (`Value.isWritable`).
-/

namespace RevisionGuard

namespace Yaml

namespace Written

/-! ## Tags -/

def isPlainTagByte (byte : UInt8) : Bool :=
  byte < 0x80 && byte.toNat ≠ '!'.toNat && Token.isEnclosedTagLetter (Char.ofNat byte.toNat)

def tagByte (byte : UInt8) : List Char :=
  if isPlainTagByte byte then [Char.ofNat byte.toNat] else '%' :: hexDigits byte.toNat 2

def tagLetters (letters : List Char) : List Char :=
  (Utf8.encode letters).flatMap tagByte

def markedTag (tag : String) : List Char :=
  if tag.toList.head? = some '!' then tag.toList else '!' :: tag.toList

def writeTag (pen : Pen) : Option String → Pen
  | none => pen
  | some tag =>
    match markedTag tag with
    | mark :: letter :: behind => pen.word (mark :: tagLetters (letter :: behind))
    | letters => pen.word ('!' :: '<' :: tagLetters letters ++ ['>'])

def tagSize : Option String → Nat
  | none => 0
  | some tag => (String.ofList (markedTag tag)).utf8ByteSize

/-! ## Keys -/

/-- The most bytes that a key within a line can have. -/
def longestKey : Nat := 128

def scalarText : Value → String
  | .boolean true => "true"
  | .boolean false => "false"
  | .integer value => integerText value
  | .float value => value.documentText
  | _ => "null"

/-- Whether a value under a tag can be a key within a line. -/
def isSimpleKey (tag : Option String) : Value → Bool
  | .text text => !isMultiline text.toList && tagSize tag + text.utf8ByteSize ≤ longestKey
  | .sequence items => items.isEmpty && tagSize tag ≤ longestKey
  | .mapping entries => entries.isEmpty && tagSize tag ≤ longestKey
  | .tagged inner value => isSimpleKey (some inner) value
  | scalar => tagSize tag + (scalarText scalar).utf8ByteSize ≤ longestKey

/-! ## Values -/

/-- Where a value is written. -/
inductive Position where
  | item
  /-- A key within its line. -/
  | simpleKey
  /-- A key with a line of its own, or the value of a key. -/
  | entry
  deriving DecidableEq

def writeEmpty (pen : Pen) (opening closing : Char) : Pen :=
  (pen.mark [opening] true true).mark [closing] false false

mutual
/-- Write a value inside a collection indented to a column. -/
def writeValue (position : Position) (indent : Nat) (tag : Option String) (pen : Pen) :
    Value → Pen
  | .text text =>
    writeText (look (position = .simpleKey) text) (indent + indentation) (writeTag pen tag) text
  | .sequence [] => writeEmpty (writeTag pen tag) '[' ']'
  | .sequence (item :: others) =>
    let pen := writeTag pen tag
    -- Behind the key of an entry a sequence need not be indented deeper.
    let inner := if position ≠ .item && !pen.indented then indent else indent + indentation
    writeItems inner pen (item :: others)
  | .mapping [] => writeEmpty (writeTag pen tag) (Char.ofNat 0x7b) (Char.ofNat 0x7d)
  | .mapping (entry :: others) =>
    writeEntries (indent + indentation) (writeTag pen tag) (entry :: others)
  | .tagged inner value => writeValue position indent (some inner) pen value
  | .null => (writeTag pen tag).word "null".toList
  | .boolean value => (writeTag pen tag).word (scalarText (.boolean value)).toList
  | .integer value => (writeTag pen tag).word (scalarText (.integer value)).toList
  | .float value => (writeTag pen tag).word (scalarText (.float value)).toList

def writeItems (indent : Nat) (pen : Pen) : List Value → Pen
  | [] => pen
  | item :: others =>
    writeItems indent (writeValue .item indent none ((pen.indent indent).bullet '-') item) others

def writeEntries (indent : Nat) (pen : Pen) : List (Value × Value) → Pen
  | [] => pen
  | (key, value) :: others =>
    let pen := pen.indent indent
    let pen :=
      if isSimpleKey none key then
        (writeValue .simpleKey indent none pen key).mark [':'] false false
      else
        ((writeValue .entry indent none (pen.bullet '?') key).indent indent).bullet ':'
    writeEntries indent (writeValue .entry indent none pen value) others
end

end Written

namespace Value

/-- Whether a key cannot be told from a tag in a mapping with one entry. -/
def isConfusable : Value → Bool
  | .mapping [_] => true
  | .tagged _ _ => true
  | _ => false

mutual
def isWritable : Value → Bool
  | .sequence items => areWritable items
  | .mapping [(key, value)] => !key.isConfusable && isWritable key && isWritable value
  | .mapping entries => areEntriesWritable entries
  | .tagged _ (.mapping entries) => areEntriesWritable entries
  | .tagged _ value => isWritable value
  | _ => true

def areWritable : List Value → Bool
  | [] => true
  | item :: others => isWritable item && areWritable others

def areEntriesWritable : List (Value × Value) → Bool
  | [] => true
  | (key, value) :: others => isWritable key && isWritable value && areEntriesWritable others
end

/-- The document that consists of a mapping with these entries, if every value
in it has a written form. -/
def write? (entries : List (Value × Value)) : Option String :=
  if areEntriesWritable entries then
    some ((Written.writeEntries 0 Pen.blank entries).indent 0).text
  else none

end Value

end Yaml

end RevisionGuard
