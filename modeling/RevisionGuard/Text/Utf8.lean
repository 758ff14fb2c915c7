/-!
# Characters as bytes

UTF-8, written with `Utf8.encode` and read strictly and in one pass.
`Utf8.Step` says what stands at the front
of a run of bytes: a character and how many bytes it took, or which byte breaks
the form.  `Utf8.text?` reads a whole run of bytes and refuses overlong forms
and surrogates.
-/

namespace RevisionGuard

/-- The contents of a file. -/
abbrev Bytes : Type := List UInt8

namespace Utf8

def encode (letters : List Char) : Bytes := letters.flatMap String.utf8EncodeChar

def ofText (text : String) : Bytes := encode text.toList

/-- The number of bytes that a leading byte announces. -/
def width? (lead : UInt8) : Option Nat :=
  if lead &&& 0x80 = 0x00 then some 1
  else if lead &&& 0xe0 = 0xc0 then some 2
  else if lead &&& 0xf0 = 0xe0 then some 3
  else if lead &&& 0xf8 = 0xf0 then some 4
  else none

/-- The bits that a leading byte contributes to a code point. -/
def leadBits (width : Nat) (lead : UInt8) : Nat :=
  match width with
  | 1 => (lead &&& 0x7f).toNat
  | 2 => (lead &&& 0x1f).toNat
  | 3 => (lead &&& 0x0f).toNat
  | _ => (lead &&& 0x07).toNat

/-- Whether a byte continues a character. -/
def isTrailing (byte : UInt8) : Bool := byte &&& 0xc0 = 0x80

/-- Whether a code point is written in the shortest form with this many
bytes. -/
def isShortest (width point : Nat) : Bool :=
  match width with
  | 1 => true
  | 2 => 0x80 ≤ point
  | 3 => 0x800 ≤ point
  | _ => 0x10000 ≤ point

/-- Whether a number is the code point of a character. -/
def isScalar (point : Nat) : Bool :=
  point < 0xd800 || (0xe000 ≤ point && point ≤ 0x10ffff)

/-- What stands at the front of a run of bytes. -/
inductive Step where
  | character (letter : Char) (width : Nat)
  | badLead
  | incomplete
  /-- The byte at this distance does not continue the character. -/
  | badTrail (distance : Nat)
  | overlong
  | noCharacter (point : Nat)

/-- Add the bits of the trailing bytes to a code point. -/
def gather (point distance : Nat) : Bytes → Except Nat Nat
  | [] => .ok point
  | byte :: rest =>
    if isTrailing byte then gather (point * 64 + (byte &&& 0x3f).toNat) (distance + 1) rest
    else .error distance

/-- Read one character off the front of a non-empty run of bytes. -/
def step (lead : UInt8) (rest : Bytes) : Step :=
  match width? lead with
  | none => .badLead
  | some width =>
    let trailing := rest.take (width - 1)
    if trailing.length + 1 < width then .incomplete
    else
      match gather (leadBits width lead) 1 trailing with
      | .error distance => .badTrail distance
      | .ok point =>
        if !isShortest width point then .overlong
        else if isScalar point then .character (Char.ofNat point) width
        else .noCharacter point

/-- The characters that a run of bytes encodes, if all of it is well formed. -/
def letters? : Bytes → Option (List Char)
  | [] => some []
  | lead :: rest =>
    match step lead rest with
    | .character letter width => (letters? (rest.drop (width - 1))).map (letter :: ·)
    | _ => none
termination_by bytes => bytes.length
decreasing_by simp only [List.length_drop, List.length_cons]; omega

/-- The text that a run of bytes encodes, if all of it is well formed. -/
def text? (bytes : Bytes) : Option String := (letters? bytes).map String.ofList

end Utf8

end RevisionGuard
