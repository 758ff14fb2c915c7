/-!
# Decimal numerals of 64-bit numbers

Revisions and durations are written in decimal.  `Numeral.digits?` reads a run
of ASCII digits and says why it cannot, digit by digit, so the first fault met
from the left is the one reported: a letter that is no digit, or a value that
has already left the 64-bit range.  `Numeral.parse` also allows one plus sign.
`Numeral.text` writes the shortest numeral of a number.
-/

namespace RevisionGuard

namespace Numeral

/-- Why a text is not the numeral of a 64-bit number. -/
inductive Fault where
  | empty
  /-- A letter is not a digit, or a sign stands alone. -/
  | invalidDigit
  | tooLarge
  deriving DecidableEq, Repr

def Fault.message : Fault → String
  | .empty => "cannot parse integer from empty string"
  | .invalidDigit => "invalid digit found in string"
  | .tooLarge => "number too large to fit in target type"

/-- The number of 64-bit values: every numeral denotes a smaller number. -/
def bound : Nat := 18446744073709551616

def digit? (letter : Char) : Option Nat :=
  if '0' ≤ letter ∧ letter ≤ '9' then some (letter.toNat - '0'.toNat) else none

/-- Read further digits behind a value. -/
def extend (value : Nat) : List Char → Except Fault Nat
  | [] => .ok value
  | letter :: rest =>
    match digit? letter with
    | none => .error .invalidDigit
    | some digit =>
      if value * 10 + digit < bound then extend (value * 10 + digit) rest
      else .error .tooLarge

/-- Read a non-empty run of digits without a sign. -/
def digits? : List Char → Except Fault Nat
  | [] => .error .empty
  | letters => extend 0 letters

/-- Read a numeral: digits, behind at most one plus sign. -/
def parse (text : String) : Except Fault UInt64 :=
  match text.toList with
  | [] => .error .empty
  | ['+'] => .error .invalidDigit
  | '+' :: letters => (digits? letters).map UInt64.ofNat
  | letters => (digits? letters).map UInt64.ofNat

/-- The ASCII digit of a value below ten. -/
def digitChar (value : Nat) : Char := Char.ofNat ('0'.toNat + value)

/-- The digits of a number, the most significant first and without leading
zeros. -/
def digits (value : Nat) : List Char :=
  if value < 10 then [digitChar value]
  else digits (value / 10) ++ [digitChar (value % 10)]

def text (value : Nat) : String := String.ofList (digits value)

/-- A numeral filled up with zeros on the left to a width. -/
def padded (width value : Nat) : String :=
  let shortest := digits value
  String.ofList (List.replicate (width - shortest.length) '0' ++ shortest)

end Numeral

/-- A deployment generation of a static pod. -/
abbrev Revision := UInt64

def Revision.text (revision : Revision) : String := Numeral.text revision.toNat

end RevisionGuard
