import RevisionGuard.Decimal.Double
import RevisionGuard.Yaml.Cursor

/-!
# What plain scalars stand for

A scalar without quotes and without a type of its own stands for nothing, a
boolean, a number or a text, by its letters alone.  `Literal.ofLetters` decides
which; the readers of the single types are used where a document asks for a
type.
-/

namespace RevisionGuard

namespace Yaml

/-- What a plain scalar stands for. -/
inductive Literal where
  | null
  | boolean (value : Bool)
  /-- An integer of 64 bits, with or without a sign. -/
  | integer (value : Int)
  /-- An integer of 128 bits that does not fit in 64, without a sign. -/
  | wideUnsigned (value : Int)
  /-- An integer of 128 bits that does not fit in 64, with a sign. -/
  | wideSigned (value : Int)
  | float (value : Double)
  | text
  deriving DecidableEq

namespace Literal

/-- Whether a text spells that there is nothing. -/
def isNull (text : String) : Bool := ["null", "Null", "NULL", "~"].contains text

/-- The truth value that a text spells. -/
def boolean? (text : String) : Option Bool :=
  if ["true", "True", "TRUE"].contains text then some true
  else if ["false", "False", "FALSE"].contains text then some false
  else none

/-! ## Integers -/

/-- The number that letters spell in a base. -/
def natural? (base value : Nat) : List Char → Option Nat
  | [] => some value
  | letter :: rest =>
    match hexDigit? letter with
    | some digit => if digit < base then natural? base (value * base + digit) rest else none
    | none => none

/-- The number that at least one letter spells in a base. -/
def digits? (base : Nat) (letters : List Char) : Option Nat :=
  if letters.isEmpty then none else natural? base 0 letters

/-- The bases that are marked in front of the digits, with their marks. -/
def markedBases : List (Char × Nat) := [('x', 16), ('o', 8), ('b', 2)]

def isSigned (letters : List Char) : Bool :=
  letters.head? = some '+' || letters.head? = some '-'

def withoutSign (letters : List Char) : List Char :=
  if isSigned letters then letters.tail else letters

/-- Whether a text is digits behind a needless zero.  It then stands for
itself. -/
def hasNeedlessZero (letters : List Char) : Bool :=
  let unsigned := withoutSign letters
  2 ≤ unsigned.length && unsigned.head? = some '0' &&
    unsigned.all fun letter => '0' ≤ letter && letter ≤ '9'

/-- The number that letters without a sign spell in the base they mark. -/
def marked? : List Char → Option Nat
  | '0' :: mark :: letters =>
    match markedBases.lookup mark with
    | some base => digits? base letters
    | none => none
  | _ => none

/-- The letters behind one plus sign, if there is one. -/
def withoutPlus : List Char → List Char
  | '+' :: letters => letters
  | letters => letters

/-- The natural number that letters spell below a bound. -/
def unsigned? (bound : Nat) (letters : List Char) : Option Nat :=
  let behind := withoutPlus letters
  match (marked? behind).filter (· < bound) with
  | some value => some value
  | none =>
    if isSigned behind || hasNeedlessZero letters then none
    else (digits? 10 behind).filter (· < bound)

/-- The integer that letters spell with a sign within bounds: at least
`-bound`, and below it. -/
def signed? (bound : Nat) (letters : List Char) : Option Int :=
  match letters with
  | '-' :: behind =>
    match (marked? behind).filter (· ≤ bound) with
    | some value => some (-(value : Int))
    | none =>
      if hasNeedlessZero letters then none
      else ((digits? 10 behind).filter (· ≤ bound)).map fun value => -(value : Int)
  | _ =>
    if hasNeedlessZero letters then none
    else ((digits? 10 (withoutPlus letters)).filter (· < bound)).map Int.ofNat

def integer? (letters : List Char) : Option Literal :=
  match unsigned? (Nat.pow 2 64) letters with
  | some value => some (.integer value)
  | none =>
    match signed? (Nat.pow 2 63) letters with
    | some value => some (.integer value)
    | none =>
      match unsigned? (Nat.pow 2 128) letters with
      | some value => some (.wideUnsigned value)
      | none => (signed? (Nat.pow 2 127) letters).map .wideSigned

/-! ## Floats -/

/-- The digits at the front of letters, and what follows them. -/
def leadingDigits (letters : List Char) : List Char × List Char :=
  letters.span fun letter => '0' ≤ letter && letter ≤ '9'

def digitsValue (letters : List Char) : Nat :=
  letters.foldl (fun value letter => value * 10 + (letter.toNat - '0'.toNat)) 0

/-- The power of ten that letters behind the digits spell; none spell zero. -/
def power? : List Char → Option Int
  | [] => some 0
  | mark :: letters =>
    if mark = 'e' ∨ mark = 'E' then
      let (digits, rest) := leadingDigits (withoutSign letters)
      if digits.isEmpty || !rest.isEmpty then none
      else
        let value := digitsValue digits
        some (if letters.head? = some '-' then -(value : Int) else value)
    else none

/-- The number that letters without a sign spell: digits with a point among
them, and perhaps a power of ten. -/
def decimal? (negative : Bool) (letters : List Char) : Option Double := do
  let (whole, behind) := leadingDigits letters
  let (fraction, behind) :=
    match behind with
    | '.' :: further => leadingDigits further
    | _ => ([], behind)
  if whole.isEmpty && fraction.isEmpty then none
  else
    let power ← power? behind
    return Double.ofDecimal negative (digitsValue (whole ++ fraction)) (power - fraction.length)

/-- The float that letters spell.  A number that is too large is none. -/
def float? (letters : List Char) : Option Double :=
  let text := String.ofList letters
  let behind := withoutPlus letters
  if letters.head? = some '+' ∧ isSigned behind then none
  else if [".inf", ".Inf", ".INF"].contains (String.ofList behind) then
    some (Double.infinity false)
  else if ["-.inf", "-.Inf", "-.INF"].contains text then some (Double.infinity true)
  else if [".nan", ".NaN", ".NAN"].contains text then some Double.nan
  else
    match decimal? (behind.head? = some '-') (withoutSign behind) with
    | some value => if value.isInfinite then none else some value
    | none => none

/-! ## All types -/

/-- What the letters of a plain scalar stand for. -/
def ofText (text : String) : Literal :=
  if text.isEmpty || isNull text then .null
  else
    match boolean? text with
    | some value => .boolean value
    | none =>
      let letters := text.toList
      match integer? letters with
      | some literal => literal
      | none =>
        if hasNeedlessZero letters then .text
        else
          match float? letters with
          | some value => .float value
          | none => .text

end Literal

end Yaml

end RevisionGuard
