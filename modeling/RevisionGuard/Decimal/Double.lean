/-!
# Double precision numbers

The numbers of the 64-bit binary floating point format, by their bits.  A
finite one is `mantissa * 2 ^ exponent` with a sign; `Double.ofRatio` rounds a
ratio of natural numbers to the nearest, ties to the even mantissa.
-/

namespace RevisionGuard

/-- A number of the 64-bit binary floating point format. -/
structure Double where
  /-- Its bits: sign, eleven bits of exponent, and fraction. -/
  bits : UInt64
  deriving DecidableEq, Repr

namespace Double

def fractionWidth : Nat := 52

def fractionCount : Nat := Nat.pow 2 fractionWidth

/-- The exponent field of infinities and of what is no number. -/
def specialField : Nat := 2047

/-- The distance between the exponent field of a number and the exponent of its
mantissa. -/
def bias : Int := 1075

/-- What a sign that is set adds to the bits. -/
def signBit : Nat := Nat.pow 2 63

def isNegative (double : Double) : Bool := signBit ≤ double.bits.toNat

def exponentField (double : Double) : Nat := double.bits.toNat / fractionCount % 2048

def fractionField (double : Double) : Nat := double.bits.toNat % fractionCount

def isNan (double : Double) : Bool :=
  double.exponentField = specialField && double.fractionField ≠ 0

def isInfinite (double : Double) : Bool :=
  double.exponentField = specialField && double.fractionField = 0

def isZero (double : Double) : Bool := double.exponentField = 0 && double.fractionField = 0

def mantissa (double : Double) : Nat :=
  if double.exponentField = 0 then double.fractionField
  else fractionCount + double.fractionField

/-- The exponent of the mantissa of a finite number. -/
def exponent (double : Double) : Int := (max double.exponentField 1 : Nat) - bias

/-- Whether the mantissa is the least of its exponent, so that the neighbour
below is nearer than the one above. -/
def isBoundary (double : Double) : Bool :=
  double.fractionField = 0 && 1 < double.exponentField

def ofFields (negative : Bool) (exponentField fractionField : Nat) : Double :=
  let sign := if negative then signBit else 0
  ⟨UInt64.ofNat (sign + exponentField * fractionCount + fractionField)⟩

def infinity (negative : Bool) : Double := ofFields negative specialField 0

def nan : Double := ofFields false specialField (fractionCount / 2)

/-- The natural number nearest to a ratio, ties to the even one. -/
def roundRatio (numerator denominator : Nat) : Nat :=
  let quotient := numerator / denominator
  let remainder := numerator % denominator
  if denominator < 2 * remainder ∨ (2 * remainder = denominator ∧ quotient % 2 = 1) then
    quotient + 1
  else quotient

/-- A ratio scaled down by a power of two, rounded to a natural number. -/
def scaledRatio (numerator denominator : Nat) (power : Int) : Nat :=
  match power with
  | .ofNat up => roundRatio numerator (denominator * Nat.pow 2 up)
  | .negSucc down => roundRatio (numerator * Nat.pow 2 (down + 1)) denominator

/-- The finite number nearest to a positive ratio, or infinity if the ratio is
beyond them all. -/
def ofRatio (negative : Bool) (numerator denominator : Nat) : Double :=
  if numerator = 0 then ofFields negative 0 0
  else
    -- The exponent is one for which the mantissa has 53 bits, or 54.
    let guess : Int := (Nat.log2 numerator : Int) - (Nat.log2 denominator : Int) - 53
    let least : Int := 1 - bias
    let first := max guess least
    let scaled := scaledRatio numerator denominator first
    let power := if 2 * fractionCount ≤ scaled ∧ least ≤ first then first + 1 else first
    let mantissa :=
      if power = first then scaled else scaledRatio numerator denominator power
    -- Rounding up may carry into the next exponent.
    let (mantissa, power) :=
      if mantissa = 2 * fractionCount then (fractionCount, power + 1) else (mantissa, power)
    if mantissa < fractionCount then ofFields negative 0 mantissa
    else
      let field := (power + bias).toNat
      if specialField ≤ field then infinity negative
      else ofFields negative field (mantissa - fractionCount)

/-- The decimal exponent beyond which every number is infinite. -/
def largestDecimalExponent : Int := 400

/-- The number nearest to `digits * 10 ^ exponent`. -/
def ofDecimal (negative : Bool) (digits : Nat) (exponent : Int) : Double :=
  let magnitude := exponent + (Nat.log2 digits : Int) / 3
  if digits = 0 then ofFields negative 0 0
  else if largestDecimalExponent < exponent then infinity negative
  else if magnitude < -largestDecimalExponent then ofFields negative 0 0
  else
    match exponent with
    | .ofNat up => ofRatio negative (digits * Nat.pow 10 up) 1
    | .negSucc down => ofRatio negative digits (Nat.pow 10 (down + 1))

/-- Whether two numbers are the same: zeros of both signs are, and so is what is
no number. -/
def same (double other : Double) : Bool :=
  (double.isNan && other.isNan) || (double.isZero && other.isZero) || double = other

end Double

end RevisionGuard
