import RevisionGuard.Decimal.Double
import RevisionGuard.Text.Numeral

/-!
# The shortest decimal that reads back

Every decimal in the interval of reals that round to a double reads back as that
double.  `Shortest.ofDouble` finds the one with the fewest digits, and of those
the one nearest to the double; a parameter says which way an exact tie goes.
For a number of digits only the two neighbours of the double on that decimal
grid need to be tried.
-/

namespace RevisionGuard

/-- The decimal `digits * 10 ^ exponent`. -/
structure Decimal where
  digits : Nat
  exponent : Int
  deriving DecidableEq, Repr

namespace Shortest

/-- Which of two equally near decimals is chosen. -/
inductive Tie where
  | toEven
  | up
  deriving DecidableEq

/-- A double and the interval around it in units of a common denominator: the
value and its distances to the ends of the interval are `value`, `below` and
`above` over `denominator`. -/
structure Interval where
  value : Nat
  below : Nat
  above : Nat
  denominator : Nat
  /-- Whether the ends belong to the interval. -/
  closed : Bool

/-- The interval of the reals that round to a positive finite double. -/
def interval (double : Double) : Interval :=
  let closed := double.mantissa % 2 = 0
  let below := if double.isBoundary then 1 else 2
  match double.exponent with
  | .ofNat up =>
    let scale := Nat.pow 2 up
    ⟨4 * double.mantissa * scale, below * scale, 2 * scale, 4, closed⟩
  | .negSucc down => ⟨4 * double.mantissa, below, 2, 4 * Nat.pow 2 (down + 1), closed⟩

/-- A decimal over the denominator of an interval, as a ratio. -/
def ratio (interval : Interval) (decimal : Decimal) : Nat × Nat :=
  match decimal.exponent with
  | .ofNat up => (decimal.digits * Nat.pow 10 up * interval.denominator, 1)
  | .negSucc down => (decimal.digits * interval.denominator, Nat.pow 10 (down + 1))

def contains (interval : Interval) (decimal : Decimal) : Bool :=
  let (numerator, denominator) := ratio interval decimal
  let low := (interval.value - interval.below) * denominator
  let high := (interval.value + interval.above) * denominator
  if interval.closed then low ≤ numerator && numerator ≤ high
  else low < numerator && numerator < high

/-- The grid point not above a value: how often `10 ^ exponent` goes into it. -/
def floorOn (interval : Interval) (exponent : Int) : Nat :=
  match exponent with
  | .ofNat up => interval.value / (interval.denominator * Nat.pow 10 up)
  | .negSucc down => interval.value * Nat.pow 10 (down + 1) / interval.denominator

/-- Compare the distances of a value to the grid points at both sides of it:
whether the lower is nearer, and whether both are equally near. -/
def nearness (interval : Interval) (lower : Decimal) : Bool × Bool :=
  let (first, denominator) := ratio interval lower
  let (second, _) := ratio interval { lower with digits := lower.digits + 1 }
  let value := interval.value * denominator
  (value - first < second - value, value - first = second - value)

/-- The decimal of a grid that reads back, if one of the two neighbours
does. -/
def onGrid? (tie : Tie) (interval : Interval) (exponent : Int) : Option Decimal :=
  let lower : Decimal := ⟨floorOn interval exponent, exponent⟩
  let upper : Decimal := { lower with digits := lower.digits + 1 }
  let (lowerNearer, equal) := nearness interval lower
  let preferLower := lowerNearer || (equal && tie = .toEven && lower.digits % 2 = 0)
  let lowerFits := lower.digits ≠ 0 && contains interval lower
  let upperFits := contains interval upper
  if lowerFits && (preferLower || !upperFits) then some lower
  else if upperFits then some upper
  else none

/-- The exponent of the leading digit of a positive value. -/
def leadingExponent (interval : Interval) : Int :=
  let guess : Int :=
    (Numeral.digits interval.value).length - (Numeral.digits interval.denominator).length
  if floorOn interval guess = 0 then guess - 1 else guess

/-- Search the grids from a number of digits on. -/
def search (tie : Tie) (interval : Interval) (leading : Int) : Nat → Nat → Option Decimal
  | 0, _ => none
  | fuel + 1, count =>
    match onGrid? tie interval (leading - count) with
    | some decimal => some decimal
    | none => search tie interval leading fuel (count + 1)

/-- The most digits that the shortest decimal of a double can have. -/
def mostDigits : Nat := 17

/-- Drop the zeros at the end of the digits. -/
def normalize : Nat → Decimal → Decimal
  | 0, decimal => decimal
  | fuel + 1, decimal =>
    if decimal.digits % 10 = 0 ∧ decimal.digits ≠ 0 then
      normalize fuel ⟨decimal.digits / 10, decimal.exponent + 1⟩
    else decimal

/-- The shortest decimal of a finite double, without its sign. -/
def ofDouble (tie : Tie) (double : Double) : Decimal :=
  if double.isZero then ⟨0, 0⟩
  else
    let interval := interval double
    match search tie interval (leadingExponent interval) (mostDigits + 1) 0 with
    | some decimal => normalize mostDigits decimal
    | none => ⟨0, 0⟩

end Shortest

namespace Decimal

def letters (decimal : Decimal) : List Char := Numeral.digits decimal.digits

/-- The position of the point behind the first digits: how many digits are in
front of it, negative if zeros follow it. -/
def pointPosition (decimal : Decimal) : Int := decimal.letters.length + decimal.exponent

/-- A decimal without exponent.  Zeros fill the gap between the digits and the
point; `whole` is put behind a decimal without fraction. -/
def positional (decimal : Decimal) (whole : String) : String :=
  let letters := decimal.letters
  let point := decimal.pointPosition
  if point ≤ 0 then
    "0." ++ String.ofList (List.replicate (-point).toNat '0' ++ letters)
  else if (letters.length : Int) ≤ point then
    String.ofList (letters ++ List.replicate (point.toNat - letters.length) '0') ++ whole
  else
    String.ofList (letters.take point.toNat) ++ "." ++ String.ofList (letters.drop point.toNat)

/-- A decimal with one digit in front of the point, and an exponent. -/
def scientific (decimal : Decimal) : String :=
  let letters := decimal.letters
  let power := decimal.pointPosition - 1
  let fraction := if letters.length ≤ 1 then "" else "." ++ String.ofList (letters.drop 1)
  let sign := if power < 0 then "-" else ""
  String.ofList (letters.take 1) ++ fraction ++ "e" ++ sign ++ Numeral.text power.natAbs

end Decimal

namespace Double

/-- The text of a double in a document.  The point is written as long as it is
at most 16 digits behind the first one and at most 5 in front of it. -/
def documentText (double : Double) : String :=
  if double.isNan then ".nan"
  else
    let sign := if double.isNegative then "-" else ""
    if double.isInfinite then sign ++ ".inf"
    else if double.isZero then sign ++ "0.0"
    else
      let decimal := Shortest.ofDouble .toEven double
      let point := decimal.pointPosition
      sign ++
        (if -5 < point ∧ point ≤ 16 then decimal.positional ".0" else decimal.scientific)

/-- The text of a double in a message: never with an exponent, and always with
a point if it is a number. -/
def messageText (double : Double) : String :=
  if double.isNan then "NaN"
  else
    let sign := if double.isNegative then "-" else ""
    if double.isInfinite then sign ++ "inf"
    else if double.isZero then sign ++ "0.0"
    else sign ++ (Shortest.ofDouble .up double).positional ".0"

end Double

end RevisionGuard
