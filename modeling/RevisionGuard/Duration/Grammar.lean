import RevisionGuard.Duration
import RevisionGuard.Text.Blank
import RevisionGuard.Text.Quoted

/-!
# Written durations

A duration is written as a run of decimal digits and a unit: `250ms`, `30s`,
`2m`, `1h`, or a bare number of seconds.  White space around it is ignored.
`Duration.parse` reads it exactly and refuses what does not fit.
-/

namespace RevisionGuard

namespace Duration

/-- Why a text is no duration.  Each fault carries the text without the white
space around it. -/
inductive Fault where
  /-- The text does not start with a number of 64 bits. -/
  | malformed (text : String)
  | unknownUnit (text : String)
  | outOfRange (text : String)
  deriving DecidableEq, Repr

def Fault.message : Fault → String
  | .malformed text => "invalid duration " ++ quoted text
  | .unknownUnit text => "invalid duration unit in " ++ quoted text
  | .outOfRange text => "duration " ++ quoted text ++ " out of range"

/-- The nanoseconds of a unit; without a unit a number counts seconds. -/
def unit? : List Char → Option Nat
  | [] => some nanosecondsPerSecond
  | ['s'] => some nanosecondsPerSecond
  | ['m', 's'] => some 1000000
  | ['m'] => some (60 * nanosecondsPerSecond)
  | ['h'] => some (3600 * nanosecondsPerSecond)
  | _ => none

def isDigit (letter : Char) : Bool := (Numeral.digit? letter).isSome

def parse (text : String) : Except Fault Duration :=
  let letters := Blank.trim text.toList
  let trimmed := String.ofList letters
  match Numeral.digits? (letters.takeWhile isDigit) with
  | .error _ => .error (.malformed trimmed)
  | .ok count =>
    match unit? (letters.dropWhile isDigit) with
    | none => .error (.unknownUnit trimmed)
    | some unit =>
      match ofNanoseconds? (count * unit) with
      | none => .error (.outOfRange trimmed)
      | some duration => .ok duration

end Duration

end RevisionGuard
