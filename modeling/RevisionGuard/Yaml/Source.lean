import RevisionGuard.Text.Numeral
import RevisionGuard.Text.Utf8

/-!
# The characters of a document

A document is UTF-8 and holds printable characters, tabs and line breaks only.
Bytes that break these rules make the document unreadable from some place on:
`Source` holds the characters in front of that place, and what is wrong there.
The bytes are taken in portions, and a portion with a fault in it gives no
characters at all.
-/

namespace RevisionGuard

namespace Yaml

/-- What is wrong with the bytes of a document. -/
inductive ByteProblem where
  | leadOctet
  | incompleteSequence
  | trailOctet
  | sequenceLength
  | character
  | control
  deriving DecidableEq, Repr

def ByteProblem.text : ByteProblem → String
  | .leadOctet => "invalid leading UTF-8 octet"
  | .incompleteSequence => "incomplete UTF-8 octet sequence"
  | .trailOctet => "invalid trailing UTF-8 octet"
  | .sequenceLength => "invalid length of a UTF-8 sequence"
  | .character => "invalid Unicode character"
  | .control => "control characters are not allowed"

/-- Bytes that are no text, and how many bytes are in front of them. -/
structure ByteFault where
  problem : ByteProblem
  offset : Nat
  deriving DecidableEq, Repr

/-- The message of a fault.  The first byte is not named. -/
def ByteFault.message (fault : ByteFault) : String :=
  fault.problem.text ++
    (if fault.offset = 0 then "" else " at position " ++ Numeral.text fault.offset)

def isAllowed (letter : Char) : Bool :=
  letter = '\t' || letter = '\n' || letter = '\r' ||
    (0x20 ≤ letter.toNat && letter.toNat ≤ 0x7e) || letter.toNat = 0x85 ||
    (0xa0 ≤ letter.toNat && letter.toNat ≠ 0xfffe && letter.toNat ≠ 0xffff)

/-- The characters of a document up to a fault in its bytes. -/
structure Source where
  letters : List Char
  fault : Option ByteFault

namespace Source

/-- The number of bytes in one portion. -/
def portion : Nat := 16384

/-- Read on, with the characters found so far in reverse and, apart from them,
those of the portions that are complete. -/
def read (offset : Nat) (complete letters : List Char) : Bytes → Source
  | [] => ⟨letters.reverse, none⟩
  | lead :: rest =>
    let broken (problem : ByteProblem) (distance : Nat) : Source :=
      ⟨complete.reverse, some ⟨problem, offset + distance⟩⟩
    match Utf8.step lead rest with
    | .character letter width =>
      if isAllowed letter then
        read (offset + width)
          (if (offset + width) / portion = offset / portion then complete else letter :: letters)
          (letter :: letters) (rest.drop (width - 1))
      else broken .control 0
    | .badLead => broken .leadOctet 0
    | .incomplete => ⟨letters.reverse, some ⟨.incompleteSequence, offset⟩⟩
    | .badTrail distance => broken .trailOctet distance
    | .overlong => broken .sequenceLength 0
    | .noCharacter _ => broken .character 0
termination_by bytes => bytes.length
decreasing_by simp only [List.length_drop, List.length_cons]; omega

def ofBytes (bytes : Bytes) : Source := read 0 [] [] bytes

end Source

end Yaml

end RevisionGuard
