/-!
# White space

The white space of the Unicode standard, and its removal at both ends of a
text.
-/

namespace RevisionGuard

namespace Blank

/-- The ranges of code points that have the White_Space property. -/
def ranges : List (Nat × Nat) :=
  [(0x09, 0x0d), (0x20, 0x20), (0x85, 0x85), (0xa0, 0xa0), (0x1680, 0x1680), (0x2000, 0x200a),
    (0x2028, 0x2029), (0x202f, 0x202f), (0x205f, 0x205f), (0x3000, 0x3000)]

def isBlank (letter : Char) : Bool :=
  ranges.any fun (first, last) => first ≤ letter.toNat && letter.toNat ≤ last

def trimFront (letters : List Char) : List Char := letters.dropWhile isBlank

def trim (letters : List Char) : List Char :=
  (trimFront (trimFront letters).reverse).reverse

end Blank

end RevisionGuard
