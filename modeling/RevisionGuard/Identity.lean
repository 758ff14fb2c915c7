import RevisionGuard.Text.Quoted

/-!
# Identities

The identity of a pod is a random number of 122 bits, written as 32 hexadecimal
digits in five groups.  One digit says that the number is random, and two bits
of another belong to the form.
-/

namespace RevisionGuard

namespace Identity

/-- So many hexadecimal digits of a number, the least significant one last. -/
def digits (count number : Nat) : List Char :=
  (List.range count).reverse.map fun place => Quoted.hexDigit (number / Nat.pow 16 place % 16)

/-- The identity that a number of 128 bits stands for; six of them make no
difference. -/
def ofNumber (number : Nat) : String :=
  let group (count behind : Nat) : List Char := digits count (number / Nat.pow 16 behind)
  let form := Quoted.hexDigit (8 + number / Nat.pow 16 15 % 4)
  String.ofList (group 8 24 ++ '-' :: group 4 20 ++ '-' :: '4' :: group 3 16 ++
    '-' :: form :: group 3 12 ++ '-' :: group 12 0)

end Identity

end RevisionGuard
