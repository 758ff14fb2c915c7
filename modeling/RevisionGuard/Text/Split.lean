/-!
# Splitting a text

A text is split at a separator from the left: the occurrences that count do not
overlap, and there is one piece more than there are of them.
-/

namespace RevisionGuard

namespace Split

/-- Put a letter in front of the first piece. -/
def prepend (letter : Char) : List (List Char) → List (List Char)
  | [] => [[letter]]
  | piece :: others => (letter :: piece) :: others

/-- The pieces of a text between the occurrences of a separator. -/
def pieces (separator : List Char) : List Char → List (List Char)
  | [] => [[]]
  | letter :: rest =>
    if separator.isPrefixOf (letter :: rest) then
      [] :: pieces separator (rest.drop (separator.length - 1))
    else prepend letter (pieces separator rest)
termination_by letters => letters.length
decreasing_by
  · simp only [List.length_drop, List.length_cons]; omega
  · simp

end Split

end RevisionGuard
