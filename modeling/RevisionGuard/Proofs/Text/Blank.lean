import RevisionGuard.Text.Blank
import Mathlib.Data.List.DropRight
import Mathlib.Tactic.Common

/-!
# What trimming leaves

A text without the white space around it (`Blank.Trims`) is a part of the text that starts
and ends with no white space, and white space is all that stands around it.  There is only
one such part, and it is what `Blank.trim` leaves (`Blank.trims_iff`).
-/

namespace RevisionGuard

namespace Blank

variable {letters core front rest : List Char}

/-- A text is another one with white space around it, of which it keeps none. -/
structure Trims (letters core : List Char) : Prop where
  around : ∃ front back, letters = front ++ (core ++ back) ∧
    (∀ letter ∈ front, isBlank letter = true) ∧ (∀ letter ∈ back, isBlank letter = true)
  first : ∀ letter ∈ core.head?, isBlank letter = false
  last : ∀ letter ∈ core.getLast?, isBlank letter = false

theorem dropWhile_append_of_blank (hfront : ∀ letter ∈ front, isBlank letter = true)
    (hrest : ∀ letter ∈ rest.head?, isBlank letter = false) :
    (front ++ rest).dropWhile isBlank = rest := by
  rw [List.dropWhile_append_of_pos hfront]
  cases rest with
  | nil => rfl
  | cons letter rest =>
      have hletter := hrest letter rfl
      rw [List.dropWhile_cons, if_neg (by simp [hletter])]

/-- White space in front, and behind it a text that starts with none. -/
theorem exists_dropWhile_eq (letters : List Char) :
    ∃ front, letters = front ++ letters.dropWhile isBlank ∧
      (∀ letter ∈ front, isBlank letter = true) ∧
      ∀ letter ∈ (letters.dropWhile isBlank).head?, isBlank letter = false := by
  refine ⟨letters.takeWhile isBlank, List.takeWhile_append_dropWhile.symm, ?_, ?_⟩
  · intro letter hletter
    exact List.mem_takeWhile_imp hletter
  · intro letter hletter
    have hnot := List.head?_dropWhile_not isBlank letters
    rw [Option.mem_def.mp hletter] at hnot
    simpa using hnot

theorem trims_trim (letters : List Char) : Trims letters (trim letters) := by
  obtain ⟨front, hletters, hfront, hfirst⟩ := exists_dropWhile_eq letters
  obtain ⟨back, hrest, hback, hlast⟩ := exists_dropWhile_eq (letters.dropWhile isBlank).reverse
  have hcore : letters.dropWhile isBlank = trim letters ++ back.reverse := by
    rw [← List.reverse_reverse (letters.dropWhile isBlank), hrest, List.reverse_append]
    rfl
  refine ⟨⟨front, back.reverse, ?_, hfront, ?_⟩, ?_, ?_⟩
  · rw [← hcore]
    exact hletters
  · intro letter hletter
    exact hback letter (List.mem_reverse.mp hletter)
  · -- the front of what is left is the front of what was left before
    intro letter hletter
    apply hfirst letter
    rw [hcore, List.head?_append, Option.mem_def.mp hletter]
    rfl
  · intro letter hletter
    apply hlast letter
    rwa [trim, List.getLast?_reverse] at hletter

theorem trims_iff : Trims letters core ↔ core = trim letters := by
  constructor
  · intro htrims
    obtain ⟨front, back, hletters, hfront, hback⟩ := htrims.around
    by_cases hcore : core = []
    · subst hcore
      have hblank : ∀ letter ∈ front ++ ([] ++ back), isBlank letter = true := by
        rw [List.nil_append]
        exact List.forall_mem_append.mpr ⟨hfront, hback⟩
      rw [trim, trimFront, trimFront, hletters, List.dropWhile_eq_nil_iff.mpr hblank]
      rfl
    · have hfirst : ∀ letter ∈ (core ++ back).head?, isBlank letter = false := by
        rw [List.head?_append_of_ne_nil _ hcore]
        exact htrims.first
      have hlast : ∀ letter ∈ core.reverse.head?, isBlank letter = false := by
        rw [List.head?_reverse]
        exact htrims.last
      have hbehind : ∀ letter ∈ back.reverse, isBlank letter = true := by
        intro letter hletter
        exact hback letter (List.mem_reverse.mp hletter)
      rw [trim, trimFront, trimFront, hletters, dropWhile_append_of_blank hfront hfirst,
        List.reverse_append, dropWhile_append_of_blank hbehind hlast, List.reverse_reverse]
  · rintro rfl
    exact trims_trim letters

end Blank

end RevisionGuard
