import RevisionGuard.Text.Split
import Mathlib.Data.List.Basic
import Mathlib.Tactic.Common

/-!
# Where a text is split

A text is cut at the first occurrence of the separator (`Split.Cuts`): the first piece is
what stands in front of it, and the other pieces are those of what stands behind
(`Split.pieces_of_cuts`).  A text without the separator is one piece
(`Split.pieces_of_not_occurs`).  Every text is of one of these two kinds, so a text has
exactly two pieces if and only if the separator stands between them and is not met again
(`Split.pieces_eq_pair_iff`).
-/

namespace RevisionGuard

namespace Split

variable {separator letters front back : List Char}

/-- The separator is met in a text behind a front, and no earlier. -/
structure Cuts (separator letters front back : List Char) : Prop where
  eq : letters = front ++ (separator ++ back)
  first : ∀ earlier later, front = earlier ++ later → later ≠ [] →
    ¬ separator <+: later ++ (separator ++ back)

/-- A text that starts with the separator is cut there. -/
theorem cuts_at_once (separator back : List Char) : Cuts separator (separator ++ back) [] back := by
  refine ⟨rfl, ?_⟩
  intro earlier later hnil hlater
  exact absurd (List.append_eq_nil_iff.mp hnil.symm).2 hlater

/-- What stands behind the separator has no part in where it is first met. -/
theorem cuts_append_iff :
    Cuts separator (letters ++ back) front back ↔ Cuts separator letters front [] := by
  constructor
  · intro hcuts
    refine ⟨?_, ?_⟩
    · have heq := hcuts.eq
      rw [← List.append_assoc] at heq
      rw [List.append_nil]
      exact List.append_cancel_right heq
    · intro earlier later hfront hlater hprefix
      apply hcuts.first earlier later hfront hlater
      rw [List.append_nil] at hprefix
      rw [← List.append_assoc]
      exact hprefix.trans (List.prefix_append _ _)
  · intro hcuts
    refine ⟨?_, ?_⟩
    · rw [hcuts.eq, List.append_nil, List.append_assoc]
    · intro earlier later hfront hlater hprefix
      apply hcuts.first earlier later hfront hlater
      rw [← List.append_assoc] at hprefix
      rw [List.append_nil]
      exact List.prefix_of_prefix_length_le hprefix (List.prefix_append _ _) (by simp)

theorem Cuts.of_cons {letter : Char} (hcuts : Cuts separator letters (letter :: front) back) :
    Cuts separator (front ++ (separator ++ back)) front back := by
  refine ⟨rfl, ?_⟩
  intro earlier later hfront hlater
  exact hcuts.first (letter :: earlier) later (by rw [hfront, List.cons_append]) hlater

/-- A text that starts with the separator is cut in front of its first letter only. -/
theorem Cuts.front_eq_nil_iff (hcuts : Cuts separator letters front back) :
    front = [] ↔ separator <+: letters := by
  constructor
  · intro hfront
    rw [hcuts.eq, hfront, List.nil_append]
    exact List.prefix_append separator back
  · intro hprefix
    by_contra hfront
    rw [hcuts.eq] at hprefix
    exact hcuts.first [] front rfl hfront hprefix

/-- What stands in front of the first separator is the first piece. -/
theorem pieces_of_cuts (hseparator : separator ≠ [])
    (hcuts : Cuts separator letters front back) :
    pieces separator letters = front :: pieces separator back := by
  induction front generalizing letters with
  | nil =>
      rw [hcuts.eq, List.nil_append]
      obtain ⟨letter, rest, rfl⟩ := List.exists_cons_of_ne_nil hseparator
      have hprefix : (letter :: rest).isPrefixOf (letter :: (rest ++ back)) = true := by
        rw [List.isPrefixOf_iff_prefix, ← List.cons_append]
        exact List.prefix_append _ back
      rw [List.cons_append, pieces, if_pos hprefix]
      simp
  | cons letter front ih =>
      have hapart : ¬ separator.isPrefixOf (letter :: (front ++ (separator ++ back))) = true := by
        rw [List.isPrefixOf_iff_prefix, ← List.cons_append]
        exact hcuts.first [] (letter :: front) rfl (List.cons_ne_nil _ _)
      rw [hcuts.eq, List.cons_append, pieces, if_neg hapart, ih hcuts.of_cons, prepend]

/-- A text without the separator is one piece. -/
theorem pieces_of_not_occurs (hnone : ¬ separator <:+: letters) :
    pieces separator letters = [letters] := by
  induction letters with
  | nil => rw [pieces]
  | cons letter rest ih =>
      have hapart : ¬ separator.isPrefixOf (letter :: rest) = true := by
        rw [List.isPrefixOf_iff_prefix]
        intro hprefix
        exact hnone hprefix.isInfix
      have hrest : ¬ separator <:+: rest := by
        intro hoccurs
        exact hnone (hoccurs.trans (List.suffix_cons letter rest).isInfix)
      rw [pieces, if_neg hapart, ih hrest, prepend]

/-- A separator that occurs in a text is met a first time. -/
theorem exists_cuts_of_occurs (hoccurs : separator <:+: letters) :
    ∃ front back, Cuts separator letters front back := by
  induction letters with
  | nil =>
      obtain rfl := List.eq_nil_of_infix_nil hoccurs
      exact ⟨[], [], cuts_at_once [] []⟩
  | cons letter rest ih =>
      by_cases hprefix : separator <+: letter :: rest
      · obtain ⟨back, hback⟩ := hprefix
        rw [← hback]
        exact ⟨[], back, cuts_at_once separator back⟩
      · have hrest : separator <:+: rest := (List.infix_cons_iff.mp hoccurs).resolve_left hprefix
        obtain ⟨front, back, hcuts⟩ := ih hrest
        refine ⟨letter :: front, back, by rw [hcuts.eq, List.cons_append], ?_⟩
        intro earlier later hfront hlater
        rcases List.append_eq_cons_iff.mp hfront.symm with ⟨-, rfl⟩ | ⟨others, rfl, rfl⟩
        · rw [List.cons_append, ← hcuts.eq]
          exact hprefix
        · exact hcuts.first others later rfl hlater

theorem pieces_ne_nil (separator letters : List Char) : pieces separator letters ≠ [] := by
  unfold pieces
  split
  · exact List.cons_ne_nil _ _
  · split
    · exact List.cons_ne_nil _ _
    · unfold prepend
      split <;> exact List.cons_ne_nil _ _

/-- A text is one piece only if the separator does not occur in it. -/
theorem pieces_eq_singleton_iff (hseparator : separator ≠ []) :
    pieces separator letters = [back] ↔ letters = back ∧ ¬ separator <:+: letters := by
  constructor
  · intro hpieces
    by_cases hoccurs : separator <:+: letters
    · obtain ⟨front, others, hcuts⟩ := exists_cuts_of_occurs hoccurs
      rw [pieces_of_cuts hseparator hcuts] at hpieces
      exact absurd (List.cons.inj hpieces).2 (pieces_ne_nil separator others)
    · rw [pieces_of_not_occurs hoccurs] at hpieces
      exact ⟨(List.cons.inj hpieces).1, hoccurs⟩
  · rintro ⟨rfl, hnone⟩
    exact pieces_of_not_occurs hnone

/-- A text has two pieces if the separator is met between them, and is not met again. -/
theorem pieces_eq_pair_iff (hseparator : separator ≠ []) :
    pieces separator letters = [front, back] ↔
      Cuts separator letters front back ∧ ¬ separator <:+: back := by
  constructor
  · intro hpieces
    by_cases hoccurs : separator <:+: letters
    · obtain ⟨first, others, hcuts⟩ := exists_cuts_of_occurs hoccurs
      rw [pieces_of_cuts hseparator hcuts] at hpieces
      obtain ⟨rfl, hrest⟩ := List.cons.inj hpieces
      obtain ⟨rfl, hnone⟩ := (pieces_eq_singleton_iff hseparator).mp hrest
      exact ⟨hcuts, hnone⟩
    · rw [pieces_of_not_occurs hoccurs] at hpieces
      exact absurd (List.cons.inj hpieces).2 (List.cons_ne_nil back []).symm
  · rintro ⟨hcuts, hnone⟩
    rw [pieces_of_cuts hseparator hcuts, pieces_of_not_occurs hnone]

end Split

end RevisionGuard
