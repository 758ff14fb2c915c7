import RevisionGuard.Text.Numeral
import Mathlib.Tactic.Common
import Mathlib.Tactic.IntervalCases

/-!
# What numerals denote

A run of digits denotes the number that `Nat.ofDigitChars` computes, however long it is and
however many zeros it starts with.  `Numeral.extend` checks the 64-bit range at each digit.
The value of a longer run is never smaller, so the check fails somewhere in a run if and
only if the run denotes a number that is too large (`Numeral.extend_eq_ok_iff`).  Hence a
text is read as a number exactly if it is a numeral of that number
(`Numeral.parse_eq_ok_iff`).  What is written for a number is its decimal text
(`Numeral.text_eq_repr`), which is a numeral of it, so it is read as the number
(`Numeral.parse_text`).
-/

namespace RevisionGuard

namespace Numeral

variable {letters : List Char} {letter : Char} {value number digit : Nat} {text : String}
  {result : UInt64}

/-- At least one letter, and each of them an ASCII digit. -/
structure IsRun (letters : List Char) : Prop where
  ne_nil : letters ≠ []
  digits : ∀ letter ∈ letters, letter.isDigit = true

/-- The number that a run of digits denotes in the decimal system. -/
def denoted (letters : List Char) : Nat := Nat.ofDigitChars 10 letters 0

/-- A text is a numeral of a number: digits that denote it, behind at most one plus
sign. -/
def Denotes (text : String) (number : UInt64) : Prop :=
  ∃ letters, (text.toList = letters ∨ text.toList = '+' :: letters) ∧ IsRun letters ∧
    denoted letters = number.toNat

theorem digit?_eq_some_iff :
    digit? letter = some digit ↔ letter.isDigit = true ∧ digit = letter.toNat - '0'.toNat := by
  have hrange : letter.isDigit = true ↔ '0' ≤ letter ∧ letter ≤ '9' := Char.isDigit_iff_toNat
  rw [hrange]
  unfold digit?
  split
  next hdigit => simp [hdigit, eq_comm]
  next hdigit => simp [hdigit]

theorem isSome_digit?_eq (letter : Char) : (digit? letter).isSome = letter.isDigit := by
  rw [Bool.eq_iff_iff, Option.isSome_iff_exists]
  simp only [digit?_eq_some_iff, exists_and_left, exists_eq, and_true]

/-! ## Reading a run -/

/-- Further digits do not make a number smaller. -/
theorem le_ofDigitChars (value : Nat) (letters : List Char) :
    value ≤ Nat.ofDigitChars 10 letters value := by
  induction letters generalizing value with
  | nil => rw [Nat.ofDigitChars_nil]
  | cons letter rest ih =>
      rw [Nat.ofDigitChars_cons]
      have hrest := ih (10 * value + (letter.toNat - '0'.toNat))
      omega

theorem extend_eq_ok_iff (hvalue : value < bound) :
    extend value letters = .ok number ↔
      (∀ letter ∈ letters, letter.isDigit = true) ∧
        Nat.ofDigitChars 10 letters value < bound ∧
        number = Nat.ofDigitChars 10 letters value := by
  induction letters generalizing value with
  | nil =>
      rw [extend, Nat.ofDigitChars_nil]
      constructor
      · rintro ⟨⟩
        exact ⟨List.forall_mem_nil _, hvalue, rfl⟩
      · rintro ⟨-, -, rfl⟩
        rfl
  | cons letter rest ih =>
      rw [List.forall_mem_cons, Nat.ofDigitChars_cons, extend]
      cases hdigit : digit? letter with
      | none =>
          have hnot : letter.isDigit = false := by
            rw [← isSome_digit?_eq, hdigit, Option.isSome_none]
          simp [hnot]
      | some digit =>
          obtain ⟨hletter, rfl⟩ := digit?_eq_some_iff.mp hdigit
          rw [Nat.mul_comm 10 value]
          dsimp only
          by_cases hfits : value * 10 + (letter.toNat - '0'.toNat) < bound
          · rw [if_pos hfits, ih hfits]
            simp only [hletter, true_and]
          · -- what has left the range stays outside it
            rw [if_neg hfits]
            have hmono := le_ofDigitChars (value * 10 + (letter.toNat - '0'.toNat)) rest
            constructor
            · rintro ⟨⟩
            · rintro ⟨-, hlast, -⟩
              omega

theorem digits?_eq_ok_iff :
    digits? letters = .ok number ↔
      IsRun letters ∧ denoted letters < bound ∧ number = denoted letters := by
  cases letters with
  | nil =>
      constructor
      · rintro ⟨⟩
      · rintro ⟨hrun, -⟩
        exact absurd rfl hrun.ne_nil
  | cons letter rest =>
      change extend 0 (letter :: rest) = .ok number ↔ _
      rw [extend_eq_ok_iff (by decide)]
      constructor
      · rintro ⟨hdigits, hnumber⟩
        exact ⟨⟨List.cons_ne_nil letter rest, hdigits⟩, hnumber⟩
      · rintro ⟨hrun, hnumber⟩
        exact ⟨hrun.digits, hnumber⟩

theorem map_digits?_eq_ok_iff :
    (digits? letters).map UInt64.ofNat = .ok result ↔
      IsRun letters ∧ denoted letters = result.toNat := by
  constructor
  · intro hok
    cases hdigits : digits? letters with
    | error fault => simp [hdigits, Except.map] at hok
    | ok number =>
        obtain ⟨hrun, hfits, rfl⟩ := digits?_eq_ok_iff.mp hdigits
        rw [hdigits] at hok
        obtain rfl := Except.ok.inj hok
        exact ⟨hrun, (UInt64.toNat_ofNat_of_lt hfits).symm⟩
  · rintro ⟨hrun, hdenoted⟩
    have hfits : denoted letters < bound := hdenoted ▸ result.toNat_lt
    rw [digits?_eq_ok_iff.mpr ⟨hrun, hfits, hdenoted.symm⟩]
    exact congrArg Except.ok UInt64.ofNat_toNat

/-- A text is read as a number exactly if it is a numeral of it. -/
theorem parse_eq_ok_iff :
    parse text = .ok result ↔ Denotes text result := by
  constructor
  · intro hok
    unfold parse at hok
    split at hok
    · cases hok
    · cases hok
    · next letters _ htext => exact ⟨letters, Or.inr htext, map_digits?_eq_ok_iff.mp hok⟩
    · exact ⟨_, Or.inl rfl, map_digits?_eq_ok_iff.mp hok⟩
  · rintro ⟨letters, htext, hrun, hdenoted⟩
    have hread := map_digits?_eq_ok_iff.mpr ⟨hrun, hdenoted⟩
    unfold parse
    rcases htext with htext | htext
    · -- a run does not start with a sign
      have hplus : ∀ rest, letters ≠ '+' :: rest := by
        rintro rest rfl
        exact absurd (hrun.digits '+' List.mem_cons_self) (by decide)
      rw [htext]
      split
      · exact absurd rfl hrun.ne_nil
      · exact absurd rfl (hplus [])
      · exact absurd rfl (hplus _)
      · exact hread
    · rw [htext]
      split
      · contradiction
      · next hsign => exact absurd (List.cons.inj hsign).2 hrun.ne_nil
      · next hsign =>
          obtain ⟨-, rfl⟩ := List.cons.inj hsign
          exact hread
      · next hnoSign => exact absurd rfl (hnoSign letters)

/-! ## The letters of a numeral -/

/-- A numeral ends in a digit. -/
theorem Denotes.exists_last (hdenotes : Denotes text result) :
    ∃ letter, text.toList.getLast? = some letter ∧ letter.isDigit = true := by
  obtain ⟨letters, htext, hrun, -⟩ := hdenotes
  have hlast := List.getLast?_eq_some_getLast hrun.ne_nil
  refine ⟨letters.getLast hrun.ne_nil, ?_, hrun.digits _ (List.getLast_mem hrun.ne_nil)⟩
  rcases htext with htext | htext
  · rw [htext, hlast]
  · rw [htext, List.getLast?_cons, hlast]
    rfl

/-- A numeral holds no dash. -/
theorem Denotes.dash_notMem (hdenotes : Denotes text result) : '-' ∉ text.toList := by
  obtain ⟨letters, htext, hrun, -⟩ := hdenotes
  have hletters : '-' ∉ letters := by
    intro hdash
    exact absurd (hrun.digits '-' hdash) (by decide)
  rcases htext with htext | htext
  · rwa [htext]
  · rw [htext, List.mem_cons, not_or]
    exact ⟨by decide, hletters⟩

/-! ## The decimal text of a number -/

theorem digitChar_eq (hvalue : value < 10) : digitChar value = Nat.digitChar value := by
  interval_cases value <;> rfl

theorem digits_eq_toDigits (value : Nat) : digits value = Nat.toDigits 10 value := by
  induction value using Nat.strong_induction_on with
  | _ value ih =>
      rw [digits, Nat.toDigits_eq_if (by decide)]
      split
      next hsmall => rw [digitChar_eq hsmall]
      next hlarge =>
        rw [ih (value / 10) (by omega), digitChar_eq (Nat.mod_lt value (by decide))]

theorem text_eq_repr (value : Nat) : Numeral.text value = value.repr := by
  rw [Numeral.text, digits_eq_toDigits, Nat.repr_eq_ofList_toDigits]

theorem isDigit_of_mem_text (hmem : letter ∈ (Numeral.text value).toList) :
    letter.isDigit = true := by
  rw [text_eq_repr, Nat.toList_repr] at hmem
  exact Nat.isDigit_of_mem_toDigits (by decide) (by decide) hmem

/-- The decimal text of a revision is a numeral of it. -/
theorem denotes_text (revision : Revision) : Denotes (Revision.text revision) revision := by
  refine ⟨_, Or.inl rfl, ⟨?_, fun letter => isDigit_of_mem_text⟩, ?_⟩
  · rw [Revision.text, text_eq_repr, Nat.toList_repr]
    exact Nat.toDigits_ne_nil
  · rw [denoted, Revision.text, text_eq_repr, Nat.toList_repr, Nat.ofDigitChars_ten_toDigits]

/-- The numeral of a revision is read as the revision. -/
theorem parse_text (revision : Revision) : parse (Revision.text revision) = .ok revision :=
  parse_eq_ok_iff.mpr (denotes_text revision)

end Numeral

end RevisionGuard
