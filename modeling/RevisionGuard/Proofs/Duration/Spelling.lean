import RevisionGuard.Duration.Grammar
import RevisionGuard.Proofs.Text.Blank
import RevisionGuard.Proofs.Text.Numeral
import Mathlib.Tactic.Common

/-!
# What a written duration says

A duration is written as digits and a unit (`Duration.Spells`), with white space around
them.  What it says is given in whole seconds and nanoseconds beyond them, unit by unit
(`Duration.Amounts`), and a number of minutes or hours has to fit in 64 bits as a number of
seconds.  `Duration.parse` multiplies by the nanoseconds of a unit instead, which comes to
the same (`Duration.amounts_iff`).

The digits end where the first letter is none, so there is one way to take a text apart
(`Duration.Splits.eq_takeWhile`).  A text whose parts are no digits and no unit is refused,
and the fault says which part it was (`Duration.Refuses`).
-/

namespace RevisionGuard

namespace Duration

open Numeral (IsRun denoted)

variable {text : String} {core digits unit : List Char} {count : Nat} {duration : Duration}
  {fault : Fault}

/-- What so many of a unit are, in whole seconds and in nanoseconds beyond them. -/
inductive Amounts : (unit : List Char) → (count seconds fraction : Nat) → Prop where
  | bare (count : Nat) : Amounts [] count count 0
  | seconds (count : Nat) : Amounts ['s'] count count 0
  | milliseconds (count : Nat) :
      Amounts ['m', 's'] count (count / 1000) (count % 1000 * 10 ^ 6)
  | minutes (count : Nat) (hfits : 60 * count < 2 ^ 64) : Amounts ['m'] count (60 * count) 0
  | hours (count : Nat) (hfits : 3600 * count < 2 ^ 64) : Amounts ['h'] count (3600 * count) 0

/-- A text is a number of 64 bits in digits and a unit, and so many of the unit are the
duration. -/
def Spells (core : List Char) (duration : Duration) : Prop :=
  ∃ digits unit, core = digits ++ unit ∧ IsRun digits ∧ denoted digits < 2 ^ 64 ∧
    Amounts unit (denoted digits) duration.seconds duration.fraction

theorem ofNanoseconds?_eq_some_iff {nanoseconds : Nat} :
    ofNanoseconds? nanoseconds = some duration ↔ duration.nanoseconds = nanoseconds := by
  unfold ofNanoseconds?
  constructor
  · intro hsome
    split at hsome
    · obtain rfl := Option.some.inj hsome
      rfl
    · cases hsome
  · rintro rfl
    rw [dif_pos duration.bounded]

/-- So many of a unit are read as what they are. -/
theorem amounts_iff (hcount : count < 2 ^ 64) :
    Amounts unit count duration.seconds duration.fraction ↔
      ∃ size, unit? unit = some size ∧ ofNanoseconds? (count * size) = some duration := by
  have hparts : duration.nanoseconds = 10 ^ 9 * duration.seconds + duration.fraction :=
    (Nat.div_add_mod _ _).symm
  have hfraction : duration.fraction < 10 ^ 9 := Nat.mod_lt _ (by decide)
  have hbounded : duration.nanoseconds < 2 ^ 64 * 10 ^ 9 := duration.bounded
  have hread : ∀ size, ofNanoseconds? (count * size) = some duration ↔
      10 ^ 9 * duration.seconds + duration.fraction = count * size := by
    intro size
    rw [ofNanoseconds?_eq_some_iff, hparts]
  simp only [hread]
  rw [hparts] at hbounded
  generalize duration.seconds = seconds at hbounded ⊢
  generalize duration.fraction = fraction at hfraction hbounded ⊢
  constructor
  · intro hamounts
    cases hamounts with
    | bare => exact ⟨_, rfl, by unfold nanosecondsPerSecond; omega⟩
    | seconds => exact ⟨_, rfl, by unfold nanosecondsPerSecond; omega⟩
    | milliseconds => exact ⟨_, rfl, by omega⟩
    | minutes => exact ⟨_, rfl, by unfold nanosecondsPerSecond; omega⟩
    | hours => exact ⟨_, rfl, by unfold nanosecondsPerSecond; omega⟩
  · rintro ⟨size, hunit, hequal⟩
    unfold unit? nanosecondsPerSecond at hunit
    split at hunit
    · obtain rfl := Option.some.inj hunit
      obtain ⟨rfl, rfl⟩ : seconds = count ∧ fraction = 0 := by omega
      exact .bare _
    · obtain rfl := Option.some.inj hunit
      obtain ⟨rfl, rfl⟩ : seconds = count ∧ fraction = 0 := by omega
      exact .seconds _
    · obtain rfl := Option.some.inj hunit
      obtain ⟨rfl, rfl⟩ : seconds = count / 1000 ∧ fraction = count % 1000 * 10 ^ 6 := by omega
      exact .milliseconds _
    · obtain rfl := Option.some.inj hunit
      obtain ⟨rfl, rfl⟩ : seconds = 60 * count ∧ fraction = 0 := by omega
      exact .minutes _ (by omega)
    · obtain rfl := Option.some.inj hunit
      obtain ⟨rfl, rfl⟩ : seconds = 3600 * count ∧ fraction = 0 := by omega
      exact .hours _ (by omega)
    · cases hunit

/-! ## Taking a text apart -/

/-- The units of durations, as they are written. -/
def unitNames : List (List Char) := [[], ['s'], ['m', 's'], ['m'], ['h']]

theorem Amounts.mem_unitNames {seconds fraction : Nat}
    (hamounts : Amounts unit count seconds fraction) : unit ∈ unitNames := by
  cases hamounts <;> decide

/-- A text is digits, perhaps none, and a rest that starts with no digit. -/
structure Splits (core digits rest : List Char) : Prop where
  eq : core = digits ++ rest
  digits : ∀ letter ∈ digits, letter.isDigit = true
  rest : ∀ letter ∈ rest.head?, letter.isDigit = false

/-- Why a text is no duration: it does not start with a number of 64 bits, what follows the
number is no unit, or so many of the unit are too long. -/
inductive Refuses (core : List Char) : Fault → Prop where
  | malformed {digits rest : List Char} (hsplits : Splits core digits rest)
      (hnumber : digits = [] ∨ 2 ^ 64 ≤ denoted digits) :
      Refuses core (.malformed (String.ofList core))
  | unknownUnit {digits rest : List Char} (hsplits : Splits core digits rest)
      (hne : digits ≠ []) (hfits : denoted digits < 2 ^ 64) (hunit : rest ∉ unitNames) :
      Refuses core (.unknownUnit (String.ofList core))
  | outOfRange {digits rest : List Char} (hsplits : Splits core digits rest)
      (hne : digits ≠ []) (hfits : denoted digits < 2 ^ 64)
      (hlong : rest = ['m'] ∧ 2 ^ 64 ≤ 60 * denoted digits ∨
        rest = ['h'] ∧ 2 ^ 64 ≤ 3600 * denoted digits) :
      Refuses core (.outOfRange (String.ofList core))

theorem isDigit_eq : isDigit = Char.isDigit := funext Numeral.isSome_digit?_eq

theorem splits_takeWhile (core : List Char) :
    Splits core (core.takeWhile isDigit) (core.dropWhile isDigit) := by
  refine ⟨List.takeWhile_append_dropWhile.symm, ?_, ?_⟩
  · intro letter hletter
    rw [← isDigit_eq]
    exact List.mem_takeWhile_imp hletter
  · intro letter hletter
    have hnot := List.head?_dropWhile_not isDigit core
    rw [Option.mem_def.mp hletter, isDigit_eq] at hnot
    simpa using hnot

/-- There is one way to take a text apart. -/
theorem Splits.eq_takeWhile (hsplits : Splits core digits unit) :
    core.takeWhile isDigit = digits ∧ core.dropWhile isDigit = unit := by
  have hdigits : ∀ letter ∈ digits, isDigit letter = true := by
    rw [isDigit_eq]
    exact hsplits.digits
  have hunit : unit.takeWhile isDigit = [] ∧ unit.dropWhile isDigit = unit := by
    rw [isDigit_eq]
    cases unit with
    | nil => exact ⟨rfl, rfl⟩
    | cons letter rest =>
        have hletter := hsplits.rest letter rfl
        rw [List.takeWhile_cons_of_neg (by simp [hletter]),
          List.dropWhile_cons_of_neg (by simp [hletter])]
        exact ⟨rfl, rfl⟩
  rw [hsplits.eq, List.takeWhile_append_of_pos hdigits, List.dropWhile_append_of_pos hdigits,
    hunit.1, hunit.2, List.append_nil]
  exact ⟨rfl, rfl⟩

theorem unit?_eq_none_iff : unit? unit = none ↔ unit ∉ unitNames := by
  unfold unit?
  split <;> simp_all [unitNames]

theorem splits_of_unit {size : Nat} (hrun : IsRun digits) (hunit : unit? unit = some size) :
    Splits (digits ++ unit) digits unit := by
  refine ⟨rfl, hrun.digits, ?_⟩
  by_contra hdigit
  have hknown : unit ∈ unitNames := by
    by_contra hunknown
    rw [unit?_eq_none_iff.mpr hunknown] at hunit
    cases hunit
  have hall : ∀ name ∈ unitNames, ∀ letter ∈ name.head?, letter.isDigit = false := by
    simp [unitNames]
  exact hdigit (hall unit hknown)

/-- A number of 64 bits is too long a duration only in minutes or in hours. -/
theorem too_long_iff (hcount : count < 2 ^ 64) :
    (∃ size, unit? unit = some size ∧ ofNanoseconds? (count * size) = none) ↔
      unit = ['m'] ∧ 2 ^ 64 ≤ 60 * count ∨ unit = ['h'] ∧ 2 ^ 64 ≤ 3600 * count := by
  have hnone : ∀ nanoseconds,
      ofNanoseconds? nanoseconds = none ↔ 2 ^ 64 * 10 ^ 9 ≤ nanoseconds := by
    intro nanoseconds
    rw [ofNanoseconds?, dite_eq_right_iff, ← Nat.not_lt]
    exact ⟨fun hlong hshort => (nomatch hlong hshort), fun hlong hshort => absurd hshort hlong⟩
  simp only [hnone]
  constructor
  · rintro ⟨size, hunit, hlong⟩
    unfold unit? nanosecondsPerSecond at hunit
    split at hunit
    · obtain rfl := Option.some.inj hunit
      omega
    · obtain rfl := Option.some.inj hunit
      omega
    · obtain rfl := Option.some.inj hunit
      omega
    · obtain rfl := Option.some.inj hunit
      exact Or.inl ⟨rfl, by omega⟩
    · obtain rfl := Option.some.inj hunit
      exact Or.inr ⟨rfl, by omega⟩
    · cases hunit
  · rintro (⟨rfl, hlong⟩ | ⟨rfl, hlong⟩)
    · exact ⟨_, rfl, by unfold nanosecondsPerSecond; omega⟩
    · exact ⟨_, rfl, by unfold nanosecondsPerSecond; omega⟩

/-! ## What is read -/

theorem parse_eq_ok_iff_spells :
    parse text = .ok duration ↔ Spells (Blank.trim text.toList) duration := by
  unfold parse
  generalize Blank.trim text.toList = core
  dsimp only
  constructor
  · intro hok
    split at hok
    · cases hok
    next count hdigits =>
      split at hok
      · cases hok
      next size hunit =>
        split at hok
        · cases hok
        next hread =>
          obtain rfl := Except.ok.inj hok
          obtain ⟨hrun, hfits, rfl⟩ := Numeral.digits?_eq_ok_iff.mp hdigits
          have hamounts := (amounts_iff hfits).mpr ⟨size, hunit, hread⟩
          exact ⟨_, _, (splits_takeWhile core).eq, hrun, hfits, hamounts⟩
  · rintro ⟨digits, unit, rfl, hrun, hfits, hamounts⟩
    obtain ⟨size, hunit, hread⟩ := (amounts_iff hfits).mp hamounts
    obtain ⟨htake, hdrop⟩ := (splits_of_unit hrun hunit).eq_takeWhile
    rw [htake, hdrop, Numeral.digits?_eq_ok_iff.mpr ⟨hrun, hfits, rfl⟩]
    dsimp only
    rw [hunit]
    dsimp only
    rw [hread]

theorem parse_eq_error_iff_refuses :
    parse text = .error fault ↔ Refuses (Blank.trim text.toList) fault := by
  unfold parse
  generalize Blank.trim text.toList = core
  dsimp only
  constructor
  · intro herror
    have hsplits := splits_takeWhile core
    split at herror
    next hdigits =>
      obtain rfl := Except.error.inj herror
      refine .malformed hsplits ?_
      by_contra hnumber
      obtain ⟨hne, hfits⟩ := not_or.mp hnumber
      have hok := Numeral.digits?_eq_ok_iff.mpr
        ⟨⟨hne, hsplits.digits⟩, Nat.not_le.mp hfits, rfl⟩
      rw [hdigits] at hok
      cases hok
    next count hdigits =>
      obtain ⟨hrun, hfits, rfl⟩ := Numeral.digits?_eq_ok_iff.mp hdigits
      split at herror
      next hunit =>
        obtain rfl := Except.error.inj herror
        exact .unknownUnit hsplits hrun.ne_nil hfits (unit?_eq_none_iff.mp hunit)
      next size hunit =>
        split at herror
        next hlong =>
          obtain rfl := Except.error.inj herror
          exact .outOfRange hsplits hrun.ne_nil hfits ((too_long_iff hfits).mp ⟨size, hunit, hlong⟩)
        · cases herror
  · intro hrefuses
    cases hrefuses with
    | @malformed digits rest hsplits hnumber =>
        obtain ⟨htake, -⟩ := hsplits.eq_takeWhile
        rw [htake]
        cases hdigits : Numeral.digits? digits with
        | error fault => rfl
        | ok count =>
            obtain ⟨hrun, hfits, -⟩ := Numeral.digits?_eq_ok_iff.mp hdigits
            rcases hnumber with rfl | hlarge
            · exact absurd rfl hrun.ne_nil
            · exact absurd hfits (Nat.not_lt.mpr hlarge)
    | @unknownUnit digits rest hsplits hne hfits hunit =>
        obtain ⟨htake, hdrop⟩ := hsplits.eq_takeWhile
        have hcount := Numeral.digits?_eq_ok_iff.mpr ⟨⟨hne, hsplits.digits⟩, hfits, rfl⟩
        rw [htake, hdrop, hcount]
        dsimp only
        rw [unit?_eq_none_iff.mpr hunit]
    | @outOfRange digits rest hsplits hne hfits hlong =>
        obtain ⟨htake, hdrop⟩ := hsplits.eq_takeWhile
        have hcount := Numeral.digits?_eq_ok_iff.mpr ⟨⟨hne, hsplits.digits⟩, hfits, rfl⟩
        obtain ⟨size, hunit, hnone⟩ := (too_long_iff hfits).mpr hlong
        rw [htake, hdrop, hcount]
        dsimp only
        rw [hunit]
        dsimp only
        rw [hnone]

/-- A letter that is neither a digit nor part of a unit is always refused. -/
theorem exists_error_of_letter {letter : Char} (hmem : letter ∈ Blank.trim text.toList)
    (hdigit : letter.isDigit = false) (hunit : letter ∉ ['s', 'm', 'h']) :
    ∃ fault, parse text = .error fault := by
  cases hparse : parse text with
  | error fault => exact ⟨fault, rfl⟩
  | ok duration =>
      obtain ⟨digits, unit, heq, hrun, -, hamounts⟩ := parse_eq_ok_iff_spells.mp hparse
      rw [heq, List.mem_append] at hmem
      rcases hmem with hmem | hmem
      · rw [hrun.digits letter hmem] at hdigit
        cases hdigit
      · have hletters : ∀ name ∈ unitNames, ∀ letter ∈ name, letter ∈ ['s', 'm', 'h'] := by
          simp [unitNames]
        exact absurd (hletters unit hamounts.mem_unitNames letter hmem) hunit

/-- A text is read as a duration exactly if, without the white space around it, it spells
the duration.  Every other text is refused, for the reason that the fault gives; no letter
but the digits and those of the units is ever let through. -/
theorem parse_exact (text : String) :
    (∀ duration, parse text = .ok duration ↔
      ∃ core, Blank.Trims text.toList core ∧ Spells core duration) ∧
    (∀ fault, parse text = .error fault ↔
      ∃ core, Blank.Trims text.toList core ∧ Refuses core fault) ∧
    (∀ core, Blank.Trims text.toList core →
      ∀ letter ∈ core, letter.isDigit = false → letter ∉ ['s', 'm', 'h'] →
        ∃ fault, parse text = .error fault) := by
  refine ⟨?_, ?_, ?_⟩
  · intro duration
    simp only [Blank.trims_iff, exists_eq_left]
    exact parse_eq_ok_iff_spells
  · intro fault
    simp only [Blank.trims_iff, exists_eq_left]
    exact parse_eq_error_iff_refuses
  · intro core htrims letter hmem
    obtain rfl := Blank.trims_iff.mp htrims
    exact exists_error_of_letter hmem

/-- The longest duration in minutes, with leading zeros and between two blanks, one of
which is no ASCII character, is read exactly. -/
theorem parse_exact_rehearsed :
    ∃ duration, parse "\u00a00307445734561825860m " = .ok duration ∧
      duration.seconds = 18446744073709551600 ∧ duration.fraction = 0 := by
  have hspells : Spells "0307445734561825860m".toList
      (ofSeconds 18446744073709551600) := by
    refine ⟨"0307445734561825860".toList, ['m'], rfl, ?_, by decide +kernel, ?_⟩
    · exact ⟨by decide +kernel, List.all_eq_true.mp (by decide +kernel)⟩
    · exact .minutes _ (by decide +kernel)
  have htrims : Blank.Trims "\u00a00307445734561825860m ".toList "0307445734561825860m".toList :=
    Blank.trims_iff.mpr (by decide +kernel)
  have hparse := ((parse_exact _).1 _).mpr ⟨_, htrims, hspells⟩
  exact ⟨_, hparse, by decide +kernel, by decide +kernel⟩

end Duration

end RevisionGuard
