import RevisionGuard.Pod
import RevisionGuard.Proofs.Text.Numeral
import Mathlib.Tactic.Common

/-!
# The revision of a pod

A guard acts on a manifest only if the revision in its label is the one that it watches, so
the label has to be read as the number that it denotes, and as no other.  A label that
denotes none is refused, and the fault says whether it is missing, empty, or spoilt
(`Pod.revision_of_label`).  What spoils a label is exactly that it has a letter which is no
digit, is a sign alone, or denotes a number of more than 64 bits (`Numeral.not_denotes_iff`).
-/

namespace RevisionGuard

namespace Numeral

variable {text : String} {letters others : List Char} {number : UInt64}

/-- What keeps a text that is not empty from being a numeral. -/
inductive Spoils : String → Prop where
  /-- A letter that is no digit, such as a minus sign, white space or a digit of another
  script, and no plus sign at the front. -/
  | letter {text : String} (front : List Char) (letter : Char) (back : List Char)
      (htext : text.toList = front ++ letter :: back) (hdigit : letter.isDigit = false)
      (hsign : front ≠ [] ∨ letter ≠ '+') : Spoils text
  | loneSign : Spoils "+"
  /-- The number takes more than 64 bits. -/
  | tooLarge {text : String} (letters : List Char)
      (htext : text.toList = letters ∨ text.toList = '+' :: letters) (hrun : IsRun letters)
      (hlarge : 2 ^ 64 ≤ denoted letters) : Spoils text

theorem not_isRun_plus (letters : List Char) : ¬ IsRun ('+' :: letters) := by
  intro hrun
  exact absurd (hrun.digits '+' List.mem_cons_self) (by decide)

/-- A text has at most one run of digits behind its sign. -/
theorem run_unique (htext : text.toList = letters ∨ text.toList = '+' :: letters)
    (hother : text.toList = others ∨ text.toList = '+' :: others)
    (hrun : IsRun letters) (hothers : IsRun others) : letters = others := by
  rcases htext with htext | htext <;> rcases hother with hother | hother
  · exact htext.symm.trans hother
  · exact absurd (htext.symm.trans hother ▸ hrun) (not_isRun_plus others)
  · exact absurd (hother.symm.trans htext ▸ hothers) (not_isRun_plus letters)
  · exact (List.cons.inj (htext.symm.trans hother)).2

theorem Spoils.not_denotes (hspoils : Spoils text) : ¬ Denotes text number := by
  rintro ⟨letters, hletters, hrun, hdenoted⟩
  cases hspoils with
  | letter front letter back htext hdigit hsign =>
      have hinside : letter ∈ letters := by
        rcases hletters with hletters | hletters
        · rw [← hletters, htext]
          exact List.mem_append_right front List.mem_cons_self
        · rw [htext] at hletters
          rcases List.append_eq_cons_iff.mp hletters with ⟨hfront, hrest⟩ | ⟨rest, -, rfl⟩
          · exact absurd (List.cons.inj hrest).1 (hsign.resolve_left (not_not.mpr hfront))
          · exact List.mem_append_right rest List.mem_cons_self
      rw [hrun.digits letter hinside] at hdigit
      cases hdigit
  | loneSign =>
      rcases hletters with rfl | hletters
      · exact not_isRun_plus [] hrun
      · exact hrun.ne_nil (List.cons.inj hletters).2.symm
  | tooLarge others htext hothers hlarge =>
      obtain rfl := run_unique hletters htext hrun hothers
      have hfits : number.toNat < 2 ^ 64 := number.toNat_lt
      omega

/-- A text is a sign, or none, and a rest that starts with no sign if there is none. -/
theorem exists_behind_sign (text : String) :
    ∃ sign letters, text.toList = sign ++ letters ∧
      (sign = ['+'] ∨ sign = [] ∧ letters.head? ≠ some '+') := by
  by_cases hsign : text.toList.head? = some '+'
  · obtain ⟨letters, hletters⟩ := List.head?_eq_some_iff.mp hsign
    exact ⟨['+'], letters, hletters, Or.inl rfl⟩
  · exact ⟨[], text.toList, rfl, Or.inr ⟨rfl, hsign⟩⟩

theorem spoils_of_not_denotes (hne : text ≠ "") (hnone : ∀ number, ¬ Denotes text number) :
    Spoils text := by
  obtain ⟨sign, letters, htext, hsign⟩ := exists_behind_sign text
  by_cases hdigits : ∀ letter ∈ letters, letter.isDigit = true
  · by_cases hletters : letters = []
    · -- nothing is behind the sign, so it is there
      subst hletters
      rw [List.append_nil] at htext
      rcases hsign with rfl | ⟨rfl, -⟩
      · obtain rfl : text = "+" := String.toList_inj.mp htext
        exact .loneSign
      · exact absurd (String.toList_inj.mp htext) hne
    · have hrun : IsRun letters := ⟨hletters, hdigits⟩
      have hform : text.toList = letters ∨ text.toList = '+' :: letters := by
        rcases hsign with rfl | ⟨rfl, -⟩
        · exact Or.inr htext
        · exact Or.inl htext
      refine .tooLarge letters hform hrun (Nat.not_lt.mp fun hfits => ?_)
      exact hnone (UInt64.ofNat (denoted letters))
        ⟨letters, hform, hrun, (UInt64.toNat_ofNat_of_lt hfits).symm⟩
  · obtain ⟨letter, hmem, hdigit⟩ : ∃ letter ∈ letters, letter.isDigit = false := by
      simpa using hdigits
    obtain ⟨front, back, rfl⟩ := List.append_of_mem hmem
    rw [← List.append_assoc] at htext
    refine .letter (sign ++ front) letter back htext hdigit ?_
    rcases hsign with rfl | ⟨rfl, hhead⟩
    · exact Or.inl (List.cons_ne_nil _ _)
    · cases front with
      | nil => exact Or.inr fun hplus => hhead (congrArg some hplus)
      | cons first front => exact Or.inl (List.cons_ne_nil _ _)

theorem not_denotes_iff (hne : text ≠ "") :
    (∀ number, ¬ Denotes text number) ↔ Spoils text :=
  ⟨spoils_of_not_denotes hne, fun hspoils _ => hspoils.not_denotes⟩

theorem denotes_toString (number : UInt64) : Denotes (toString number.toNat) number := by
  have htext := denotes_text number
  rwa [Revision.text, text_eq_repr] at htext

end Numeral

namespace Pod

open Numeral (Denotes Spoils)

variable {pod : Pod} {revision : Revision} {fault : Fault}

/-- The label of a pod that its revision is read from. -/
def label? (pod : Pod) : Option String := pod.metadata.labels.get? "revision"

theorem revision_of_missing (hlabel : pod.label? = none) :
    pod.revision = .error (.missingRevision pod.metadata.name) := by
  unfold label? at hlabel
  rw [Pod.revision, revisionLabel, hlabel]

theorem revision_of_empty (hlabel : pod.label? = some "") :
    pod.revision = .error (.emptyRevision pod.metadata.name) := by
  unfold label? at hlabel
  rw [Pod.revision, revisionLabel, hlabel]
  rfl

/-- A label that is there and not empty is read as a numeral. -/
theorem revision_of_label_ne_empty {label : String} (hlabel : pod.label? = some label)
    (hne : label ≠ "") :
    pod.revision = (Numeral.parse label).mapError fun _ =>
      .invalidRevision pod.metadata.name label := by
  have hempty : ¬ label.isEmpty = true := by simpa using hne
  unfold label? at hlabel
  rw [Pod.revision, revisionLabel, hlabel]
  dsimp only
  rw [if_neg hempty]
  cases Numeral.parse label <;> rfl

theorem ne_empty_of_denotes {label : String} (hdenotes : Denotes label revision) : label ≠ "" := by
  rintro rfl
  obtain ⟨letters, rfl | hletters, hrun, -⟩ := hdenotes
  · exact hrun.ne_nil rfl
  · cases hletters

theorem revision_of_denotes {label : String} (hlabel : pod.label? = some label)
    (hdenotes : Denotes label revision) : pod.revision = .ok revision := by
  rw [revision_of_label_ne_empty hlabel (ne_empty_of_denotes hdenotes),
    Numeral.parse_eq_ok_iff.mpr hdenotes]
  rfl

theorem revision_of_not_denotes {label : String} (hlabel : pod.label? = some label)
    (hne : label ≠ "") (hnone : ∀ number, ¬ Denotes label number) :
    pod.revision = .error (.invalidRevision pod.metadata.name label) := by
  rw [revision_of_label_ne_empty hlabel hne]
  cases hparse : Numeral.parse label with
  | error fault => rfl
  | ok number => exact absurd (Numeral.parse_eq_ok_iff.mp hparse) (hnone number)

/-- A label is missing, is empty, denotes a number, or is not empty and denotes none. -/
theorem label_cases (pod : Pod) :
    pod.label? = none ∨ pod.label? = some "" ∨
      (∃ label number, pod.label? = some label ∧ Denotes label number) ∨
      ∃ label, pod.label? = some label ∧ label ≠ "" ∧ ∀ number, ¬ Denotes label number := by
  cases hlabel : pod.label? with
  | none => exact Or.inl rfl
  | some label =>
      by_cases hne : label = ""
      · exact Or.inr (Or.inl (congrArg some hne))
      · by_cases hdenotes : ∃ number, Denotes label number
        · obtain ⟨number, hnumber⟩ := hdenotes
          exact Or.inr (Or.inr (Or.inl ⟨label, number, rfl, hnumber⟩))
        · exact Or.inr (Or.inr (Or.inr ⟨label, rfl, hne, not_exists.mp hdenotes⟩))

theorem revision_eq_ok_iff :
    pod.revision = .ok revision ↔ ∃ label, pod.label? = some label ∧ Denotes label revision := by
  constructor
  · intro hok
    rcases label_cases pod with
      hlabel | hlabel | ⟨label, number, hlabel, hdenotes⟩ | ⟨label, hlabel, hne, hnone⟩
    · rw [revision_of_missing hlabel] at hok
      cases hok
    · rw [revision_of_empty hlabel] at hok
      cases hok
    · rw [revision_of_denotes hlabel hdenotes] at hok
      obtain rfl := Except.ok.inj hok
      exact ⟨label, hlabel, hdenotes⟩
    · rw [revision_of_not_denotes hlabel hne hnone] at hok
      cases hok
  · rintro ⟨label, hlabel, hdenotes⟩
    exact revision_of_denotes hlabel hdenotes

/-- Why a label gives no revision. -/
inductive Refuses (name : String) : Option String → Fault → Prop where
  | missing : Refuses name none (.missingRevision name)
  | empty : Refuses name (some "") (.emptyRevision name)
  | invalid {label : String} (hne : label ≠ "") (hnone : ∀ number, ¬ Denotes label number) :
      Refuses name (some label) (.invalidRevision name label)

theorem revision_eq_error_iff :
    pod.revision = .error fault ↔ Refuses pod.metadata.name pod.label? fault := by
  constructor
  · intro herror
    rcases label_cases pod with
      hlabel | hlabel | ⟨label, number, hlabel, hdenotes⟩ | ⟨label, hlabel, hne, hnone⟩
    · rw [revision_of_missing hlabel] at herror
      obtain rfl := Except.error.inj herror
      exact hlabel ▸ .missing
    · rw [revision_of_empty hlabel] at herror
      obtain rfl := Except.error.inj herror
      exact hlabel ▸ .empty
    · rw [revision_of_denotes hlabel hdenotes] at herror
      cases herror
    · rw [revision_of_not_denotes hlabel hne hnone] at herror
      obtain rfl := Except.error.inj herror
      exact hlabel ▸ .invalid hne hnone
  · intro hrefuses
    generalize hlabel : pod.label? = label at hrefuses
    cases hrefuses with
    | missing => exact revision_of_missing hlabel
    | empty => exact revision_of_empty hlabel
    | invalid hne hnone => exact revision_of_not_denotes hlabel hne hnone

/-- The revision of a pod is the number that its label denotes.  A label that denotes none
is refused, as missing, as empty, or as the text that it is; and what keeps a text from
denoting a number is a letter that is no digit, a lone sign, or a number that is too large.
Every number is denoted by its decimal text. -/
theorem revision_of_label (pod : Pod) :
    (∀ revision, pod.revision = .ok revision ↔
      ∃ label, pod.label? = some label ∧ Denotes label revision) ∧
    (∀ fault, pod.revision = .error fault ↔ Refuses pod.metadata.name pod.label? fault) ∧
    (∀ label, label ≠ "" → ((∀ number, ¬ Denotes label number) ↔ Spoils label)) ∧
    (∀ revision : Revision, pod.label? = some (toString revision.toNat) →
      pod.revision = .ok revision) := by
  refine ⟨fun _ => revision_eq_ok_iff, fun _ => revision_eq_error_iff,
    fun _ => Numeral.not_denotes_iff, ?_⟩
  intro revision hlabel
  exact revision_of_denotes hlabel (Numeral.denotes_toString revision)

/-- The greatest revision, written with a sign and leading zeros; one more is refused. -/
theorem revision_of_label_rehearsed :
    let labelled (label : String) : Pod :=
      ⟨"v1", "Pod", ⟨"kube", none, none, Dictionary.ofList [("revision", label)],
        Dictionary.empty, Dictionary.empty⟩, .null, Dictionary.empty⟩
    (labelled "+0018446744073709551615").revision = .ok 18446744073709551615 ∧
      (labelled "18446744073709551616").revision =
        .error (.invalidRevision "kube" "18446744073709551616") := by
  intro labelled
  have hdenotes : Denotes "+0018446744073709551615" 18446744073709551615 :=
    ⟨"0018446744073709551615".toList, Or.inr rfl,
      ⟨by decide +kernel, List.all_eq_true.mp (by decide +kernel)⟩, by decide +kernel⟩
  have hspoils : Spoils "18446744073709551616" :=
    .tooLarge "18446744073709551616".toList (Or.inl rfl)
      ⟨by decide +kernel, List.all_eq_true.mp (by decide +kernel)⟩ (by decide +kernel)
  obtain ⟨-, hrefused, hspoilt, -⟩ := revision_of_label (labelled "18446744073709551616")
  refine ⟨((revision_of_label _).1 _).mpr ⟨_, rfl, hdenotes⟩, (hrefused _).mpr ?_⟩
  exact .invalid (by decide +kernel) ((hspoilt _ (by decide +kernel)).mpr hspoils)

end Pod

end RevisionGuard
