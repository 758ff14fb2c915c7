import RevisionGuard.Text.Utf8
import Mathlib.Algebra.Group.Nat.Defs
import Mathlib.Tactic.Common

/-!
# Reading UTF-8 back

`Utf8.text?` accepts the bytes of a text and nothing else (`Utf8.text?_eq_some_iff`).  The
masks of the reader are ranges and remainders of the byte as a number, so that the reader
and the library's encoder meet in the arithmetic of digits to the base 64: `Utf8.Spells`
says of a leading byte and those behind it what the reader checks, and is the encoding of a
character written the other way round (`Utf8.spells_iff`).
-/

namespace RevisionGuard

namespace Utf8

/-! ## The masks -/

theorem forall_byte {holds : UInt8 → Prop} (hall : ∀ value < 256, holds (UInt8.ofNat value))
    (byte : UInt8) : holds byte := by
  have hholds := hall byte.toNat byte.toNat_lt
  rwa [UInt8.ofNat_toNat] at hholds

/-- The ranges of leading bytes. -/
theorem width?_eq_some_iff (lead : UInt8) {width : Nat} :
    width? lead = some width ↔
      width = 1 ∧ lead.toNat < 0x80 ∨
      width = 2 ∧ 0xc0 ≤ lead.toNat ∧ lead.toNat < 0xe0 ∨
      width = 3 ∧ 0xe0 ≤ lead.toNat ∧ lead.toNat < 0xf0 ∨
      width = 4 ∧ 0xf0 ≤ lead.toNat ∧ lead.toNat < 0xf8 := by
  have hchain : width? lead =
      if lead.toNat < 0x80 then some 1
      else if lead.toNat < 0xc0 then none
      else if lead.toNat < 0xe0 then some 2
      else if lead.toNat < 0xf0 then some 3
      else if lead.toNat < 0xf8 then some 4
      else none := by
    revert lead
    exact forall_byte (by decide +kernel)
  rw [hchain]
  split_ifs <;> simp only [Option.some.injEq, false_iff] <;> omega

theorem isTrailing_iff (byte : UInt8) :
    isTrailing byte = true ↔ 0x80 ≤ byte.toNat ∧ byte.toNat < 0xc0 := by
  revert byte
  exact forall_byte (by decide +kernel)

theorem toNat_and_mask (bits : Nat) {mask : UInt8} (hmask : mask.toNat = 2 ^ bits - 1)
    (byte : UInt8) : (byte &&& mask).toNat = byte.toNat % 2 ^ bits := by
  rw [UInt8.toNat_and, hmask]
  exact Nat.and_two_pow_sub_one_eq_mod byte.toNat bits

/-- How many bits of a code point are in the leading byte. -/
def leadSize : Nat → Nat
  | 1 => 7
  | 2 => 5
  | 3 => 4
  | _ => 3

theorem leadBits_eq (lead : UInt8) :
    (width : Nat) → leadBits width lead = lead.toNat % 2 ^ leadSize width
  | 0 => toNat_and_mask 3 rfl lead
  | 1 => toNat_and_mask 7 rfl lead
  | 2 => toNat_and_mask 5 rfl lead
  | 3 => toNat_and_mask 4 rfl lead
  | _ + 4 => toNat_and_mask 3 rfl lead

/-! ## One character -/

variable {lead : UInt8} {trailing rest bytes : Bytes} {letter : Char} {width point : Nat}

/-- The code point with the bits of the trailing bytes behind it. -/
def extended (point : Nat) (trailing : Bytes) : Nat :=
  trailing.foldl (fun point byte => point * 64 + byte.toNat % 64) point

theorem gather_eq_ok_iff {distance result : Nat} :
    gather point distance trailing = .ok result ↔
      (∀ byte ∈ trailing, isTrailing byte = true) ∧ extended point trailing = result := by
  induction trailing generalizing point distance with
  | nil => simp [gather, extended]
  | cons byte trailing ih =>
      rw [gather]
      split
      next htrailing =>
        have hbits : (byte &&& 0x3f).toNat = byte.toNat % 64 := toNat_and_mask 6 rfl byte
        rw [ih, hbits, List.forall_mem_cons]
        simp only [htrailing, true_and, extended, List.foldl_cons]
      next hbroken =>
        rw [List.forall_mem_cons]
        simp only [hbroken, false_and, reduceCtorEq]

theorem isScalar_iff : isScalar point = true ↔ point.isValidChar := by
  simp only [isScalar, Nat.isValidChar, Bool.or_eq_true, Bool.and_eq_true, decide_eq_true_eq]
  omega

/-- A code point is that of a character. -/
theorem character_iff :
    isScalar point = true ∧ Char.ofNat point = letter ↔ letter.toNat = point := by
  constructor
  · rintro ⟨hscalar, rfl⟩
    rw [Char.ofNat, dif_pos (isScalar_iff.mp hscalar)]
    exact UInt32.toNat_ofNatLT
  · rintro rfl
    exact ⟨isScalar_iff.mpr letter.valid, Char.ofNat_toNat letter⟩

/-- A leading byte and those behind it pass for a character. -/
structure Spells (lead : UInt8) (trailing : Bytes) (letter : Char) : Prop where
  announced : width? lead = some (trailing.length + 1)
  trails : ∀ byte ∈ trailing, isTrailing byte = true
  point : letter.toNat = extended (leadBits (trailing.length + 1) lead) trailing
  shortest : isShortest (trailing.length + 1) letter.toNat = true

/-! ## The encoder -/

/-- The trailing byte with the last bits of a number. -/
def trail (value : Nat) : UInt8 := UInt8.ofNat (value % 64 + 0x80)

theorem ofNat_eq_iff {value : Nat} {byte : UInt8} (hvalue : value < 256) :
    UInt8.ofNat value = byte ↔ byte.toNat = value := by
  rw [← UInt8.toNat_inj, UInt8.toNat_ofNat', Nat.mod_eq_of_lt hvalue]
  exact eq_comm

theorem trail_eq_iff {value : Nat} {byte : UInt8} :
    trail value = byte ↔ byte.toNat = value % 64 + 0x80 := ofNat_eq_iff (by omega)

theorem toNat_trail (value : Nat) : (trail value).toNat = value % 64 + 0x80 := trail_eq_iff.mp rfl

@[simp] theorem isTrailing_trail (value : Nat) : isTrailing (trail value) = true := by
  rw [isTrailing_iff, toNat_trail]
  omega

theorem encodeChar_one (hhigh : letter.toNat < 0x80) :
    String.utf8EncodeChar letter = [UInt8.ofNat letter.toNat] :=
  if_pos (Nat.le_of_lt_succ hhigh)

theorem encodeChar_two (hlow : 0x80 ≤ letter.toNat) (hhigh : letter.toNat < 0x800) :
    String.utf8EncodeChar letter =
      [UInt8.ofNat (letter.toNat / 64 % 32 + 0xc0), trail letter.toNat] := by
  have hone : ¬ letter.toNat ≤ 0x7f := by omega
  have htwo : letter.toNat ≤ 0x7ff := by omega
  exact (if_neg hone).trans (if_pos htwo)

theorem encodeChar_three (hlow : 0x800 ≤ letter.toNat) (hhigh : letter.toNat < 0x10000) :
    String.utf8EncodeChar letter =
      [UInt8.ofNat (letter.toNat / 4096 % 16 + 0xe0), trail (letter.toNat / 64),
        trail letter.toNat] := by
  have hone : ¬ letter.toNat ≤ 0x7f := by omega
  have htwo : ¬ letter.toNat ≤ 0x7ff := by omega
  have hthree : letter.toNat ≤ 0xffff := by omega
  exact (if_neg hone).trans ((if_neg htwo).trans (if_pos hthree))

theorem encodeChar_four (hlow : 0x10000 ≤ letter.toNat) :
    String.utf8EncodeChar letter =
      [UInt8.ofNat (letter.toNat / 262144 % 8 + 0xf0), trail (letter.toNat / 4096),
        trail (letter.toNat / 64), trail letter.toNat] := by
  have hone : ¬ letter.toNat ≤ 0x7f := by omega
  have htwo : ¬ letter.toNat ≤ 0x7ff := by omega
  have hthree : ¬ letter.toNat ≤ 0xffff := by omega
  exact (if_neg hone).trans ((if_neg htwo).trans (if_neg hthree))

theorem toNat_lt (letter : Char) : letter.toNat < 0x110000 := by
  rcases letter.valid with hlow | ⟨-, hhigh⟩
  · exact Nat.lt_trans hlow (by decide)
  · exact hhigh

theorem Spells.encodeChar (hspells : Spells lead trailing letter) :
    String.utf8EncodeChar letter = lead :: trailing := by
  obtain ⟨hannounced, htrails, hpoint, hshortest⟩ := hspells
  have hlead := (width?_eq_some_iff lead).mp hannounced
  rw [leadBits_eq] at hpoint
  match trailing with
  | [] =>
      simp only [List.length_nil] at hlead
      have hvalue : letter.toNat = lead.toNat % 128 := hpoint
      rw [encodeChar_one (by omega), List.cons.injEq, ofNat_eq_iff (by omega)]
      exact ⟨by omega, rfl⟩
  | [second] =>
      simp only [List.length_cons, List.length_nil] at hlead
      have hsecond := (isTrailing_iff second).mp (htrails second (by simp))
      have hvalue : letter.toNat = lead.toNat % 32 * 64 + second.toNat % 64 := hpoint
      have hlow : 0x80 ≤ letter.toNat := of_decide_eq_true hshortest
      rw [encodeChar_two hlow (by omega)]
      simp only [List.cons.injEq, and_true]
      rw [ofNat_eq_iff (by omega), trail_eq_iff]
      omega
  | [second, third] =>
      simp only [List.length_cons, List.length_nil] at hlead
      have hsecond := (isTrailing_iff second).mp (htrails second (by simp))
      have hthird := (isTrailing_iff third).mp (htrails third (by simp))
      have hvalue : letter.toNat =
          (lead.toNat % 16 * 64 + second.toNat % 64) * 64 + third.toNat % 64 := hpoint
      have hlow : 0x800 ≤ letter.toNat := of_decide_eq_true hshortest
      rw [encodeChar_three hlow (by omega)]
      simp only [List.cons.injEq, and_true]
      rw [ofNat_eq_iff (by omega), trail_eq_iff, trail_eq_iff]
      omega
  | [second, third, fourth] =>
      simp only [List.length_cons, List.length_nil] at hlead
      have hsecond := (isTrailing_iff second).mp (htrails second (by simp))
      have hthird := (isTrailing_iff third).mp (htrails third (by simp))
      have hfourth := (isTrailing_iff fourth).mp (htrails fourth (by simp))
      have hvalue : letter.toNat =
          ((lead.toNat % 8 * 64 + second.toNat % 64) * 64 + third.toNat % 64) * 64 +
            fourth.toNat % 64 := hpoint
      have hlow : 0x10000 ≤ letter.toNat := of_decide_eq_true hshortest
      rw [encodeChar_four hlow]
      simp only [List.cons.injEq, and_true]
      rw [ofNat_eq_iff (by omega), trail_eq_iff, trail_eq_iff, trail_eq_iff]
      omega
  | _ :: _ :: _ :: _ :: rest =>
      simp only [List.length_cons] at hlead
      omega

theorem spells_of_encodeChar (hencode : String.utf8EncodeChar letter = lead :: trailing) :
    Spells lead trailing letter := by
  have hbound := toNat_lt letter
  by_cases hone : letter.toNat < 0x80
  · rw [encodeChar_one hone] at hencode
    obtain ⟨hlead, rfl⟩ := List.cons.inj hencode
    rw [ofNat_eq_iff (by omega)] at hlead
    refine ⟨(width?_eq_some_iff lead).mpr (Or.inl ⟨rfl, by omega⟩), by simp, ?_, rfl⟩
    rw [leadBits_eq]
    change letter.toNat = lead.toNat % 128
    omega
  by_cases htwo : letter.toNat < 0x800
  · rw [encodeChar_two (Nat.not_lt.mp hone) htwo] at hencode
    obtain ⟨hlead, rfl⟩ := List.cons.inj hencode
    rw [ofNat_eq_iff (by omega)] at hlead
    refine ⟨(width?_eq_some_iff lead).mpr (Or.inr (Or.inl ⟨rfl, by omega⟩)), by simp, ?_,
      decide_eq_true (Nat.not_lt.mp hone)⟩
    rw [leadBits_eq]
    change letter.toNat = lead.toNat % 32 * 64 + (trail letter.toNat).toNat % 64
    rw [toNat_trail]
    omega
  by_cases hthree : letter.toNat < 0x10000
  · rw [encodeChar_three (Nat.not_lt.mp htwo) hthree] at hencode
    obtain ⟨hlead, rfl⟩ := List.cons.inj hencode
    rw [ofNat_eq_iff (by omega)] at hlead
    refine ⟨(width?_eq_some_iff lead).mpr (Or.inr (Or.inr (Or.inl ⟨rfl, by omega⟩))), by simp, ?_,
      decide_eq_true (Nat.not_lt.mp htwo)⟩
    rw [leadBits_eq]
    change letter.toNat = (lead.toNat % 16 * 64 + (trail (letter.toNat / 64)).toNat % 64) * 64 +
      (trail letter.toNat).toNat % 64
    rw [toNat_trail, toNat_trail]
    omega
  · rw [encodeChar_four (Nat.not_lt.mp hthree)] at hencode
    obtain ⟨hlead, rfl⟩ := List.cons.inj hencode
    rw [ofNat_eq_iff (by omega)] at hlead
    refine ⟨(width?_eq_some_iff lead).mpr (Or.inr (Or.inr (Or.inr ⟨rfl, by omega⟩))), by simp, ?_,
      decide_eq_true (Nat.not_lt.mp hthree)⟩
    rw [leadBits_eq]
    change letter.toNat = ((lead.toNat % 8 * 64 + (trail (letter.toNat / 4096)).toNat % 64) * 64 +
      (trail (letter.toNat / 64)).toNat % 64) * 64 + (trail letter.toNat).toNat % 64
    rw [toNat_trail, toNat_trail, toNat_trail]
    omega

/-- What the reader checks of a character is how the encoder writes it. -/
theorem spells_iff :
    Spells lead trailing letter ↔ String.utf8EncodeChar letter = lead :: trailing :=
  ⟨Spells.encodeChar, spells_of_encodeChar⟩

/-! ## A run of bytes -/

/-- The reader finds a character where its encoding stands. -/
theorem step_eq_character_iff :
    step lead rest = .character letter width ↔
      ∃ trailing behind, rest = trailing ++ behind ∧ trailing.length + 1 = width ∧
        String.utf8EncodeChar letter = lead :: trailing := by
  constructor
  · intro hstep
    unfold step at hstep
    cases hwidth : width? lead with
    | none =>
        rw [hwidth] at hstep
        cases hstep
    | some announced =>
        have hannounced := (width?_eq_some_iff lead).mp hwidth
        simp only [hwidth] at hstep
        split at hstep
        next => cases hstep
        next hcomplete =>
          split at hstep
          next => cases hstep
          next point hgather =>
            split at hstep
            next => cases hstep
            next hshortest =>
              split at hstep
              next hscalar =>
                obtain ⟨rfl, rfl⟩ := Step.character.inj hstep
                have hlength : (rest.take (announced - 1)).length + 1 = announced := by
                  rw [List.length_take] at hcomplete ⊢
                  omega
                obtain ⟨htrails, hpoint⟩ := gather_eq_ok_iff.mp hgather
                have hletter := character_iff.mp ⟨hscalar, rfl⟩
                refine ⟨rest.take (announced - 1), rest.drop (announced - 1),
                  (List.take_append_drop _ _).symm, hlength, Spells.encodeChar ⟨?_, htrails, ?_, ?_⟩⟩
                · rw [hwidth, hlength]
                · rw [hletter, hlength, hpoint]
                · rw [hletter, hlength]
                  simpa using hshortest
              next => cases hstep
  · rintro ⟨trailing, behind, rfl, rfl, hencode⟩
    obtain ⟨hannounced, htrails, hpoint, hshortest⟩ := spells_iff.mpr hencode
    have hgather : gather (leadBits (trailing.length + 1) lead) 1 trailing = .ok letter.toNat :=
      gather_eq_ok_iff.mpr ⟨htrails, hpoint.symm⟩
    obtain ⟨hscalar, hletter⟩ := character_iff.mpr (rfl : letter.toNat = letter.toNat)
    simp only [step, hannounced, Nat.add_sub_cancel, List.take_left, Nat.lt_irrefl, if_false, hgather,
      hshortest, Bool.not_true, Bool.false_eq_true, hscalar, if_true, hletter]

theorem encode_cons (letter : Char) (letters : List Char) :
    encode (letter :: letters) = String.utf8EncodeChar letter ++ encode letters :=
  List.flatMap_cons

theorem letters?_encode (letters : List Char) : letters? (encode letters) = some letters := by
  induction letters with
  | nil => simp [encode, letters?]
  | cons letter letters ih =>
      rw [encode_cons]
      cases hencode : String.utf8EncodeChar letter with
      | nil => exact absurd hencode (String.utf8EncodeChar_ne_nil)
      | cons lead trailing =>
          have hstep : step lead (trailing ++ encode letters) =
              .character letter (trailing.length + 1) :=
            step_eq_character_iff.mpr ⟨trailing, encode letters, rfl, rfl, hencode⟩
          rw [List.cons_append, letters?, hstep]
          simp only [Nat.add_sub_cancel, List.drop_left, ih, Option.map_some]

theorem letters?_eq_some_iff {letters : List Char} :
    letters? bytes = some letters ↔ bytes = encode letters := by
  constructor
  · intro hletters
    induction bytes using letters?.induct generalizing letters with
    | case1 =>
        rw [letters?, Option.some.injEq] at hletters
        rw [← hletters]
        rfl
    | case2 lead rest letter width hstep ih =>
        rw [letters?, hstep] at hletters
        obtain ⟨others, hothers, rfl⟩ := Option.map_eq_some_iff.mp hletters
        obtain ⟨trailing, behind, rfl, rfl, hencode⟩ := step_eq_character_iff.mp hstep
        have hbehind := ih hothers
        rw [Nat.add_sub_cancel, List.drop_left] at hbehind
        rw [encode_cons, hencode, List.cons_append, hbehind]
    | case3 lead rest hstep =>
        rw [letters?] at hletters
        split at hletters
        next letter width hcharacter => exact absurd hcharacter (hstep letter width)
        next => cases hletters
  · rintro rfl
    exact letters?_encode letters

/-- What is read as a text is the text as it is written, and that is always read. -/
theorem text?_eq_some_iff {text : String} : text? bytes = some text ↔ bytes = ofText text := by
  rw [text?, Option.map_eq_some_iff, ofText]
  constructor
  · rintro ⟨letters, hletters, rfl⟩
    rw [String.toList_ofList]
    exact letters?_eq_some_iff.mp hletters
  · rintro rfl
    exact ⟨text.toList, letters?_encode _, String.ofList_toList⟩

end Utf8

end RevisionGuard
