import RevisionGuard.Pod.Encoding
import Mathlib.Tactic.Common

/-!
# Which manifests can be written

Whether a manifest has a written form is a matter of the values in it that are of
arbitrary shape, the spec and the fields without a use (`Pod.exists_toText_iff`): texts
always have one, and a mapping whose first key is a text has one if its entries have.  So
a manifest that can be written under one identity can be written under every other
(`Pod.exists_toText_withUid`).
-/

namespace RevisionGuard

namespace Yaml.Value

variable {front back entries : List (Value × Value)} {value : Value}

theorem areEntriesWritable_append :
    areEntriesWritable (front ++ back) = (areEntriesWritable front && areEntriesWritable back) := by
  induction front with
  | nil => rw [List.nil_append, areEntriesWritable, Bool.true_and]
  | cons entry front ih =>
      obtain ⟨key, value⟩ := entry
      rw [List.cons_append, areEntriesWritable, ih, areEntriesWritable, ← Bool.and_assoc]

/-- A mapping whose first key is a text is written by its entries, however few there are. -/
theorem isWritable_mapping_text (key : String) :
    isWritable (.mapping ((.text key, value) :: entries)) =
      areEntriesWritable ((.text key, value) :: entries) := by
  cases entries with
  | nil => simp [isWritable, areEntriesWritable, isConfusable]
  | cons entry entries => unfold isWritable; rfl

/-- A null value can be written, whatever tags it is under. -/
theorem isWritable_of_isNull : ∀ {value : Value}, value.isNull = true → value.isWritable = true
  | .null, _ => by unfold isWritable; rfl
  | .tagged _ (.mapping _), hnull => nomatch hnull
  | .tagged _ .null, _ => by unfold isWritable; exact isWritable_of_isNull rfl
  | .tagged _ (.tagged _ value), hnull => by
      unfold isWritable
      exact isWritable_of_isNull (show (Value.tagged _ value).isNull = true from hnull)

end Yaml.Value

namespace Pod

open Yaml Yaml.Value

variable {pod : Pod} {uid text : String}

/-- The values of arbitrary shape in a manifest. -/
def values (pod : Pod) : List Value :=
  pod.spec :: (pod.metadata.extra.entries.map Prod.snd ++ pod.extra.entries.map Prod.snd)

theorem toText_eq_ok_iff :
    (∃ text, pod.toText = .ok text) ↔ areEntriesWritable pod.fields = true := by
  unfold toText write?
  split <;> simp_all

/-! ## Field by field -/

theorem isWritable_text (text : String) : isWritable (.text text) = true := by
  unfold isWritable
  rfl

theorem areEntriesWritable_field {name : String} {value : Value} {others : List (Value × Value)} :
    areEntriesWritable (field name value :: others) =
      (value.isWritable && areEntriesWritable others) := by
  rw [field, areEntriesWritable, isWritable_text, Bool.true_and]

theorem areEntriesWritable_optionalField (name : String) (value : Option String) :
    areEntriesWritable (optionalField name value) = true := by
  cases value with
  | none => rfl
  | some text => rw [optionalField, areEntriesWritable_field]; rfl

theorem areEntriesWritable_of_texts {entries : List (Value × Value)}
    (htexts : ∀ entry ∈ entries, ∃ name text, entry = field name (.text text)) :
    areEntriesWritable entries = true := by
  induction entries with
  | nil => rfl
  | cons entry entries ih =>
      obtain ⟨⟨name, text, rfl⟩, hrest⟩ := List.forall_mem_cons.mp htexts
      rw [areEntriesWritable_field, isWritable_text, ih hrest]
      rfl

theorem areEntriesWritable_textsField (name : String) (texts : Dictionary String) :
    areEntriesWritable (textsField name texts) = true := by
  unfold textsField
  split
  · rfl
  · rename_i hfilled
    rw [areEntriesWritable_field]
    cases hentries : texts.entries with
    | nil => simp [Dictionary.isEmpty, hentries] at hfilled
    | cons entry entries =>
        obtain ⟨key, value⟩ := entry
        rw [List.map_cons]
        change (isWritable (.mapping ((.text key, .text value) :: _)) && true) = true
        rw [isWritable_mapping_text, Bool.and_true]
        refine areEntriesWritable_of_texts (List.forall_mem_cons.mpr ⟨⟨key, value, rfl⟩, ?_⟩)
        intro written hwritten
        obtain ⟨⟨name, text⟩, -, rfl⟩ := List.mem_map.mp hwritten
        exact ⟨name, text, rfl⟩

theorem areEntriesWritable_extraFields {extra : Dictionary Value} :
    areEntriesWritable (extraFields extra) = true ↔
      ∀ value ∈ extra.entries.map Prod.snd, value.isWritable = true := by
  unfold extraFields
  generalize extra.entries = entries
  induction entries with
  | nil => simp [areEntriesWritable]
  | cons entry entries ih =>
      rw [List.map_cons, areEntriesWritable_field, Bool.and_eq_true, ih, List.map_cons,
        List.forall_mem_cons]

/-- The metadata is written by the fields in it that have no use. -/
theorem isWritable_metadata (metadata : Metadata) :
    isWritable (.mapping (metadataFields metadata)) =
      areEntriesWritable (extraFields metadata.extra) := by
  have hfields : areEntriesWritable (metadataFields metadata) =
      areEntriesWritable (extraFields metadata.extra) := by
    unfold metadataFields
    simp only [List.cons_append, areEntriesWritable_field, areEntriesWritable_append,
      areEntriesWritable_optionalField, areEntriesWritable_textsField, Bool.true_and]
    rfl
  rw [← hfields]
  exact isWritable_mapping_text "name"

theorem areEntriesWritable_specField (spec : Value) :
    areEntriesWritable (specField spec) = spec.isWritable := by
  unfold specField
  split
  · rename_i hnull
    rw [isWritable_of_isNull hnull]
    rfl
  · rw [areEntriesWritable_field]
    exact Bool.and_true _

/-- A manifest can be written exactly if the values of arbitrary shape in it can. -/
theorem exists_toText_iff :
    (∃ text, pod.toText = .ok text) ↔ ∀ value ∈ pod.values, value.isWritable = true := by
  rw [toText_eq_ok_iff]
  unfold fields values
  rw [areEntriesWritable_append, areEntriesWritable_append, areEntriesWritable_field,
    areEntriesWritable_field, areEntriesWritable_field, isWritable_metadata,
    areEntriesWritable_specField, isWritable_text, isWritable_text, areEntriesWritable]
  simp only [Bool.and_eq_true, areEntriesWritable_extraFields, List.forall_mem_cons,
    List.forall_mem_append]
  constructor
  · rintro ⟨⟨⟨-, -, hmetadata, -⟩, hspec⟩, hextra⟩
    exact ⟨hspec, hmetadata, hextra⟩
  · rintro ⟨hspec, hmetadata, hextra⟩
    exact ⟨⟨⟨trivial, trivial, hmetadata, trivial⟩, hspec⟩, hextra⟩

/-- A manifest that can be written under one identity can be written under every
other. -/
theorem exists_toText_withUid (htext : (pod.withUid uid).toText = .ok text) (other : String) :
    ∃ text, (pod.withUid other).toText = .ok text := by
  have hwritable := exists_toText_iff.mp ⟨text, htext⟩
  exact exists_toText_iff.mpr hwritable

end Pod

end RevisionGuard
