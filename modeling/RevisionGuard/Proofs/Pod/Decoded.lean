import RevisionGuard.Pod.Decoding
import RevisionGuard.Proofs.Yaml.Agreement

/-!
# What decoded manifests are like

A field of a manifest that has no use is kept under its name, which is none of the names
that have a use, and its value has no tags: such values are read without
(`Pod.readable_of_ofBytes`).  Republishing a manifest changes only fields that have a
use, so it stays that way (`Pod.Readable.republished`).
-/

namespace RevisionGuard

namespace Pod

open Yaml Yaml.Decoder

variable {pod : Pod} {names : List String} {fields : List (String × Value)} {scope : Scope}
  {entry : Node × Node} {before after : Nat}

/-- The names of the fields of the metadata that have a use. -/
def metadataNames : List String := ["name", "namespace", "uid", "labels", "annotations"]

/-- The names of the fields of a manifest that have a use. -/
def fieldNames : List String := ["apiVersion", "kind", "metadata", "spec"]

/-- Fields that are read again as they are: none has a name with a use, or a tag. -/
def AreOthers (names : List String) (fields : List (String × Value)) : Prop :=
  ∀ field ∈ fields, field.1 ∉ names ∧ field.2.isUntagged = true

/-- The fields of a manifest that have no use can be read again. -/
structure Readable (pod : Pod) : Prop where
  metadata : AreOthers metadataNames pod.metadata.extra.entries
  extra : AreOthers fieldNames pod.extra.entries

/-! ## Manifests that are republished -/

theorem Readable.annotate (hreadable : pod.Readable) (key value : String) :
    (pod.annotate key value).Readable :=
  ⟨hreadable.metadata, hreadable.extra⟩

theorem Readable.withUid (hreadable : pod.Readable) (uid : String) : (pod.withUid uid).Readable :=
  ⟨hreadable.metadata, hreadable.extra⟩

theorem Readable.republished (hreadable : pod.Readable) (failed : Revision) (uid : String) :
    (pod.republished failed uid).Readable :=
  (hreadable.annotate fallbackAnnotation failed.text).withUid uid

/-! ## Manifests that are decoded -/

theorem AreOthers.cons {field : String × Value} (hname : field.1 ∉ names)
    (huntagged : field.2.isUntagged = true) (hothers : AreOthers names fields) :
    AreOthers names (field :: fields) :=
  List.forall_mem_cons.mpr ⟨⟨hname, huntagged⟩, hothers⟩

theorem AreOthers.of_otherFields {others : Dictionary Value}
    (hgives : Gives (otherFields fields) before others after) (hothers : AreOthers names fields) :
    AreOthers names others.entries := by
  obtain ⟨_, _, -, hothersList⟩ := gives_bind_iff.mp hgives
  obtain ⟨rfl, -⟩ := gives_pure_iff.mp hothersList
  intro field hfield
  exact hothers field (Dictionary.mem_entries_ofList hfield)

theorem AreOthers.reverse (hothers : AreOthers names fields) : AreOthers names fields.reverse :=
  fun field hfield => hothers field (List.mem_reverse.mp hfield)

theorem MetadataDraft.areOthers_of_read {draft next : MetadataDraft}
    (hgives : Gives (MetadataDraft.read scope draft entry) before next after)
    (hothers : AreOthers metadataNames draft.extra) : AreOthers metadataNames next.extra := by
  unfold MetadataDraft.read at hgives
  obtain ⟨key, middle, -, hgives⟩ := gives_bind_iff.mp hgives
  split at hgives
  case h_6 hname hnamespace huid hlabels hannotations =>
    obtain ⟨value, _, hvalue, hnext⟩ := gives_bind_iff.mp hgives
    obtain ⟨rfl, -⟩ := gives_pure_iff.mp hnext
    refine hothers.cons ?_ (isUntagged_of_gives hvalue)
    simp only [metadataNames, List.mem_cons, List.not_mem_nil, or_false, not_or]
    exact ⟨hname, hnamespace, huid, hlabels, hannotations⟩
  all_goals
    obtain ⟨slot, _, -, hnext⟩ := gives_bind_iff.mp hgives
    obtain ⟨rfl, -⟩ := gives_pure_iff.mp hnext
    exact hothers

theorem areOthers_of_decodeMetadata {node : Node} {metadata : Metadata}
    (hgives : Gives (decodeMetadata scope node) before metadata after) :
    AreOthers metadataNames metadata.extra.entries := by
  obtain ⟨inside, entries, _, hread⟩ := exists_of_gives_mapping hgives
  obtain ⟨draft, _, hfold, hfinish⟩ := gives_bind_iff.mp hread
  have hdraft : AreOthers metadataNames draft.extra :=
    motive_of_foldlM (motive := fun draft => AreOthers metadataNames draft.extra) hfold
      MetadataDraft.areOthers_of_read (by simp [AreOthers])
  obtain ⟨name, _, -, hfinish⟩ := gives_bind_iff.mp hfinish
  obtain ⟨extra, _, hextra, hfinish⟩ := gives_bind_iff.mp hfinish
  obtain ⟨rfl, -⟩ := gives_pure_iff.mp hfinish
  exact hdraft.reverse.of_otherFields hextra

/-- What has been collected of a manifest can be read again. -/
structure Draft.Readable (draft : Draft) : Prop where
  metadata : ∀ metadata ∈ draft.metadata, AreOthers metadataNames metadata.extra.entries
  extra : AreOthers fieldNames draft.extra

theorem Draft.readable_of_read {draft next : Draft}
    (hgives : Gives (Draft.read scope draft entry) before next after)
    (hreadable : draft.Readable) : next.Readable := by
  unfold Draft.read at hgives
  obtain ⟨key, middle, -, hgives⟩ := gives_bind_iff.mp hgives
  split at hgives
  case h_3 =>
    obtain ⟨slot, _, hslot, hnext⟩ := gives_bind_iff.mp hgives
    obtain ⟨rfl, -⟩ := gives_pure_iff.mp hnext
    refine ⟨?_, hreadable.extra⟩
    unfold fill at hslot
    split at hslot
    · exact (not_gives_mismatch hslot).elim
    · obtain ⟨metadata, hmetadata, rfl⟩ := gives_map_iff.mp hslot
      rintro _ ⟨⟩
      exact areOthers_of_decodeMetadata hmetadata
  case h_5 hapiVersion hkind hmetadata hspec =>
    obtain ⟨value, _, hvalue, hnext⟩ := gives_bind_iff.mp hgives
    obtain ⟨rfl, -⟩ := gives_pure_iff.mp hnext
    refine ⟨hreadable.metadata, hreadable.extra.cons ?_ (isUntagged_of_gives hvalue)⟩
    simp only [fieldNames, List.mem_cons, List.not_mem_nil, or_false, not_or]
    exact ⟨hapiVersion, hkind, hmetadata, hspec⟩
  all_goals
    obtain ⟨slot, _, -, hnext⟩ := gives_bind_iff.mp hgives
    obtain ⟨rfl, -⟩ := gives_pure_iff.mp hnext
    exact ⟨hreadable.metadata, hreadable.extra⟩

theorem ofBytes_eq_ok_iff {contents : Bytes} :
    ofBytes contents = .ok pod ↔
      (Document.ofSource (Source.ofBytes contents)).decode decodeNode = .ok pod := by
  unfold ofBytes ofDocument
  cases (Document.ofSource (Source.ofBytes contents)).decode decodeNode <;> simp [Except.mapError]

/-- In a manifest that has been decoded, the fields without a use have other names than
those with one, and no tags. -/
theorem readable_of_ofBytes {contents : Bytes} (hpod : ofBytes contents = .ok pod) :
    pod.Readable := by
  obtain ⟨⟨after, hgives⟩, -⟩ := decode_eq_ok_iff.mp (ofBytes_eq_ok_iff.mp hpod)
  obtain ⟨inside, entries, _, hread⟩ := exists_of_gives_mapping hgives
  obtain ⟨draft, _, hfold, hfinish⟩ := gives_bind_iff.mp hread
  have hdraft : draft.Readable :=
    motive_of_foldlM hfold Draft.readable_of_read ⟨by simp, by simp [AreOthers]⟩
  obtain ⟨apiVersion, _, -, hfinish⟩ := gives_bind_iff.mp hfinish
  obtain ⟨kind, _, -, hfinish⟩ := gives_bind_iff.mp hfinish
  obtain ⟨metadata, _, hmetadata, hfinish⟩ := gives_bind_iff.mp hfinish
  obtain ⟨extra, _, hextra, hfinish⟩ := gives_bind_iff.mp hfinish
  obtain ⟨rfl, -⟩ := gives_pure_iff.mp hfinish
  refine ⟨?_, hdraft.extra.reverse.of_otherFields hextra⟩
  unfold require at hmetadata
  split at hmetadata
  · rename_i hslot
    obtain ⟨rfl, -⟩ := gives_pure_iff.mp hmetadata
    exact hdraft.metadata _ hslot
  · exact (not_gives_mismatch hmetadata).elim

end Pod

end RevisionGuard
