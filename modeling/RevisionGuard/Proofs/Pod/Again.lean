import RevisionGuard.Proofs.Pod.RoundTrip
import RevisionGuard.Proofs.Pod.Writable
import RevisionGuard.Proofs.Yaml.Value
import Mathlib.Tactic.Common

/-!
# Manifests that are changed, written and read again

The guard changes a manifest by noting something in its annotations or by giving it
another identity (`Pod.Amendment`).  Neither touches a value of arbitrary shape, and the
fields without a use stay readable.  So however often a decoded manifest was changed, it
can be written if the values that were decoded can, and what is read again is the manifest
but for a spec that was null under a tag (`Pod.read_again`).
-/

namespace RevisionGuard

open Yaml

namespace Pod

variable {pod other first : Pod} {contents : Bytes}

theorem same_self (pod : Pod) : pod.same pod = true := by
  simp [same, Value.same_self, Value.sameItems_self]

theorem spec_same_of_same (hsame : pod.same other = true) : pod.spec.same other.spec = true := by
  unfold same at hsame
  simp only [Bool.and_eq_true] at hsame
  exact hsame.1.2

/-- What is read again is the same as the manifest unless its spec is null under a tag. -/
theorem written_same_iff :
    pod.written.same pod = true ↔ (pod.spec.isNull = true → pod.spec = .null) := by
  constructor
  · intro hsame hnull
    have hspec := spec_same_of_same hsame
    unfold written at hspec
    rw [if_pos hnull] at hspec
    exact Value.eq_null_of_same hspec
  · intro hplain
    rw [written_eq_iff.mpr hplain]
    exact same_self pod

/-! ## Changes -/

/-- A change that the guard makes to a manifest. -/
inductive Amendment where
  | annotate (key value : String)
  | withUid (uid : String)

def amend (pod : Pod) : Amendment → Pod
  | .annotate key value => pod.annotate key value
  | .withUid uid => pod.withUid uid

/-- The manifest after some changes, one after the other. -/
def amendAll (pod : Pod) (amendments : List Amendment) : Pod := amendments.foldl amend pod

theorem Readable.amend (hreadable : pod.Readable) (amendment : Amendment) :
    (pod.amend amendment).Readable := by
  cases amendment with
  | annotate key value => exact hreadable.annotate key value
  | withUid uid => exact hreadable.withUid uid

theorem values_amend (pod : Pod) (amendment : Amendment) :
    (pod.amend amendment).values = pod.values := by
  cases amendment with
  | annotate key value => rfl
  | withUid uid => rfl

theorem Readable.amendAll (hreadable : pod.Readable) (amendments : List Amendment) :
    (pod.amendAll amendments).Readable := by
  induction amendments generalizing pod with
  | nil => exact hreadable
  | cons amendment amendments ih => exact ih (hreadable.amend amendment)

/-- No change touches a value of arbitrary shape. -/
theorem values_amendAll (pod : Pod) (amendments : List Amendment) :
    (pod.amendAll amendments).values = pod.values := by
  induction amendments generalizing pod with
  | nil => rfl
  | cons amendment amendments ih =>
      rw [amendAll, List.foldl_cons, ← amendAll, ih, values_amend]

theorem spec_amendAll (pod : Pod) (amendments : List Amendment) :
    (pod.amendAll amendments).spec = pod.spec :=
  (List.cons.inj (values_amendAll pod amendments)).1

/-! ## Writing and reading again -/

/-- A manifest that was decoded, and changed any number of times, can be written exactly if
the values that were decoded can.  If the text means what was written, the manifest is read
from it again with all its fields, but for the tags of a null spec: it is the same exactly
if the spec is not null under a tag. -/
theorem read_again (hfirst : ofBytes contents = .ok first) (amendments : List Amendment) :
    ((∃ text, (first.amendAll amendments).toText = .ok text) ↔
      ∀ value ∈ first.values, value.isWritable = true) ∧
    ∀ text, (first.amendAll amendments).toText = .ok text →
      RoundTrips (first.amendAll amendments).fields →
      ∃ again, ofBytes (Utf8.ofText text) = .ok again ∧
        again = { first.amendAll amendments with
          spec := if first.spec.isNull then .null else first.spec } ∧
        (again.same (first.amendAll amendments) = true ↔
          (first.spec.isNull = true → first.spec = .null)) := by
  have hreadable := (readable_of_ofBytes hfirst).amendAll amendments
  refine ⟨?_, ?_⟩
  · rw [exists_toText_iff, values_amendAll]
  · intro text htext htrips
    refine ⟨_, ofBytes_toText hreadable htext htrips, ?_, ?_⟩
    · rw [written, spec_amendAll]
    · rw [written_same_iff, spec_amendAll]

end Pod

namespace Rehearsed

/-- A manifest whose spec is null under a tag. -/
def taggedNull : Bytes :=
  Utf8.ofText "apiVersion: v1\nkind: Pod\nmetadata:\n  name: kube\nspec: !t null\n"

def changes : List Pod.Amendment := [.annotate "note" "8", .withUid "new"]

end Rehearsed

/-- A spec that is null under a tag does not come back. -/
theorem Pod.read_again_rehearsed :
    ∃ first text again, Pod.ofBytes Rehearsed.taggedNull = .ok first ∧
      (first.amendAll Rehearsed.changes).toText = .ok text ∧
      Pod.ofBytes (Utf8.ofText text) = .ok again ∧
      again.same (first.amendAll Rehearsed.changes) = false := by
  have hchecked : (match Pod.ofBytes Rehearsed.taggedNull with
      | .ok first => first.spec.isNull && first.spec ≠ .null &&
          first.values.all Value.isWritable &&
          decide (RoundTrips (first.amendAll Rehearsed.changes).fields)
      | .error _ => false) = true := by decide +kernel
  split at hchecked
  · rename_i first hfirst
    simp only [Bool.and_eq_true, decide_eq_true_eq, List.all_eq_true] at hchecked
    obtain ⟨⟨⟨hnull, htagged⟩, hwritable⟩, htrips⟩ := hchecked
    obtain ⟨hwrites, hreads⟩ := Pod.read_again hfirst Rehearsed.changes
    obtain ⟨text, htext⟩ := hwrites.mpr hwritable
    obtain ⟨again, hagain, -, hsame⟩ := hreads text htext htrips
    refine ⟨first, text, again, hfirst, htext, hagain, ?_⟩
    rw [Bool.eq_false_iff]
    exact fun hback => htagged (hsame.mp hback hnull)
  · cases hchecked

end RevisionGuard
