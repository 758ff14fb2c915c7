import RevisionGuard.Proofs.Files.Spot
import RevisionGuard.Proofs.Layout.Steps
import RevisionGuard.Proofs.Sync.Hosts
import Mathlib.Tactic.Common

/-!
# Removing the marker on a host

The marker is removed when the guard is done, and nothing else changes then
(`Unmarked`).  It is in the directory of the active manifest, so whoever can remove
one of them can look for the other there (`clearable_of_removal`).
-/

namespace RevisionGuard

open RevisionGuard.Tree

variable {tree other after : Tree} {path : Path} {left : Nat} {directory : Location}
  {name label : EntryName} {healthy : Bool} {layout : Layout}

/-- The pointer is not named like a marker. -/
theorem Tree.Spot.pointer_ne_markerEnd (hspot : tree.Spot layout.lastKnownGood left directory name)
    (tip : EntryName) : name ≠ tip ++ Layout.markerEnd := by
  obtain ⟨before, other, hsteps⟩ := layout.steps_lastKnownGood
  rw [hspot.name_eq hsteps]
  exact Layout.pointerEnd_ne_markerEnd other tip

/-! ## With and without the marker -/

/-- The marker is at most removed from the files of a host: it was no directory
there. -/
def Unmarked (layout : Layout) (tree after : Tree) : Prop :=
  after = tree ∨ ∃ left directory name entry, tree.Spot layout.selfMarker left directory name ∧
    tree.at? (name :: directory) = some entry ∧ entry ≠ .directory ∧
    after = tree.erase (name :: directory)

theorem unmarked_answer (layout : Layout) (tree : Tree) :
    Unmarked layout tree (tree.answer (.remove layout.selfMarker)).2 := by
  simp only [answer]
  cases hremove : tree.remove layout.selfMarker with
  | error fault => exact Or.inl rfl
  | ok changed =>
      obtain ⟨before, tip, -, hsteps⟩ := layout.steps_manifests
      obtain ⟨left, directory, entry, hspot, hentry, hdirectory, rfl⟩ :=
        spot_of_remove hsteps hremove
      exact Or.inr ⟨left, directory, _, entry, hspot, hentry, hdirectory, rfl⟩

namespace Unmarked

variable (hunmarked : Unmarked layout tree after)
include hunmarked

/-- Without the marker no path leads to an entry that it did not lead to before. -/
theorem spot_of_spot (hspot : after.Spot path left directory name) :
    tree.Spot path left directory name := by
  rcases hunmarked with rfl | ⟨_, place, label, entry, -, -, -, rfl⟩
  · exact hspot
  · refine hspot.frame (sameBut_erase tree label place).symm ?_
    simp [DeadEnd, at?_erase_self]

/-- The removal of the marker leaves what is not named like a marker. -/
theorem at?_eq (hname : ∀ tip, name ≠ tip ++ Layout.markerEnd) :
    after.at? (name :: directory) = tree.at? (name :: directory) := by
  rcases hunmarked with rfl | ⟨_, place, label, entry, hmarker, -, -, rfl⟩
  · rfl
  · obtain ⟨_, tip, -, hsteps⟩ := layout.steps_manifests
    refine (sameBut_erase tree label place).at?_eq _ fun heq => ?_
    obtain ⟨rfl, -⟩ := List.cons.inj heq
    exact hname tip (hmarker.name_eq hsteps)

/-- The removal of a marker that led to no directory leaves every path. -/
theorem spot (hmarker : ¬ tree.LeadsToDirectory layout.selfMarker)
    (hspot : tree.Spot path left directory name) : after.Spot path left directory name := by
  rcases hunmarked with rfl | ⟨_, place, label, entry, hplace, -, -, rfl⟩
  · exact hspot
  · exact hspot.frame (sameBut_erase tree label place)
      (hplace.deadEnd_of_not_leadsToDirectory hmarker)

end Unmarked

/-! ## The place of the marker -/

/-- The marker is in this place, from where it can be removed, or it is missing. -/
structure Clearable (layout : Layout) (tree : Tree) (left : Nat) (directory : Location)
    (label : EntryName) : Prop where
  spot : tree.Spot layout.selfMarker left directory label
  noDirectory : tree.at? (label :: directory) ≠ some .directory

/-- If the removal of the marker does not fail, the marker is or would be in the
directory of the active manifest. -/
theorem clearable_of_removal {removed : Bool}
    (hactive : tree.Spot layout.activeManifest left directory name)
    (hremoval : Sync.removal layout.selfMarker (tree.answer (.remove layout.selfMarker)).1 =
      .ok removed) :
    ∃ label, Clearable layout tree left directory label := by
  -- whatever was in the way, the removal took it for a missing file
  have hfound : ∀ fault, tree.remove layout.selfMarker = .error fault →
      fault.isNotFound = true := by
    intro fault hfault
    simp only [answer, hfault, settle, Sync.removal] at hremoval
    split at hremoval
    · assumption
    · cases hremoval
  obtain ⟨before, tip, hsteps, hmarker⟩ := layout.steps_manifests
  obtain rfl := hactive.name_eq hsteps
  rcases hactive.sibling_or hsteps hmarker (layout.start_selfMarker _) with
    hspot | ⟨fault, hfault, hother⟩
  · refine ⟨_, hspot, fun hdirectory => ?_⟩
    have hremove := hspot.remove_eq
    rw [hdirectory] at hremove
    cases hfound _ hremove
  · rw [hfound fault hfault] at hother
    cases hother

namespace Clearable

variable (hclearable : Clearable layout tree left directory label)
include hclearable

theorem name_eq : ∃ tip, label = tip ++ Layout.markerEnd := by
  obtain ⟨before, tip, -, hsteps⟩ := layout.steps_manifests
  exact ⟨tip, hclearable.spot.name_eq hsteps⟩

/-- The marker can be removed, or is missing, and is missing then. -/
theorem cleared :
    (∃ removed, Sync.removal layout.selfMarker (tree.answer (.remove layout.selfMarker)).1 =
        .ok removed) ∧
      (tree.answer (.remove layout.selfMarker)).2.at? (label :: directory) = none := by
  cases hentry : tree.at? (label :: directory) with
  | none =>
      have hremove := hclearable.spot.remove_eq
      rw [hentry] at hremove
      simp only [answer, hremove, settle]
      exact ⟨⟨false, rfl⟩, hentry⟩
  | some entry =>
      have herased := hclearable.spot.remove_eq_ok hentry fun hdirectory =>
        hclearable.noDirectory (hdirectory ▸ hentry)
      simp only [answer, herased, settle]
      exact ⟨⟨true, rfl⟩, at?_erase_self tree label directory⟩

/-- Nothing else in the directory matters. -/
theorem frame (hsame : SameBut (name :: directory) tree other)
    (hdead : tree.DeadEnd IsDirectory directory name) (hne : label ≠ name) :
    Clearable layout other left directory label where
  spot := hclearable.spot.frame hsame hdead
  noDirectory := by
    rw [hsame.at?_eq _ fun heq => hne (List.cons.inj heq).1]
    exact hclearable.noDirectory

end Clearable

end RevisionGuard
