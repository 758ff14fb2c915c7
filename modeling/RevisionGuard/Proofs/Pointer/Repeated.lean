import RevisionGuard.Proofs.Layout.Places
import RevisionGuard.Proofs.Pointer.Reading
import RevisionGuard.Proofs.Pointer.Underway
import Mathlib.Tactic.Common

/-!
# Promoting again after an interruption

From wherever a promotion was stopped, the pointer is made in the same place, and then
the marker is removed or already missing.  So a promotion that is made again comes to the
files of the undisturbed one, and one that is made twice changes nothing the second time.
It needs no more than an answer to its look at the pointer (`Promotion.promote_again`).
-/

namespace RevisionGuard

open Program RevisionGuard.Tree

variable {tree middle linked after : Tree} {left : Nat} {directory : Location}
  {name : EntryName} {healthy : Bool} {layout : Layout} {revision : Revision}

namespace Promotion

theorem does_promote {removed : Bool}
    (hcreate : Does healthy tree (createLastKnownGood layout revision true).run (.ok ()) linked)
    (hremoval : Sync.removal layout.selfMarker (linked.answer (.remove layout.selfMarker)).1 =
      .ok removed) :
    Does healthy tree (promote layout revision).run (.ok ())
      (linked.answer (.remove layout.selfMarker)).2 :=
  Sync.does_bind_ok_iff.mpr
    ⟨(), linked, hcreate, does_unmark_iff.mpr ⟨by rw [hremoval]; rfl, rfl⟩⟩

/-- A promotion fails at the look at the pointer, and leaves the files. -/
theorem does_promote_of_unseen (healthy : Bool) (revision : Revision)
    (hunseen : ¬ tree.Seen layout.lastKnownGood) :
    ∃ failure, Does healthy tree (promote layout revision).run (.error failure) tree := by
  cases hlook : Sync.presence layout.lastKnownGood (tree.answer (.stat layout.lastKnownGood)).1 with
  | ok found => exact absurd ⟨found, hlook⟩ hunseen
  | error failure =>
      refine ⟨failure, Sync.does_bind_iff.mpr (Or.inl ⟨failure, ?_, rfl⟩)⟩
      exact does_createLastKnownGood_of_unseen hlook

namespace Placed

variable (hplaced : Placed layout revision tree linked left directory name)
include hplaced

theorem sameBesides : SameBesides (layout.promotionPlaces tree) tree linked := by
  rw [hplaced.after_eq]
  refine (sameBut_set tree name directory _).sameBesides ?_
  exact Layout.mem_promotionPlaces Layout.lastKnownGood_mem_promoting hplaced.spot

/-- From wherever the making of the pointer was stopped, a promotion comes to the same. -/
theorem again_of_underway {removed : Bool} (hdead : tree.DeadEnd IsDirectory directory name)
    (hremoval : Sync.removal layout.selfMarker (linked.answer (.remove layout.selfMarker)).1 =
      .ok removed)
    (hunderway : Underway layout revision tree (name :: directory) middle)
    (hseen : middle.Seen layout.lastKnownGood) :
    Does healthy middle (promote layout revision).run (.ok ())
      (linked.answer (.remove layout.selfMarker)).2 := by
  have hopen := hplaced.spot.frame hunderway.sameBut hdead
  have hlinked : middle.set (name :: directory) (.link (layout.revisionedManifest revision)) =
      linked := (hunderway.set_eq _).trans hplaced.after_eq.symm
  refine does_promote ?_ hremoval
  rw [← hlinked]
  exact does_createLastKnownGood hopen hplaced.check hseen

section Unmarked

variable (hclear : layout.StandsClear tree) (hunmarked : Unmarked layout linked after)
include hclear hunmarked

theorem sameBesides_of_unmarked : SameBesides (layout.promotionPlaces tree) tree after := by
  refine hplaced.sameBesides.trans (hunmarked.sameBesides.mono fun location hmem => ?_)
  obtain ⟨path, hpath, hplace⟩ := List.mem_filterMap.mp hmem
  obtain rfl := List.mem_singleton.mp hpath
  have hsame := hclear _ Layout.selfMarker_mem_promoting linked hplaced.sameBesides
  exact List.mem_filterMap.mpr
    ⟨_, Layout.selfMarker_mem_promoting, hsame.symm.trans hplace⟩

/-- The paths that a promotion changes name the same places when it is done. -/
theorem place?_eq_of_unmarked {path : Path} (hpath : path ∈ layout.promoting) :
    after.place? path = tree.place? path :=
  hclear path hpath after (hplaced.sameBesides_of_unmarked hclear hunmarked)

theorem spot_of_unmarked : ∃ others, after.Spot layout.lastKnownGood others directory name := by
  obtain ⟨before, tip, hsteps⟩ := layout.steps_lastKnownGood
  have hplace := (hplaced.place?_eq_of_unmarked hclear hunmarked
    Layout.lastKnownGood_mem_promoting).trans hplaced.spot.place?_eq
  obtain ⟨others, elsewhere, heq, hspot⟩ := spot_of_place? hsteps hplace
  obtain ⟨rfl, rfl⟩ := List.cons.inj heq
  exact ⟨others, hspot⟩

theorem held?_of_unmarked :
    after.held? layout.lastKnownGood = some (.link (layout.revisionedManifest revision)) := by
  obtain ⟨others, hspot⟩ := hplaced.spot_of_unmarked hclear hunmarked
  rw [held?_eq_of_place? hspot.place?_eq, hunmarked.at?_eq hspot.pointer_ne_markerEnd,
    hplaced.at?_pointer]

theorem marker_of_unmarked : after.place? layout.selfMarker = linked.place? layout.selfMarker :=
  (hplaced.place?_eq_of_unmarked hclear hunmarked Layout.selfMarker_mem_promoting).trans
    (hclear _ Layout.selfMarker_mem_promoting linked hplaced.sameBesides).symm

end Unmarked

/-- Without the marker a promotion changes nothing more. -/
theorem again_of_erased {others : Nat} {elsewhere : Location} {label : EntryName} {entry : Entry}
    (hclear : layout.StandsClear tree)
    (hmarker : linked.Spot layout.selfMarker others elsewhere label)
    (hentry : linked.at? (label :: elsewhere) = some entry) (hdirectory : entry ≠ .directory)
    (hafter : after = linked.erase (label :: elsewhere)) (hseen : after.Seen layout.lastKnownGood) :
    Does healthy after (promote layout revision).run (.ok ()) after := by
  have hunmarked : Unmarked layout linked after :=
    Or.inr ⟨others, elsewhere, label, entry, hmarker, hentry, hdirectory, hafter⟩
  obtain ⟨_, hspot⟩ := hplaced.spot_of_unmarked hclear hunmarked
  -- the link is made in its place again
  have hlinked : after.set (name :: directory) (.link (layout.revisionedManifest revision)) =
      after := by
    rw [hafter, hplaced.after_eq]
    exact set_erase_set tree _ (Layout.pointer_ne_marker hspot hmarker)
  have hcreate : Does healthy after (createLastKnownGood layout revision true).run (.ok ())
      (after.set (name :: directory) (.link (layout.revisionedManifest revision))) :=
    does_createLastKnownGood hspot hplaced.check hseen
  rw [hlinked] at hcreate
  -- and the marker is missing, which is no failure
  obtain ⟨before, tip, -, hsteps⟩ := layout.steps_manifests
  obtain ⟨_, _, hsame, hgone⟩ := spot_of_place? hsteps
    ((hplaced.marker_of_unmarked hclear hunmarked).trans hmarker.place?_eq)
  have hmissing := at?_erase_self linked label elsewhere
  rw [← hafter, hsame] at hmissing
  have hremove := hgone.answer_remove_of_missing hmissing
  have hnone : Sync.removal layout.selfMarker (after.answer (.remove layout.selfMarker)).1 =
      .ok false := by
    rw [hremove]
    rfl
  have hagain := does_promote hcreate hnone
  rwa [hremove] at hagain

/-- A promotion that is done is made again, and changes nothing. -/
theorem again_of_done {removed : Bool} (hdead : tree.DeadEnd IsDirectory directory name)
    (hremoval : Sync.removal layout.selfMarker (linked.answer (.remove layout.selfMarker)).1 =
      .ok removed)
    (hclear : layout.StandsClear tree)
    (hseen : (linked.answer (.remove layout.selfMarker)).2.Seen layout.lastKnownGood) :
    Does healthy (linked.answer (.remove layout.selfMarker)).2 (promote layout revision).run
      (.ok ()) (linked.answer (.remove layout.selfMarker)).2 := by
  rcases unmarked_answer layout linked with
    hsame | ⟨others, elsewhere, label, entry, hmarker, hentry, hdirectory, hafter⟩
  -- there was no marker, so the files are those behind the link
  · have hagain : Does healthy linked (promote layout revision).run (.ok ())
        (linked.answer (.remove layout.selfMarker)).2 :=
      hplaced.again_of_underway hdead hremoval (underway_linked hplaced) (hsame ▸ hseen)
    rw [hsame] at hagain ⊢
    exact hagain
  · exact hplaced.again_of_erased hclear hmarker hentry hdirectory hafter hseen

/-- The marker makes no difference to the look at the pointer, if the look does not depend
on it when it is gone. -/
theorem seen_of_regardless (hclear : layout.StandsClear tree)
    (hregardless : (linked.answer (.remove layout.selfMarker)).2.Regardless
      ([layout.selfMarker].filterMap (linked.answer (.remove layout.selfMarker)).2.place?)
      fun other => other.stat layout.lastKnownGood)
    (hseen : (linked.answer (.remove layout.selfMarker)).2.Seen layout.lastKnownGood) :
    linked.Seen layout.lastKnownGood := by
  have hunmarked := unmarked_answer layout linked
  have hsame := hunmarked.sameBesides.symm
  simp only [List.filterMap_cons, hplaced.marker_of_unmarked hclear hunmarked] at hregardless
  obtain ⟨found, hsees⟩ := hseen
  refine ⟨found, ?_⟩
  have hstat := hregardless linked hsame
  simpa only [Sees, answer, hstat] using hsees

end Placed

/-- A promotion that succeeds has had an answer to its look at the pointer. -/
theorem seen_of_does (hdoes : Does healthy tree (promote layout revision).run (.ok ()) after) :
    tree.Seen layout.lastKnownGood := by
  by_contra hunseen
  obtain ⟨failure, hfails⟩ := does_promote_of_unseen healthy revision hunseen
  cases (does_unique promote_isSettled hdoes hfails).1

/-- Before the link is made the look at the pointer is answered. -/
theorem Underway.linked_or_seen
    (hplaced : Placed layout revision tree linked left directory name)
    (hdead : tree.DeadEnd IsDirectory directory name) (hseen : tree.Seen layout.lastKnownGood)
    (hunderway : Underway layout revision tree (name :: directory) middle) :
    middle = linked ∨ middle.Seen layout.lastKnownGood := by
  cases hunderway with
  | before => exact Or.inr hseen
  | cleared =>
      have hopen := hplaced.spot.frame (sameBut_erase tree name directory) hdead
      have hstat := hopen.stat_eq_of_missing (at?_erase_self tree name directory)
      exact Or.inr ⟨false, sees_iff.mpr ⟨_, hstat, rfl⟩⟩
  | linked => exact Or.inl hplaced.after_eq.symm

/-- A promotion that was stopped anywhere, by a failure or from outside, and is made again
comes to the files of the undisturbed one, with the link in place of the pointer and
without the marker, provided that the look at the pointer is answered; otherwise it fails
at the look and leaves the files.  Before the link is made the look is answered.  Behind
the link it is, if it is in the end and the marker has no part in the answer. -/
theorem promote_again (hclear : layout.StandsClear tree)
    (hdoes : Does healthy tree (promote layout revision).run (.ok ()) after)
    (hstops : Stops healthy tree (promote layout revision).run middle) :
    (after.held? layout.lastKnownGood = some (.link (layout.revisionedManifest revision)) ∧
        after.held? layout.selfMarker = none) ∧
      (middle.Seen layout.lastKnownGood →
        ∀ result final, Does healthy middle (promote layout revision).run result final ↔
          result = .ok () ∧ final = after) ∧
      (¬ middle.Seen layout.lastKnownGood →
        ∃ failure, ∀ result final,
          Does healthy middle (promote layout revision).run result final ↔
            result = .error failure ∧ final = middle) ∧
      (middle = tree ∨
          middle.held? layout.lastKnownGood ≠ some (.link (layout.revisionedManifest revision)) →
        middle.Seen layout.lastKnownGood) ∧
      (after.Regardless ([layout.selfMarker].filterMap after.place?)
          (fun other => other.stat layout.lastKnownGood) →
        after.Seen layout.lastKnownGood → middle.Seen layout.lastKnownGood) := by
  obtain ⟨left, directory, name, linked, hplaced, hdead, ⟨removed, hremoval⟩, rfl⟩ :=
    promoted_of_does hdoes
  have hunmarked := unmarked_answer layout linked
  have hstopped := stopped_of_stops hplaced hdead hstops
  have hstart := seen_of_does hdoes
  have hheld := hplaced.held?_of_unmarked hclear hunmarked
  refine ⟨⟨hheld, held?_selfMarker_of_removal hremoval⟩, fun hseen => ?_, fun hunseen => ?_, ?_,
    fun hregardless hseen => ?_⟩
  · refine does_iff_of_does promote_isSettled ?_
    rcases hstopped with hunderway | rfl
    · exact hplaced.again_of_underway hdead hremoval hunderway hseen
    · exact hplaced.again_of_done hdead hremoval hclear hseen
  · obtain ⟨failure, hfails⟩ := does_promote_of_unseen healthy revision hunseen
    exact ⟨failure, does_iff_of_does promote_isSettled hfails⟩
  · rintro (rfl | hother)
    · exact hstart
    rcases hstopped with hunderway | rfl
    · refine (hunderway.linked_or_seen hplaced hdead hstart).resolve_left ?_
      rintro rfl
      exact hother (hplaced.held?_of_unmarked hclear (Or.inl rfl))
    · exact absurd hheld hother
  · rcases hstopped with hunderway | rfl
    · rcases hunderway.linked_or_seen hplaced hdead hstart with rfl | hearly
      · exact hplaced.seen_of_regardless hclear hregardless hseen
      · exact hearly
    · exact hseen

end Promotion

namespace Rehearsed

/-- A host with a pointer to revision 7 and a marker, which promotes revision 8. -/
def marked : Tree :=
  ⟨[(["manifests".toList], .directory),
    (["kube-startup-monitor.yaml".toList, "manifests".toList], .file [] 0o644),
    (["resources".toList], .directory),
    (["kube-last-known-good".toList, "resources".toList],
      .link ⟨"/resources/kube-pod-7/kube-pod.yaml"⟩),
    (["kube-pod-7".toList, "resources".toList], .directory),
    (["kube-pod.yaml".toList, "kube-pod-7".toList, "resources".toList],
      .file archived 0o644)], []⟩

/-- A host on which the manifest of revision 8 is a link to the marker, and the marker a
link to a directory. -/
def tampered : Tree :=
  ⟨[(["manifests".toList], .directory),
    (["kube-startup-monitor.yaml".toList, "manifests".toList], .link ⟨"/manifests"⟩),
    (["resources".toList], .directory),
    (["kube-pod-8".toList, "resources".toList], .directory),
    (["kube-pod.yaml".toList, "kube-pod-8".toList, "resources".toList],
      .link ⟨"/manifests/kube-startup-monitor.yaml"⟩)], []⟩

/-- The promotion of revision 8. -/
def promotion : Program (Except SyncFault Unit) := (Promotion.promote absoluteLayout 8).run

theorem does_promotion (tree : Tree) (hok : (promotion.run (host false "") tree).1 = .ok ()) :
    Does false tree promotion (.ok ()) (promotion.run (host false "") tree).2 := by
  rw [← hok]
  exact does_run false "" tree promotion

end Rehearsed

/-- A promotion that is stopped when the old pointer is gone is made again. -/
theorem Promotion.promote_again_rehearsed :
    ∃ middle after, Does false Rehearsed.marked Rehearsed.promotion (.ok ()) after ∧
      Stops false Rehearsed.marked Rehearsed.promotion middle ∧
      middle.held? Rehearsed.absoluteLayout.lastKnownGood = none ∧
      Does false middle Rehearsed.promotion (.ok ()) after := by
  have hclear : Rehearsed.absoluteLayout.StandsClear Rehearsed.marked :=
    Layout.standsClear_of_without (by decide +kernel)
  have hdoes := Rehearsed.does_promotion Rehearsed.marked (by decide +kernel)
  have hstops := stops_runUntil false "" 2 Rehearsed.promotion Rehearsed.marked
  have hheld : (runUntil false "" 2 Rehearsed.promotion Rehearsed.marked).held?
      Rehearsed.absoluteLayout.lastKnownGood = none := by decide +kernel
  obtain ⟨-, hagain, -, hseen, -⟩ := promote_again hclear hdoes hstops
  exact ⟨_, _, hdoes, hstops, hheld,
    (hagain (hseen (Or.inr (by simp [hheld]))) _ _).mpr ⟨rfl, rfl⟩⟩

/-- On a host that was tampered with, a promotion succeeds, and leaves a pointer that leads
nowhere; but when it is stopped with the link in its place, it fails when it is made
again. -/
theorem Promotion.not_promote_again_rehearsed :
    Rehearsed.absoluteLayout.StandsClear Rehearsed.tampered ∧
      ∃ after, Does false Rehearsed.tampered Rehearsed.promotion (.ok ()) after ∧
        after.Sees Rehearsed.absoluteLayout.lastKnownGood false ∧
        ∀ result final,
          Does false (runUntil false "" 2 Rehearsed.promotion Rehearsed.tampered)
            Rehearsed.promotion result final → result ≠ .ok () := by
  refine ⟨Layout.standsClear_of_without (by decide +kernel), _,
    Rehearsed.does_promotion Rehearsed.tampered (by decide +kernel), by decide +kernel, ?_⟩
  rintro _ final hagain rfl
  -- by way of the link and the marker the look finds a directory
  have hlook : (runUntil false "" 2 Rehearsed.promotion Rehearsed.tampered).stat
      Rehearsed.absoluteLayout.lastKnownGood = .ok true := by decide +kernel
  obtain ⟨found, hsees⟩ := seen_of_does hagain
  rw [sees_iff, hlook] at hsees
  cases found <;> simp at hsees

end RevisionGuard
