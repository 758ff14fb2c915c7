import RevisionGuard.Proofs.Pointer.Placed
import RevisionGuard.Proofs.Program.Stops
import Mathlib.Tactic.Common

/-!
# Promotions that are stopped

While the pointer is made, the files of a host are in one of three states: as before,
without what was in the place of the pointer, or with the link there
(`Promotion.Underway`).  Whatever request comes next, and whether it succeeds or fails,
they stay in these, so a promotion that is stopped leaves one of them, or all of its
work (`stopped_of_stops`).

In none of the states does it matter for the making of the pointer what has been done
before: where the look at the pointer is answered, the link comes to the same place
(`does_createLastKnownGood`).
-/

namespace RevisionGuard

open Program RevisionGuard.Tree

variable {tree middle linked after : Tree} {left : Nat} {directory : Location}
  {name : EntryName} {healthy : Bool} {layout : Layout} {revision : Revision}
  {call : FileCall}

namespace Promotion

/-! ## While the pointer is made -/

/-- The files of a host while the pointer is made in a place. -/
inductive Underway (layout : Layout) (revision : Revision) (tree : Tree) (place : Location) :
    Tree → Prop where
  | before : Underway layout revision tree place tree
  /-- What was in the place of the pointer has been removed. -/
  | cleared : Underway layout revision tree place (tree.erase place)
  | linked : Underway layout revision tree place
      (tree.set place (.link (layout.revisionedManifest revision)))

namespace Underway

variable (hunderway : Underway layout revision tree (name :: directory) middle)
include hunderway

theorem sameBut : SameBut (name :: directory) tree middle := by
  cases hunderway with
  | before => exact ⟨fun _ _ => rfl, rfl⟩
  | cleared => exact sameBut_erase tree name directory
  | linked => exact sameBut_set tree name directory _

theorem erase_eq : middle.erase (name :: directory) = tree.erase (name :: directory) := by
  cases hunderway with
  | before => rfl
  | cleared => exact erase_erase tree _
  | linked => exact erase_set tree _ _

theorem set_eq (entry : Entry) :
    middle.set (name :: directory) entry = tree.set (name :: directory) entry := by
  rw [← set_erase middle, hunderway.erase_eq, set_erase]

/-- No request by which the pointer is made leads out of the three states. -/
theorem step (hspot : tree.Spot layout.lastKnownGood left directory name)
    (hdead : tree.DeadEnd IsDirectory directory name)
    (hlinks : Links layout revision (.file call)) :
    Underway layout revision tree (name :: directory) (middle.answer call).2 := by
  have hopen := hspot.frame hunderway.sameBut hdead
  obtain ⟨before, tip, hsteps⟩ := layout.steps_lastKnownGood
  cases hlinks with
  | look => exact hunderway
  | clear =>
      simp only [answer]
      cases hremove : middle.remove layout.lastKnownGood with
      | error fault => exact hunderway
      | ok changed =>
          obtain ⟨_, _, _, hother, -, -, rfl⟩ := spot_of_remove hsteps hremove
          obtain ⟨-, rfl, rfl⟩ := hopen.unique hother
          simp only [settle, hunderway.erase_eq]
          exact .cleared
  | link =>
      simp only [answer]
      cases hsymlink : middle.symlink (layout.revisionedManifest revision)
          layout.lastKnownGood with
      | error fault => exact hunderway
      | ok changed =>
          obtain ⟨_, _, -, hother, -, rfl⟩ := spot_of_symlink hsteps hsymlink
          obtain ⟨-, rfl, rfl⟩ := hopen.unique hother
          simp only [settle, hunderway.set_eq]
          exact .linked

end Underway

/-! ## Making the pointer in a place -/

theorem does_clear_of_sees (hspot : tree.Spot layout.lastKnownGood left directory name)
    (hsees : tree.Sees layout.lastKnownGood true) :
    Does healthy tree (clear layout).run (.ok ()) (tree.erase (name :: directory)) := by
  obtain ⟨entry, hentry⟩ := hspot.exists_of_sees hsees
  have hremove := hspot.remove_of_deadEnd (hspot.deadEnd_of_sees hsees) hentry
  refine Sync.does_fileExists_bind_ok_iff.mpr ⟨true, hsees, ?_⟩
  refine Sync.does_file_bind_ok_iff.mpr ⟨(), by simp only [answer, hremove, settle], ?_⟩
  simp only [answer, hremove, settle]
  exact Sync.does_log_iff.mpr ⟨rfl, rfl⟩

section Place

variable (hspot : tree.Spot layout.lastKnownGood left directory name)
  (hcheck : (layout.revisionedManifest revision).check = .ok ())
include hspot hcheck

theorem does_makeLink_of_missing (hmissing : tree.at? (name :: directory) = none) :
    Does healthy tree (makeLink layout revision).run (.ok ())
      (tree.set (name :: directory) (.link (layout.revisionedManifest revision))) :=
  does_makeLink_iff.mpr (hspot.symlink_eq_of_missing hcheck hmissing)

/-- A link that leads nowhere is replaced. -/
theorem does_replaceDangling {entry : Entry} {fault : FileFault}
    (hentry : tree.at? (name :: directory) = some entry)
    (hsees : tree.Sees layout.lastKnownGood false) :
    Does healthy tree (replaceDangling layout revision fault).run (.ok ())
      (tree.set (name :: directory) (.link (layout.revisionedManifest revision))) := by
  have hdead := hspot.deadEnd_of_sees hsees
  have hremove := hspot.remove_of_deadEnd hdead hentry
  have hopen := hspot.frame (sameBut_erase tree name directory) hdead
  refine Sync.does_fileExists_bind_ok_iff.mpr ⟨false, hsees, ?_⟩
  refine Sync.does_file_bind_ok_iff.mpr ⟨(), by simp only [answer, hremove, settle], ?_⟩
  simp only [answer, hremove, settle]
  rw [← set_erase tree]
  exact Sync.does_log_bind_iff.mpr
    (does_makeLink_of_missing hopen hcheck (at?_erase_self tree name directory))

theorem does_place_of_sees (hsees : tree.Sees layout.lastKnownGood false) :
    Does healthy tree (place layout revision).run (.ok ())
      (tree.set (name :: directory) (.link (layout.revisionedManifest revision))) := by
  cases hentry : tree.at? (name :: directory) with
  | none => exact does_place_of_missing hspot hcheck hentry
  | some entry =>
      rw [does_place_iff]
      simp only [linkCall, answer, hspot.symlink_eq_of_taken hcheck hentry]
      exact does_replaceDangling hspot hcheck hentry hsees

/-- Making the pointer strictly comes to the link in its place, if the look at it is
answered. -/
theorem does_createLastKnownGood (hseen : tree.Seen layout.lastKnownGood) :
    Does healthy tree (createLastKnownGood layout revision true).run (.ok ())
      (tree.set (name :: directory) (.link (layout.revisionedManifest revision))) := by
  have hplaced : ∃ between, Does healthy tree (clear layout).run (.ok ()) between ∧
      Does healthy between (place layout revision).run (.ok ())
        (tree.set (name :: directory) (.link (layout.revisionedManifest revision))) := by
    obtain ⟨found, hsees⟩ := hseen
    cases found with
    | false =>
        refine ⟨tree, ?_, does_place_of_sees hspot hcheck hsees⟩
        exact Sync.does_fileExists_bind_ok_iff.mpr
          ⟨false, hsees, Sync.does_pure_iff.mpr ⟨rfl, rfl⟩⟩
    | true =>
        have hopen := hspot.frame (sameBut_erase tree name directory) (hspot.deadEnd_of_sees hsees)
        have hmissing := at?_erase_self tree name directory
        refine ⟨tree.erase (name :: directory), does_clear_of_sees hspot hsees, ?_⟩
        rw [← set_erase tree]
        exact does_place_of_missing hopen hcheck hmissing
  obtain ⟨between, hclear, hplace⟩ := hplaced
  exact Sync.does_bind_ok_iff.mpr ⟨(), between, hclear, Sync.does_bind_ok_iff.mpr
    ⟨(), _, hplace, Sync.does_log_iff.mpr ⟨rfl, rfl⟩⟩⟩

end Place

/-- Making the pointer strictly ends at a look at it that is not answered. -/
theorem does_createLastKnownGood_of_unseen {failure : SyncFault}
    (hlook : Sync.presence layout.lastKnownGood (tree.stat layout.lastKnownGood) =
      .error failure) :
    Does healthy tree (createLastKnownGood layout revision true).run (.error failure) tree := by
  have hclear : Does healthy tree (clear layout).run (.error failure) tree := by
    rw [clear, Sync.does_fileExists_bind_iff]
    simp only [answer, hlook, and_self]
  exact Sync.does_bind_iff.mpr (Or.inl ⟨failure, hclear, rfl⟩)

/-! ## Removing the marker behind the pointer -/

/-- What a promotion says of the removal of the marker. -/
def reportUnmarked (layout : Layout) (removed : Bool) : Sync Unit :=
  if removed then Sync.log .info .fallback (markerRemovedText layout) else pure ()

/-- What a promotion does behind the pointer. -/
def unmark (layout : Layout) : Sync Unit :=
  Sync.removeIfExists layout.selfMarker >>= reportUnmarked layout

theorem promote_eq (layout : Layout) (revision : Revision) :
    promote layout revision = createLastKnownGood layout revision true >>= fun _ =>
      unmark layout := rfl

theorem reportUnmarked_asks (layout : Layout) (removed : Bool) :
    Asks Request.IsLog (reportUnmarked layout removed).run :=
  Sync.asks_ite (Sync.asks_log ⟨_, rfl⟩) (Sync.asks_pure ())

theorem does_reportUnmarked_iff {removed : Bool} {result : Except SyncFault Unit} :
    Does healthy tree (reportUnmarked layout removed).run result after ↔
      result = .ok () ∧ after = tree := by
  cases removed with
  | false => exact Sync.does_pure_iff
  | true => exact Sync.does_log_iff

theorem does_unmark_iff {result : Except SyncFault Unit} :
    Does healthy tree (unmark layout).run result after ↔
      result = (Sync.removal layout.selfMarker
        (tree.answer (.remove layout.selfMarker)).1).map (fun _ => ()) ∧
      after = (tree.answer (.remove layout.selfMarker)).2 := by
  rw [unmark, Sync.removeIfExists_eq_answered, Sync.does_answered_bind_iff]
  cases Sync.removal layout.selfMarker (tree.answer (.remove layout.selfMarker)).1 with
  | ok removed => exact does_reportUnmarked_iff
  | error failure => exact Iff.rfl

/-- A removal that fails leaves the files. -/
theorem eq_of_removal_error {path : Path} {failure : SyncFault}
    (hremoval : Sync.removal path (tree.answer (.remove path)).1 = .error failure) :
    (tree.answer (.remove path)).2 = tree := by
  cases hanswer : (tree.answer (.remove path)).1 with
  | ok value =>
      rw [hanswer] at hremoval
      cases hremoval
  | error fault => exact answer_error hanswer

theorem unmarking_of_runs {front back : List Exchange} {result : Except SyncFault Unit}
    (hruns : Runs (unmark layout).run (front ++ back) result)
    (hfront : Hosts healthy tree front middle) :
    middle = tree ∨ middle = (tree.answer (.remove layout.selfMarker)).2 := by
  rw [unmark, Sync.removeIfExists_eq_answered] at hruns
  obtain ⟨answer, rest, htrace, hrest⟩ := Sync.runs_answered_bind_iff.mp hruns
  cases front with
  | nil => exact Or.inl hfront
  | cons exchange front =>
      obtain ⟨rfl, rfl⟩ := List.cons.inj htrace
      obtain ⟨rfl, hothers⟩ := hosts_file_iff.mp hfront
      refine Or.inr (hothers.eq_of_isLog fun exchange hmem => ?_)
      cases hremoval : Sync.removal layout.selfMarker
          (tree.answer (.remove layout.selfMarker)).1 with
      | ok removed =>
          rw [hremoval] at hrest
          exact (reportUnmarked_asks layout removed).request_of_mem hrest exchange
            (List.mem_append_left _ hmem)
      | error failure =>
          rw [hremoval] at hrest
          obtain ⟨rfl, -⟩ := List.append_eq_nil_iff.mp hrest.1
          cases hmem

theorem eq_of_breaks_unmark {fault : FileFault} {failure : SyncFault}
    (hbreaks : Breaks healthy tree (unmark layout).run call fault (.error failure) middle) :
    middle = tree := by
  rw [unmark, Sync.removeIfExists_eq_answered] at hbreaks
  rcases Sync.breaks_bind_iff.mp hbreaks with
    ⟨_, hremove, -⟩ | ⟨removed, between, -, hreport⟩ | ⟨removed, between, -, hreport⟩
  · exact (Sync.breaks_answered_iff.mp hremove).2.2
  · cases (does_reportUnmarked_iff.mp hreport).1
  · obtain ⟨_, hlog⟩ := allowed_of_breaks (reportUnmarked_asks layout removed) hreport
    cases hlog

/-! ## Where a promotion is stopped -/

theorem promote_isSettled : Asks Request.IsSettled (promote layout revision).run := by
  refine promote_asks.mono fun request hrequest => ?_
  rcases hrequest with hlinks | rfl
  · exact hlinks.isSettled
  · trivial

/-- The link is made in one place only. -/
theorem Placed.linked_eq {others : Nat} {elsewhere : Location} {label : EntryName}
    (hplaced : Placed layout revision tree linked left directory name)
    (hother : Placed layout revision tree after others elsewhere label) : after = linked := by
  obtain ⟨-, rfl, rfl⟩ := hplaced.spot.unique hother.spot
  rw [hother.after_eq, hplaced.after_eq]

section Stopped

variable (hplaced : Placed layout revision tree linked left directory name)
include hplaced

theorem linked_of_does
    (hcreate : Does healthy tree (createLastKnownGood layout revision true).run (.ok ()) middle) :
    middle = linked := by
  obtain ⟨_, _, _, hother, -⟩ := created_of_does hcreate
  exact hplaced.linked_eq hother

theorem underway_linked : Underway layout revision tree (name :: directory) linked := by
  rw [hplaced.after_eq]
  exact .linked

variable (hdead : tree.DeadEnd IsDirectory directory name)
include hdead

theorem underway_of_links {trace : List Exchange}
    (hlinks : ∀ exchange ∈ trace, Links layout revision exchange.request)
    (hhosts : Hosts healthy tree trace middle) :
    Underway layout revision tree (name :: directory) middle :=
  hhosts.kept _ (fun hcall hunderway => hunderway.step hplaced.spot hdead hcall) hlinks .before

theorem underway_of_breaks {fault : FileFault} {result : Except SyncFault Unit}
    (hbreaks : Breaks healthy tree (createLastKnownGood layout revision true).run call fault
      result middle) : Underway layout revision tree (name :: directory) middle :=
  hbreaks.kept _ (fun hcall hunderway => hunderway.step hplaced.spot hdead hcall)
    (createLastKnownGood_asks true) .before

/-- A promotion that is stopped leaves the files as they are while the pointer is made, or
as they are when all is done. -/
theorem stopped_of_stops (hstops : Stops healthy tree (promote layout revision).run middle) :
    Underway layout revision tree (name :: directory) middle ∨
      middle = (linked.answer (.remove layout.selfMarker)).2 := by
  rw [promote_eq] at hstops
  cases hstops with
  | @behind front back _ hruns hfront =>
      -- in front of the end of the first part the files are underway
      have hearly : ∀ {first : List Exchange} {made : Except SyncFault Unit},
          Runs (createLastKnownGood layout revision true).run first made → front ⊆ first →
          Underway layout revision tree (name :: directory) middle := by
        intro first made hcreate hsubset
        have hlinks := (createLastKnownGood_asks true).request_of_mem hcreate
        exact underway_of_links hplaced hdead
          (fun exchange hmem => hlinks exchange (hsubset hmem)) hfront
      rcases Sync.runs_bind_iff.mp hruns with
        ⟨fault, hcreate, -⟩ | ⟨_, first, second, htrace, hcreate, hrest⟩
      · exact Or.inl (hearly hcreate (List.subset_append_left _ _))
      rcases List.append_eq_append_iff.mp htrace with ⟨others, rfl, -⟩ | ⟨others, rfl, rfl⟩
      · exact Or.inl (hearly hcreate (List.subset_append_left _ _))
      · obtain ⟨between, hfirst, hothers⟩ := hosts_append_iff.mp hfront
        obtain rfl := linked_of_does hplaced ⟨first, hcreate, hfirst⟩
        rcases unmarking_of_runs hrest hothers with rfl | rfl
        · exact Or.inl (underway_linked hplaced)
        · exact Or.inr rfl
  | failing hbreaks =>
      refine Or.inl ?_
      rcases Sync.breaks_bind_iff.mp hbreaks with
        ⟨_, hcreate, -⟩ | ⟨_, between, hcreate, hunmark⟩ | ⟨_, between, hcreate, hunmark⟩
      · exact underway_of_breaks hplaced hdead hcreate
      · obtain ⟨hfailed, rfl⟩ := does_unmark_iff.mp hunmark
        cases hremoval : Sync.removal layout.selfMarker
            (between.answer (.remove layout.selfMarker)).1 with
        | ok removed =>
            rw [hremoval] at hfailed
            cases hfailed
        | error failure =>
            rw [eq_of_removal_error hremoval]
            exact underway_of_breaks hplaced hdead hcreate
      · obtain rfl := linked_of_does hplaced hcreate
        rw [eq_of_breaks_unmark hunmark]
        exact underway_linked hplaced

end Stopped

end Promotion

end RevisionGuard
