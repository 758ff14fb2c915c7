import RevisionGuard.Proofs.Fallback.Replacement
import RevisionGuard.Proofs.Layout.Places
import RevisionGuard.Proofs.Monitor.Health
import RevisionGuard.Proofs.Monitor.Retry
import RevisionGuard.Proofs.Pointer.Reading
import Mathlib.Tactic.Common

/-!
# The outcome of a sync tells what it changed

Most outcomes of a sync say that the files are as before.  After a promotion the
pointer leads to the watched revision and the marker is gone.  After a fallback a fresh
file is in the place of the active manifest, whatever was there, and a pointer that led
nowhere leads to the previous revision (`Monitor.Changes`).  Every other entry is as
before: the operations of a sync change files at three places only, and none of them
follows a link at its end but the write, which finds nothing there.
-/

namespace RevisionGuard

open Program RevisionGuard.Tree Fallback

variable {tree ready after : Tree} {healthy : Bool} {layout : Layout} {failed : Revision}
  {trace : List Exchange} {contents seen : Bytes}

/-- A trace that changes nothing leaves the files of a host. -/
theorem Tree.hosts_of_readsOnly (hreads : ReadsOnly trace)
    (hhosts : Hosts healthy tree trace after) :
    after = tree := by
  induction trace with
  | nil => exact hhosts
  | cons exchange trace ih =>
      obtain ⟨request, answer⟩ := exchange
      cases request with
      | file call =>
          obtain ⟨hcall, hrest⟩ := readsOnly_file_iff.mp hreads
          have hkept : (tree.answer call).2 = tree := by
            cases call with
            | stat path => rfl
            | read path => rfl
            | list path => rfl
            | _ => cases hcall
          obtain ⟨-, hbehind⟩ := hhosts
          rw [hkept] at hbehind
          exact ih hrest hbehind
      | probe => exact ih hreads hhosts.2
      | watch readyFile interval => exact ih hreads hhosts
      | freshUid => exact ih hreads hhosts
      | clock => exact ih hreads hhosts
      | pause span => exact ih hreads hhosts
      | log entry => exact ih hreads hhosts

namespace Fallback

/-- A fallback that finds no candidate leaves the files. -/
theorem kept_of_noCandidate
    (hdoes : Does healthy tree (run layout failed).run (.ok .noCandidate) after) :
    after = tree := by
  obtain ⟨trace, hruns, hhosts⟩ := hdoes
  exact hosts_of_readsOnly (ensuring_of_noCandidate hruns).of_false.1 hhosts

/-- What making sure of the pointer does to its place. -/
theorem Ensured.pointer (hensured : Ensured healthy layout tree ready)
    (hread : ready.read layout.lastKnownGood = .ok contents) :
    ∃ left directory name, tree.Spot layout.lastKnownGood left directory name ∧
      SameBut (name :: directory) tree ready ∧
      ((tree.Sees layout.lastKnownGood true ∧
          ready.at? (name :: directory) = tree.at? (name :: directory)) ∨
        (tree.Sees layout.lastKnownGood false ∧ ∃ previous,
          Does healthy tree (Archive.previousRevision layout).run (.ok (some previous)) tree ∧
          ready.at? (name :: directory) = some (.link (layout.revisionedManifest previous)))) := by
  cases hensured with
  | present hpointer =>
      obtain ⟨before, tip, hsteps⟩ := layout.steps_lastKnownGood
      obtain ⟨hcheck, links, ending, bits, hleads, -⟩ := read_eq_ok_iff.mp hread
      obtain ⟨left, directory, hspot, -⟩ := spot_of_leads hcheck hsteps hleads
      exact ⟨left, directory, _, hspot, ⟨fun _ _ => rfl, rfl⟩, Or.inl ⟨hpointer, rfl⟩⟩
  | @adopted _ previous hpointer hprevious hmanifest hplace =>
      obtain ⟨left, directory, name, hplaced, -⟩ := Promotion.placed_of_does hplace
      rw [hplaced.after_eq]
      exact ⟨left, directory, name, hplaced.spot, sameBut_set tree name directory _,
        Or.inr ⟨hpointer, previous, hprevious, at?_set_self tree name directory _⟩⟩

end Fallback

namespace Monitor

variable {monitor later : Monitor} {now : Instant} {outcome : TickOutcome}

/-- What a fallback has made of the pointer: one that leads somewhere is as before, and
in place of one that leads nowhere there is a link to the previous revision. -/
def PointerEnsured (layout : Layout) (tree after : Tree) : Prop :=
  (tree.Sees layout.lastKnownGood true ∧
      after.held? layout.lastKnownGood = tree.held? layout.lastKnownGood) ∨
    (tree.Sees layout.lastKnownGood false ∧ ∃ previous,
      Does false tree (Archive.previousRevision layout).run (.ok (some previous)) tree ∧
      after.held? layout.lastKnownGood = some (.link (layout.revisionedManifest previous)))

/-- What a sync with an outcome has changed. -/
def Changes (monitor : Monitor) (tree after : Tree) : TickOutcome → Prop
  | .waiting | .revisionMismatch _ _ | .noFallbackCandidate | .finished => after = tree
  | .retired =>
    let layout := monitor.layout
    SameBesides ([layout.lastKnownGood, layout.selfMarker].filterMap tree.place?) tree after ∧
      after.held? layout.lastKnownGood =
        some (.link (layout.revisionedManifest monitor.revision)) ∧
      after.held? layout.selfMarker = none ∧
      after.held? layout.activeManifest = tree.held? layout.activeManifest
  | .fellBack =>
    let layout := monitor.layout
    after.held? layout.selfMarker = none ∧
      match monitor.phase with
      | .watching =>
        SameBesides (layout.places tree) tree after ∧ PointerEnsured layout tree after ∧
          ∃ text, IsReplacement layout monitor.revision tree text ∧
            after.held? layout.activeManifest = some (.file (Utf8.ofText text) 0o644)
      | .fellBack _ => SameBesides ([layout.selfMarker].filterMap tree.place?) tree after

/-! ## Promoting -/

theorem promoted_of_does_retire
    (hdoes : Does healthy tree monitor.retire (.ok outcome, later) after) :
    outcome = .retired ∧
      Does healthy tree (Promotion.promote monitor.layout monitor.revision).run (.ok ()) after := by
  obtain ⟨_, _, hlog, hbehind⟩ := Tree.does_bind_iff.mp hdoes
  obtain ⟨-, rfl⟩ := Tree.does_done_iff.mp (Tree.does_log_iff.mp hlog)
  obtain ⟨result, between, hpromote, hrest⟩ := Tree.does_bind_iff.mp hbehind
  cases result with
  | error failure => cases (Tree.does_pure_iff.mp hrest).1
  | ok value =>
      obtain ⟨hticked, rfl⟩ := Tree.does_pure_iff.mp hrest
      cases hticked
      exact ⟨rfl, hpromote⟩

theorem changes_of_promoted (huntangled : monitor.layout.Untangled tree)
    (hread : tree.read monitor.layout.activeManifest = .ok seen)
    (hdoes : Does healthy tree (Promotion.promote monitor.layout monitor.revision).run (.ok ())
      after) : monitor.Changes tree after .retired := by
  obtain ⟨_, directory, _, hactive⟩ := replaceable_of_read hread
  obtain ⟨_, place, name, linked, hplaced, hdead, ⟨removed, hremoval⟩, rfl⟩ :=
    Promotion.promoted_of_does hdoes
  have hlinked : SameBut (name :: place) tree linked := by
    rw [hplaced.after_eq]
    exact sameBut_set tree name place _
  obtain ⟨label, hclearable⟩ := clearable_of_removal (hactive.spot.frame hlinked hdead) hremoval
  have hcleared := (unmarked_answer monitor.layout linked).sameBut hclearable.spot
  have hmarker := hactive.spot.marker hclearable.spot
  have hsame : SameBesides ([monitor.layout.lastKnownGood, monitor.layout.selfMarker].filterMap
      tree.place?) tree (linked.answer (.remove monitor.layout.selfMarker)).2 := by
    refine (hlinked.sameBesides ?_).trans (hcleared.sameBesides ?_)
    · exact List.mem_filterMap.mpr ⟨_, by simp, hplaced.spot.place?_eq⟩
    · exact List.mem_filterMap.mpr ⟨_, by simp, hmarker.place?_eq⟩
  have hall : SameBesides (monitor.layout.places tree) tree
      (linked.answer (.remove monitor.layout.selfMarker)).2 :=
    hsame.mono (List.filterMap_subset _ (by simp [Layout.changing]))
  refine ⟨hsame, ?_, held?_selfMarker_of_removal hremoval, ?_⟩
  · rw [huntangled.held?_eq hall (by simp [Layout.changing]) hplaced.spot,
      hcleared.at?_eq _ (Layout.pointer_ne_marker hplaced.spot hclearable.spot), hplaced.after_eq,
      at?_set_self]
  · rw [huntangled.held?_eq hall (by simp [Layout.changing]) hactive.spot,
      hcleared.at?_eq _ (Layout.active_ne_marker hactive.spot hclearable.spot),
      hlinked.at?_eq _ (Layout.pointer_ne_active hplaced.spot hactive.spot).symm,
      held?_eq_of_place? hactive.spot.place?_eq]

/-! ## Falling back -/

theorem changes_of_cleared (hphase : monitor.phase = .fellBack false)
    (hdoes : Does healthy tree monitor.removeMarker (.ok outcome, later) after) :
    monitor.Changes tree after outcome := by
  obtain ⟨hticked, rfl⟩ := does_removeMarker_iff.mp hdoes
  cases hremoval : Sync.removal monitor.layout.selfMarker
      (tree.answer (.remove monitor.layout.selfMarker)).1 with
  | error failure =>
      rw [hremoval] at hticked
      cases hticked
  | ok removed =>
      rw [hremoval] at hticked
      cases hticked
      refine ⟨held?_selfMarker_of_removal hremoval, ?_⟩
      rw [hphase]
      exact (unmarked_answer monitor.layout tree).sameBesides

theorem changes_of_restored (huntangled : monitor.layout.Untangled tree)
    (hphase : monitor.phase = .watching)
    (hdoes : Does false tree (monitor.tickAt now) (.ok .fellBack, later) after) :
    monitor.Changes tree after .fellBack := by
  obtain ⟨ready, candidate, _, directory, name, label, hdue⟩ := due_of_fellBack hphase hdoes
  have hcompleted := hdue.completed_of_does hdoes
  obtain ⟨text, hreplacement, hrestored⟩ := hdue.restored_of_completed hcompleted
  obtain ⟨seen, -, hrestorable⟩ := hdue.restorable
  obtain ⟨contents, hread, -⟩ := hrestorable.pointed
  obtain ⟨-, published, hrepublished, rfl⟩ := hcompleted
  -- the three places, as the tree has them before
  have hactive := (hrestorable.ensured.spot_iff hread).mp hdue.replaceable.spot
  have hmarker := (hrestorable.ensured.spot_iff hread).mp hdue.clearable.spot
  obtain ⟨_, place, tip, hpointer, hready, hpointed⟩ := hrestorable.ensured.pointer hread
  have hpublished := hrepublished.sameBut
  have hclearable := (hrepublished.clearable_iff hdue.replaceable).mpr hdue.clearable
  have hcleared := (unmarked_answer monitor.layout published).sameBut hclearable.spot
  have hsame : SameBesides (monitor.layout.places tree) tree
      (published.answer (.remove monitor.layout.selfMarker)).2 := by
    refine ((hready.sameBesides ?_).trans (hpublished.sameBesides ?_)).trans
      (hcleared.sameBesides ?_)
    · exact Layout.mem_places (by simp [Layout.changing]) hpointer
    · exact Layout.mem_places (by simp [Layout.changing]) hactive
    · exact Layout.mem_places (by simp [Layout.changing]) hmarker
  have hheld : (published.answer (.remove monitor.layout.selfMarker)).2.held?
      monitor.layout.lastKnownGood = ready.at? (tip :: place) := by
    rw [huntangled.held?_eq hsame (by simp [Layout.changing]) hpointer,
      hcleared.at?_eq _ (Layout.pointer_ne_marker hpointer hmarker),
      hpublished.at?_eq _ (Layout.pointer_ne_active hpointer hactive)]
  obtain ⟨others, elsewhere, other, hspot, hwritten⟩ := hrestored.active
  obtain ⟨left, home, own, hown, hmissing⟩ := hrestored.marker
  refine ⟨?_, ?_⟩
  · rw [huntangled.held?_eq hsame (by simp [Layout.changing]) hown, hmissing]
  rw [hphase]
  refine ⟨hsame, ?_, text, hreplacement, ?_⟩
  · rcases hpointed with ⟨hsees, hkept⟩ | ⟨hsees, previous, hprevious, hlink⟩
    · exact Or.inl ⟨hsees, by rw [hheld, hkept, held?_eq_of_place? hpointer.place?_eq]⟩
    · exact Or.inr ⟨hsees, previous, hprevious, by rw [hheld, hlink]⟩
  · rw [huntangled.held?_eq hsame (by simp [Layout.changing]) hspot, hwritten]

/-! ## The sync -/

/-- What a sync comes to that has read the active manifest. -/
theorem decided_of_does_observe {sighted : Except SyncFault Revision}
    (hdoes : Does healthy tree (monitor.observe now sighted) (.ok outcome, later) after) :
    (after = tree ∧ ∃ observed, outcome = .revisionMismatch monitor.revision observed) ∨
      (sighted = .ok monitor.revision ∧
        Does healthy tree (monitor.decided now healthy) (.ok outcome, later) after) := by
  cases sighted with
  | error failure => cases (Tree.does_done_iff.mp hdoes).1
  | ok observed =>
      by_cases hsame : observed = monitor.revision
      · subst hsame
        simp only [observe, ne_eq, not_true_eq_false, if_false, Tree.does_probe_iff] at hdoes
        exact Or.inr ⟨rfl, hdoes⟩
      · simp only [observe, ne_eq, hsame, not_false_eq_true, if_true, Tree.does_log_iff] at hdoes
        obtain ⟨hticked, rfl⟩ := Tree.does_done_iff.mp hdoes
        cases hticked
        exact Or.inl ⟨rfl, observed, rfl⟩

/-- An unhealthy target within its grace period is left alone, and behind it a fallback
either finds nothing or restores a manifest. -/
theorem outcome_of_does_decided
    (hdoes : Does false tree (monitor.decided now false) (.ok outcome, later) after) :
    (after = tree ∧ (outcome = .waiting ∨ outcome = .noFallbackCandidate)) ∨
      outcome = .fellBack := by
  simp only [decided, Bool.false_eq_true, if_false] at hdoes
  split at hdoes
  · obtain ⟨result, between, hfallback, hrest⟩ := does_fallBack_iff.mp hdoes
    cases result with
    | error failure => cases (Tree.does_pure_iff.mp hrest).1
    | ok fallen =>
        cases fallen with
        | noCandidate =>
            obtain ⟨hticked, rfl⟩ := Tree.does_pure_iff.mp hrest
            cases hticked
            exact Or.inl ⟨kept_of_noCandidate hfallback, Or.inr rfl⟩
        | restored other =>
            obtain ⟨hticked, -⟩ := does_removeMarker_iff.mp hrest
            refine Or.inr ?_
            revert hticked
            cases Sync.removal _ _ with
            | error failure =>
                intro hticked
                cases hticked
            | ok removed =>
                intro hticked
                cases hticked
                rfl
  · obtain ⟨hticked, rfl⟩ := Tree.does_done_iff.mp hdoes
    cases hticked
    exact Or.inl ⟨rfl, Or.inl rfl⟩

/-- On a host a sync has changed what its outcome says, and nothing else, if the
directories of the layout do not lead through the entries that it changes. -/
theorem changes_of_does (huntangled : monitor.layout.Untangled tree)
    (hdoes : Does healthy tree (monitor.tickAt now) (.ok outcome, later) after) :
    monitor.Changes tree after outcome := by
  cases hphase : monitor.phase with
  | fellBack markerRemoved =>
      simp only [tickAt, hphase] at hdoes
      cases markerRemoved with
      | true =>
          obtain ⟨hticked, rfl⟩ := Tree.does_pure_iff.mp hdoes
          cases hticked
          rfl
      | false => exact changes_of_cleared hphase hdoes
  | watching =>
      have hwatch := hdoes
      simp only [tickAt, hphase] at hwatch
      rcases decided_of_does_observe (does_watch_iff.mp hwatch) with
        ⟨rfl, observed, rfl⟩ | ⟨hsighting, hdecided⟩
      · rfl
      cases healthy with
      | true =>
          obtain ⟨rfl, hpromote⟩ := promoted_of_does_retire hdecided
          cases hread : tree.read monitor.layout.activeManifest with
          | error fault =>
              rw [hread] at hsighting
              cases hsighting
          | ok seen => exact changes_of_promoted huntangled hread hpromote
      | false =>
          rcases outcome_of_does_decided hdecided with ⟨rfl, rfl | rfl⟩ | rfl
          · rfl
          · rfl
          · exact changes_of_restored huntangled hphase hdoes

end Monitor

/-- The overdue monitor of the host comes to an outcome two seconds after the origin of
the clock. -/
private theorem Rehearsed.does_tick (healthy : Bool) (outcome : TickOutcome)
    (hrun : ((Rehearsed.overdue.tickAt (Rehearsed.instant 2)).run (host healthy "uid")
      Rehearsed.node).1.1 = .ok outcome) :
    ∃ later after, Does healthy Rehearsed.node (Rehearsed.overdue.tickAt (Rehearsed.instant 2))
      (.ok outcome, later) after := by
  have hdoes := does_run healthy "uid" Rehearsed.node
    (Rehearsed.overdue.tickAt (Rehearsed.instant 2))
  rw [← hrun]
  exact ⟨_, _, hdoes⟩

/-- The host falls back if its target is unhealthy, and promotes it if it is healthy. -/
theorem Monitor.changes_of_does_rehearsed :
    (∃ later after, Does false Rehearsed.node (Rehearsed.overdue.tickAt (Rehearsed.instant 2))
        (.ok .fellBack, later) after ∧ Rehearsed.overdue.Changes Rehearsed.node after .fellBack) ∧
      ∃ later after, Does true Rehearsed.node (Rehearsed.overdue.tickAt (Rehearsed.instant 2))
        (.ok .retired, later) after ∧ Rehearsed.overdue.Changes Rehearsed.node after .retired := by
  have huntangled : Rehearsed.overdue.layout.Untangled Rehearsed.node := by decide +kernel
  obtain ⟨restored, fallen, hfellBack⟩ := Rehearsed.does_tick false .fellBack (by decide +kernel)
  obtain ⟨promoted, healthy, hretired⟩ := Rehearsed.does_tick true .retired (by decide +kernel)
  exact ⟨⟨restored, fallen, hfellBack, Monitor.changes_of_does huntangled hfellBack⟩,
    promoted, healthy, hretired, Monitor.changes_of_does huntangled hretired⟩

end RevisionGuard
