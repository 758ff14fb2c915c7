import RevisionGuard.Proofs.Fallback.Restoring
import RevisionGuard.Proofs.Layout.Marker
import RevisionGuard.Proofs.Monitor.Hosts
import RevisionGuard.Proofs.Monitor.Ticks
import Mathlib.Tactic.Common

/-!
# Retrying a fallback that failed

A tick that is `Monitor.Due` to restore a manifest does so unless one of its file
operations fails.  What is left behind then depends on the operation.

* Before the active manifest is removed, the files are as good as before, and so is
  the monitor: the next tick is due as well.
* At the removal of the marker, the manifest has been restored and the monitor knows
  it: the next tick only removes the marker.
* At the write of the manifest, the active manifest is gone.  The next tick reads it
  first, and fails there for good.

So a failed fallback is retried to completion exactly if the operation that failed was
not the write (`Monitor.retry_after_failure`).
-/

namespace RevisionGuard

open Program RevisionGuard.Tree Fallback

namespace Monitor

variable {tree ready after broken : Tree} {monitor restored failed : Monitor} {now later : Instant}
  {call : FileCall} {fault : FileFault} {left : Nat} {directory : Location}
  {name label : EntryName} {candidate : Pod} {seen : Bytes} {ticked : Ticked} {healthy : Bool}

/-- A text is the manifest that a fallback from a revision restores from these
files: once it has been made sure of the pointer, the manifest that the pointer leads
to, under some identity and with a note of the revision. -/
def IsReplacement (layout : Layout) (failed : Revision) (tree : Tree) (text : String) : Prop :=
  ∃ ready contents candidate uid,
    Does false tree (ensurePointer layout failed).run (.ok true) ready ∧
      ready.read layout.lastKnownGood = .ok contents ∧ Pod.ofBytes contents = .ok candidate ∧
        (candidate.republished failed uid).toText = .ok text

/-- A text is in the place of the active manifest, and nothing in the place of the
marker.  Their paths lead there as before, unless the marker was a link to a
directory, by way of which they may have gone. -/
structure Restored (layout : Layout) (text : String) (tree after : Tree) : Prop where
  active : ∃ left directory name, tree.Spot layout.activeManifest left directory name ∧
    after.at? (name :: directory) = some (.file (Utf8.ofText text) 0o644)
  marker : ∃ left directory label, tree.Spot layout.selfMarker left directory label ∧
    after.at? (label :: directory) = none
  paths : ¬ tree.LeadsToDirectory layout.selfMarker →
    after.read layout.activeManifest = .ok (Utf8.ofText text) ∧
      after.stat layout.selfMarker = .error .noSuchEntry

/-! ## What is due -/

/-- A tick of this monitor is due to restore a manifest of these files, and to clear
the marker. -/
structure Due (monitor : Monitor) (now : Instant) (tree ready : Tree) (candidate : Pod)
    (left : Nat) (directory : Location) (name label : EntryName) : Prop where
  phase : monitor.phase = .watching
  expired : monitor.isExpired (monitor.startedAt.getD now) now = true
  restorable : ∃ seen, sighting monitor.layout (.ok seen) = .ok monitor.revision ∧
    Restorable false monitor.layout monitor.revision tree ready seen candidate
  replaceable : Replaceable monitor.layout ready left directory name
  clearable : Clearable monitor.layout ready left directory label

/-- A grace period that has passed began before. -/
private theorem started_of_expired
    (hexpired : monitor.isExpired (monitor.startedAt.getD now) now = true) :
    ∃ started, monitor.startedAt = some started := by
  cases hstarted : monitor.startedAt with
  | some started => exact ⟨started, rfl⟩
  | none =>
      rw [hstarted, isExpired_iff, Option.getD_none] at hexpired
      omega

theorem begun_of_expired (hexpired : monitor.isExpired (monitor.startedAt.getD now) now = true) :
    monitor.begun now = monitor := by
  obtain ⟨started, hstarted⟩ := started_of_expired hexpired
  obtain ⟨layout, revision, timeout, probeInterval, startedAt, phase⟩ := monitor
  cases hstarted
  rfl

/-- A grace period that has passed stays so. -/
theorem isExpired_mono (hexpired : monitor.isExpired (monitor.startedAt.getD now) now = true)
    (hlater : now.nanoseconds ≤ later.nanoseconds) :
    monitor.isExpired (monitor.startedAt.getD later) later = true := by
  obtain ⟨started, hstarted⟩ := started_of_expired hexpired
  rw [hstarted, Option.getD_some, isExpired_iff] at hexpired ⊢
  omega

/-- Whoever falls back with success was due to. -/
theorem due_of_fellBack (hphase : monitor.phase = .watching)
    (hdoes : Does false tree (monitor.tickAt now) (.ok .fellBack, restored) after) :
    ∃ ready candidate left directory name label,
      Due monitor now tree ready candidate left directory name label := by
  simp only [tickAt, hphase] at hdoes
  obtain ⟨seen, hread, hsighting, hexpired, hfallBack⟩ := seen_of_fellBack hdoes
  rw [begun_of_expired hexpired] at hfallBack
  obtain ⟨result, published, hfallback, hrest⟩ := does_fallBack_iff.mp hfallBack
  match result with
  | .error failure => cases (Tree.does_pure_iff.mp hrest).1
  | .ok .noCandidate => cases (Tree.does_pure_iff.mp hrest).1
  | .ok (.restored other) =>
      -- what the fallback has found, and what the removal of the marker has
      obtain ⟨ready, candidate, hrestorable⟩ := restorable_of_does hread hfallback
      obtain ⟨left, directory, name, hactive⟩ := replaceable_of_read hrestorable.read_ready
      obtain ⟨-, hrepublished⟩ := hrestorable.republished_of_does hactive hfallback
      obtain ⟨hcleared, -⟩ := does_removeMarker_iff.mp hrest
      obtain ⟨removed, hremoval⟩ := removed_of_cleared hcleared
      have hspot := hactive.spot.frame hrepublished.sameBut hactive.deadEnd
      obtain ⟨label, hclearable⟩ := clearable_of_removal hspot hremoval
      exact ⟨ready, candidate, left, directory, name, label, hphase, hexpired,
        ⟨seen, hsighting, hrestorable⟩, hactive, (hrepublished.clearable_iff hactive).mp hclearable⟩

/-- A monitor has fallen back and removed the marker: the republished candidate was
written, and then the marker removed. -/
def Completed (monitor : Monitor) (candidate : Pod) (ready after : Tree) (directory : Location)
    (name : EntryName) (ticked : Ticked) : Prop :=
  ticked = (.ok .fellBack, monitor.afterFallback true) ∧
    ∃ published, Republished monitor.revision candidate ready published directory name ∧
      after = (published.answer (.remove monitor.layout.selfMarker)).2

namespace Due

variable (hdue : Due monitor now tree ready candidate left directory name label)
include hdue

/-- Once the manifest has been restored, only the marker is left to remove. -/
theorem completed_of_removeMarker {published : Tree}
    (hrepublished : Republished monitor.revision candidate ready published directory name)
    (hdoes : Does false published (monitor.afterFallback false).removeMarker ticked after) :
    Completed monitor candidate ready after directory name ticked := by
  have hclearable := (hrepublished.clearable_iff hdue.replaceable).mpr hdue.clearable
  obtain ⟨⟨removed, hremoval⟩, -⟩ := hclearable.cleared
  obtain ⟨hticked, rfl⟩ := does_removeMarker_iff.mp hdoes
  refine ⟨?_, published, hrepublished, rfl⟩
  rw [hticked, show (monitor.afterFallback false).layout = monitor.layout from rfl, hremoval]
  rfl

theorem completed_of_does (hdoes : Does false tree (monitor.tickAt now) ticked after) :
    Completed monitor candidate ready after directory name ticked := by
  obtain ⟨seen, hsighting, hrestorable⟩ := hdue.restorable
  simp only [tickAt, hdue.phase] at hdoes
  rw [does_watch_iff, hrestorable.active, hsighting, observe_eq hdue.expired, Tree.does_probe_iff,
    begun_of_expired hdue.expired] at hdoes
  obtain ⟨result, published, hfallback, hrest⟩ := does_fallBack_iff.mp hdoes
  obtain ⟨rfl, hrepublished⟩ := hrestorable.republished_of_does hdue.replaceable hfallback
  exact hdue.completed_of_removeMarker hrepublished hrest

/-- When an operation fails in a tick that is due to restore a manifest, the tick
fails.  If it is the write, the active manifest is missing.  If it is the removal of
the marker, the manifest has been restored.  Otherwise the tick is as due as
before. -/
theorem broken_of_breaks (hforeign : fault.IsForeign) (hlater : now.nanoseconds ≤ later.nanoseconds)
    (hbreaks : Breaks false tree (monitor.tickAt now) call fault ticked broken) :
    (∃ failure, ticked.1 = .error failure) ∧
      if call.operation = .write then
        ticked.2 = monitor ∧ broken = ready.erase (name :: directory)
      else
        (ticked.2 = monitor ∧
            Due monitor later broken ready candidate left directory name label) ∨
          (ticked.2 = monitor.afterFallback false ∧
            Republished monitor.revision candidate ready broken directory name) := by
  obtain ⟨seen, hsighting, hrestorable⟩ := hdue.restorable
  have hagain : ∀ {other}, Restorable false monitor.layout monitor.revision other ready seen
      candidate → Due monitor later other ready candidate left directory name label :=
    fun hother => ⟨hdue.phase, isExpired_mono hdue.expired hlater, ⟨seen, hsighting, hother⟩,
      hdue.replaceable, hdue.clearable⟩
  simp only [tickAt, hdue.phase] at hbreaks
  -- the read of the active manifest, the fallback, or the removal of the marker
  rcases breaks_watch hbreaks with ⟨rfl, ⟨failure, rfl⟩, rfl⟩ | hobserve
  · exact ⟨⟨failure, rfl⟩, Or.inl ⟨rfl, hagain hrestorable⟩⟩
  rw [hrestorable.active, hsighting, observe_eq hdue.expired, Tree.breaks_probe_iff,
    begun_of_expired hdue.expired] at hobserve
  rcases breaks_fallBack
    (fun hfails => (hrestorable.broken_of_breaks hdue.replaceable hforeign hfails).1) hobserve with
    ⟨failure, hfallback, rfl⟩ | ⟨other, published, hfallback, hmarker⟩
  · obtain ⟨-, hbroken⟩ := hrestorable.broken_of_breaks hdue.replaceable hforeign hfallback
    refine ⟨⟨failure, rfl⟩, ?_⟩
    by_cases hwrite : call.operation = .write
    · rw [if_pos hwrite] at hbroken ⊢
      exact ⟨rfl, hbroken⟩
    · rw [if_neg hwrite] at hbroken ⊢
      exact Or.inl ⟨rfl, hagain hbroken⟩
  · obtain ⟨-, hrepublished⟩ := hrestorable.republished_of_does hdue.replaceable hfallback
    obtain ⟨rfl, rfl, rfl⟩ := breaks_removeMarker hforeign hmarker
    exact ⟨⟨_, rfl⟩, Or.inr ⟨rfl, hrepublished⟩⟩

theorem restored_of_completed
    (hcompleted : Completed monitor candidate ready after directory name ticked) :
    ∃ text, IsReplacement monitor.layout monitor.revision tree text ∧
      Restored monitor.layout text tree after := by
  obtain ⟨seen, -, hrestorable⟩ := hdue.restorable
  obtain ⟨contents, hread, hpod⟩ := hrestorable.pointed
  obtain ⟨-, published, hrepublished, rfl⟩ := hcompleted
  obtain ⟨uid, text, htext, hpublished⟩ := hrepublished.at?_eq
  have hclearable := (hrepublished.clearable_iff hdue.replaceable).mpr hdue.clearable
  have hunmarked := unmarked_answer monitor.layout published
  obtain ⟨before, tip, hsteps, -⟩ := monitor.layout.steps_manifests
  have hname : ∀ other, name ≠ other ++ Layout.markerEnd := by
    rw [hdue.replaceable.spot.name_eq hsteps]
    exact Layout.manifestEnd_ne_markerEnd tip
  have hentry := (hunmarked.at?_eq hname).trans hpublished
  refine ⟨text, ⟨ready, contents, candidate, uid, ensured_iff.mpr hrestorable.ensured, hread, hpod,
    htext⟩, ⟨left, directory, name, ?_, hentry⟩, ⟨left, directory, label, ?_, hclearable.cleared.2⟩,
    fun hmarker => ?_⟩
  · exact (hrestorable.ensured.spot_iff hread).mp hdue.replaceable.spot
  · exact (hrestorable.ensured.spot_iff hread).mp hdue.clearable.spot
  -- neither the link nor the manifest has made the marker lead to a directory
  · have hnever : ¬ published.LeadsToDirectory monitor.layout.selfMarker := fun hleads =>
      hmarker (hrestorable.ensured.leadsToDirectory hread
        (hleads.frame hrepublished.sameBut.symm hrepublished.deadEnd))
    have hactive := hdue.replaceable.spot.frame hrepublished.sameBut hdue.replaceable.deadEnd
    have hspot := hunmarked.spot hnever hactive
    have hleads := hspot.leads (by simp [hentry])
    exact ⟨read_eq_ok_iff.mpr ⟨hspot.check, _, _, _, hleads, hentry⟩,
      (hunmarked.spot hnever hclearable.spot).stat_eq_of_missing hclearable.cleared.2⟩

end Due

/-- Without the active manifest a monitor that watches fails, and leaves everything
as it is. -/
theorem stuck_of_missing (hphase : monitor.phase = .watching)
    (hmissing : tree.read monitor.layout.activeManifest = .error .noSuchEntry)
    (hdoes : Does healthy tree (monitor.tickAt now) ticked after) :
    ticked = (.error (.file monitor.layout.activeManifest .noSuchEntry), monitor) ∧
      after = tree := by
  simp only [tickAt, hphase] at hdoes
  rw [does_watch_iff, hmissing] at hdoes
  exact Tree.does_done_iff.mp hdoes

/-- A tick that would fall back with success fails when one of its operations fails
in a way that is no answer.  If the operation is not the write of the manifest, the
next tick falls back with success: the manifest is restored, and the marker is
removed.  If it is the write, the next tick finds no active manifest, fails and
leaves everything as it is, and so does every tick after it. -/
theorem retry_after_failure {result : Except SyncFault TickOutcome}
    (hphase : monitor.phase = .watching)
    (hdoes : Does false tree (monitor.tickAt now) (.ok .fellBack, restored) after)
    (hforeign : fault.IsForeign)
    (hbreaks : Breaks false tree (monitor.tickAt now) call fault (result, failed) broken)
    (hlater : now.nanoseconds ≤ later.nanoseconds) :
    (∃ failure, result = .error failure) ∧
      (∃ retried last files, Does false broken (failed.tickAt later) (retried, last) files) ∧
      ∀ retried last files, Does false broken (failed.tickAt later) (retried, last) files →
        if call.operation = .write then
          retried = .error (.file monitor.layout.activeManifest .noSuchEntry) ∧ last = failed ∧
            files = broken
        else
          retried = .ok .fellBack ∧ last.phase = .fellBack true ∧
            ∃ text, IsReplacement monitor.layout monitor.revision tree text ∧
              Restored monitor.layout text tree files := by
  obtain ⟨ready, candidate, left, directory, name, label, hdue⟩ := due_of_fellBack hphase hdoes
  obtain ⟨hfailed, hbroken⟩ := hdue.broken_of_breaks hforeign hlater hbreaks
  refine ⟨hfailed, ?_, fun retried last files hretry => ?_⟩
  · obtain ⟨⟨retried, last⟩, files, hretry⟩ := exists_does false broken (failed.tickAt later)
    exact ⟨retried, last, files, hretry⟩
  by_cases hwrite : call.operation = .write
  · rw [if_pos hwrite] at hbroken ⊢
    obtain ⟨rfl, rfl⟩ := hbroken
    -- the active manifest has been removed, and nothing has taken its place
    have hactive := hdue.replaceable
    have hopen := hactive.spot.frame (sameBut_erase ready name directory) hactive.deadEnd
    have hmissing := hopen.read_eq_of_missing (at?_erase_self ready name directory)
    obtain ⟨hticked, rfl⟩ := stuck_of_missing hphase hmissing hretry
    cases hticked
    exact ⟨rfl, rfl, rfl⟩
  · rw [if_neg hwrite] at hbroken ⊢
    have hcompleted : Completed monitor candidate ready files directory name (retried, last) := by
      rcases hbroken with ⟨rfl, hagain⟩ | ⟨rfl, hrepublished⟩
      · exact hagain.completed_of_does hretry
      · exact hdue.completed_of_removeMarker hrepublished hretry
    have hrestored := hdue.restored_of_completed hcompleted
    obtain ⟨hticked, -⟩ := hcompleted
    cases hticked
    exact ⟨rfl, rfl, hrestored⟩

end Monitor

namespace Rehearsed

/-- A host that runs revision 8, with a pointer to revision 7. -/
def node : Tree :=
  ⟨[(["manifests".toList], .directory),
    (["kube-pod.yaml".toList, "manifests".toList], .file (manifest 8) 0o644),
    (["kube-startup-monitor.yaml".toList, "manifests".toList], .file [] 0o644),
    (["resources".toList], .directory),
    (["kube-last-known-good".toList, "resources".toList], .link ⟨"kube-pod-7/kube-pod.yaml"⟩),
    (["kube-pod-7".toList, "resources".toList], .directory),
    (["kube-pod.yaml".toList, "kube-pod-7".toList, "resources".toList],
      .file (manifest 7) 0o644)], []⟩

/-- The text under which revision 7 is republished with the identity `uid`. -/
def republishedText : String :=
  "apiVersion: v1\nkind: Pod\nmetadata:\n  name: kube\n  uid: uid\n" ++
    "  labels:\n    revision: '7'\n  annotations:\n    fallback-for-revision: '8'\n"

/-- The monitor of revision 8, which it has seen at the origin of the clock. -/
def overdue : Monitor := { monitor with startedAt := some .origin }

end Rehearsed

/-- A failure of the removal of the marker is made up for; a failure of the write is
not. -/
theorem Monitor.retry_after_failure_rehearsed :
    (∃ result failed broken retried last files,
      Breaks false Rehearsed.node (Rehearsed.overdue.tickAt (Rehearsed.instant 2))
          (.remove Rehearsed.layout.selfMarker) (.plain .permissionDenied) (result, failed) broken ∧
        Does false broken (failed.tickAt (Rehearsed.instant 3)) (retried, last) files ∧
        retried = .ok .fellBack) ∧
      ∃ result failed broken retried last files,
        Breaks false Rehearsed.node (Rehearsed.overdue.tickAt (Rehearsed.instant 2))
            (writeCall Rehearsed.layout Rehearsed.republishedText) (.plain .storageFull)
            (result, failed) broken ∧
          Does false broken (failed.tickAt (Rehearsed.instant 3)) (retried, last) files ∧
          retried = .error (.file Rehearsed.layout.activeManifest .noSuchEntry) := by
  obtain ⟨restored, after, hdoes⟩ : ∃ restored after, Does false Rehearsed.node
      (Rehearsed.overdue.tickAt (Rehearsed.instant 2)) (.ok .fellBack, restored) after := by
    have hrun := does_run false "uid" Rehearsed.node
      (Rehearsed.overdue.tickAt (Rehearsed.instant 2))
    have hfellBack : ((Rehearsed.overdue.tickAt (Rehearsed.instant 2)).run (host false "uid")
        Rehearsed.node).1.1 = .ok .fellBack := by decide +kernel
    rw [← hfellBack]
    exact ⟨_, _, hrun⟩
  have hlater : (Rehearsed.instant 2).nanoseconds ≤ (Rehearsed.instant 3).nanoseconds := by
    decide +kernel
  constructor
  · obtain ⟨⟨⟨result, failed⟩, broken⟩, hrun⟩ := Option.isSome_iff_exists.mp
      (show (runFailing false "uid" (.remove Rehearsed.layout.selfMarker) (.plain .permissionDenied)
        (Rehearsed.overdue.tickAt (Rehearsed.instant 2)) Rehearsed.node).isSome = true by
          decide +kernel)
    have hbreaks := breaks_of_runFailing hrun
    obtain ⟨-, ⟨retried, last, files, hretry⟩, hretried⟩ :=
      retry_after_failure rfl hdoes ⟨rfl, rfl⟩ hbreaks hlater
    exact ⟨result, failed, broken, retried, last, files, hbreaks, hretry,
      (hretried retried last files hretry).1⟩
  · obtain ⟨⟨⟨result, failed⟩, broken⟩, hrun⟩ := Option.isSome_iff_exists.mp
      (show (runFailing false "uid" (writeCall Rehearsed.layout Rehearsed.republishedText)
        (.plain .storageFull) (Rehearsed.overdue.tickAt (Rehearsed.instant 2))
        Rehearsed.node).isSome = true by decide +kernel)
    have hbreaks := breaks_of_runFailing hrun
    obtain ⟨-, ⟨retried, last, files, hretry⟩, hretried⟩ :=
      retry_after_failure rfl hdoes ⟨rfl, rfl⟩ hbreaks hlater
    exact ⟨result, failed, broken, retried, last, files, hbreaks, hretry,
      (hretried retried last files hretry).1⟩

end RevisionGuard
