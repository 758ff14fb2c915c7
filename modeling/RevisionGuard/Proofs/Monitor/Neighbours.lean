import RevisionGuard.Proofs.Layout.Targets
import RevisionGuard.Proofs.Monitor.PointerMoves
import Mathlib.Tactic.Common

/-!
# Monitors of different targets

Whatever a sync of a monitor removes, writes or makes, it does so at the path of one of the
three files of its own target (`Monitor.touches_tickAt`).  No file of another target has such
a path, so monitors of different targets leave each other's files alone, also if they share
their directories (`Ticks.targets_apart`).
-/

namespace RevisionGuard

open Program Layout

/-- A request changes files, if at all, at the path of a file that the guard of a target
changes. -/
def Touches (layout : Layout) (request : Request) : Prop :=
  ∀ call, request = .file call → ∀ changed ∈ call.changed?, ∃ role, changed = layout.file role

variable {layout : Layout} {revision : Revision} {request : Request} {call : FileCall}

theorem touches_log {entry : LogEntry} : Touches layout (.log entry) := by
  rintro _ ⟨⟩

theorem touches_of_reads (hreads : call.changed? = none) : Touches layout (.file call) := by
  rintro _ ⟨⟩ changed hchanged
  rw [hreads] at hchanged
  cases hchanged

theorem touches_remove (role : Role) : Touches layout (.file (.remove (layout.file role))) := by
  rintro _ ⟨⟩ changed hchanged
  exact ⟨role, (Option.some.inj hchanged).symm⟩

theorem Promotion.Links.touches (hlinks : Promotion.Links layout revision request) :
    Touches layout request := by
  cases hlinks with
  | log entry => exact touches_log
  | look => exact touches_of_reads rfl
  | clear => exact touches_remove .pointer
  | link =>
      rintro _ ⟨⟩ changed hchanged
      exact ⟨.pointer, (Option.some.inj hchanged).symm⟩

namespace Fallback

theorem Prepares.touches (hprepares : Prepares layout request) : Touches layout request := by
  cases hprepares with
  | links revision hlinks => exact hlinks.touches
  | list => exact touches_of_reads rfl
  | look revision => exact touches_of_reads rfl
  | read => exact touches_of_reads rfl

theorem Publishes.touches (hpublishes : Publishes layout request) : Touches layout request := by
  cases hpublishes with
  | log entry => exact touches_log
  | identity => rintro _ ⟨⟩
  | clear => exact touches_remove .active
  | write text =>
      rintro _ ⟨⟩ changed hchanged
      exact ⟨.active, (Option.some.inj hchanged).symm⟩

end Fallback

namespace Monitor

variable {monitor : Monitor} {now : Instant}

theorem touches_removeMarker (monitor : Monitor) :
    Asks (Touches monitor.layout) monitor.removeMarker := by
  refine (Sync.asks_removeIfExists (touches_remove .marker)).bind fun removed => ?_
  match removed with
  | .error fault => exact Program.asks_pure _
  | .ok false => exact Program.asks_pure _
  | .ok true => exact ⟨touches_log, fun _ => trivial⟩

theorem touches_retire (monitor : Monitor) : Asks (Touches monitor.layout) monitor.retire := by
  refine ⟨touches_log, fun _ => ?_⟩
  refine (Promotion.promote_asks.mono ?_).bind fun result => ?_
  · rintro request (hlinks | rfl)
    · exact hlinks.touches
    · exact touches_remove .marker
  · match result with
    | .error fault => exact Program.asks_pure _
    | .ok () => exact Program.asks_pure _

theorem touches_fallBack (monitor : Monitor) : Asks (Touches monitor.layout) monitor.fallBack := by
  rw [fallBack_eq]
  refine ⟨touches_log, fun _ => ?_⟩
  refine ((Fallback.run_asks monitor.revision).mono ?_).bind fun result => ?_
  · rintro request (hprepares | hpublishes)
    · exact hprepares.touches
    · exact hpublishes.touches
  · match result with
    | .error fault => exact Program.asks_pure _
    | .ok .noCandidate => exact Program.asks_pure _
    | .ok (.restored _) => exact touches_removeMarker (monitor.afterFallback false)

theorem touches_watch (monitor : Monitor) (now : Instant) :
    Asks (Touches monitor.layout) (monitor.watch now) := by
  rw [watch_eq]
  refine (Sync.asks_answered (touches_of_reads rfl)).bind fun sighted => ?_
  cases sighted with
  | error fault => exact Program.asks_pure _
  | ok observed =>
      by_cases hsame : observed = monitor.revision
      · simp only [observe, ne_eq, hsame, not_true_eq_false, if_false]
        refine ⟨by rintro _ ⟨⟩, fun healthy => ?_⟩
        cases healthy with
        | true => exact touches_retire (monitor.begun now)
        | false =>
            simp only [Bool.false_eq_true, if_false]
            split
            · exact touches_fallBack (monitor.begun now)
            · trivial
      · simp only [observe, ne_eq, hsame, not_false_eq_true, if_true]
        exact ⟨touches_log, fun _ => trivial⟩

/-- A sync changes files at the paths of its own target only. -/
theorem touches_tickAt (monitor : Monitor) (now : Instant) :
    Asks (Touches monitor.layout) (monitor.tickAt now) := by
  unfold tickAt
  split
  · exact touches_watch monitor now
  · exact Program.asks_pure _
  · exact touches_removeMarker monitor

end Monitor

/-! ## Runs -/

/-- What is not the path of a file of the target is spared if nothing but these is touched. -/
theorem spares_of_touches {path : Path} {trace : List Exchange}
    (htouches : ∀ exchange ∈ trace, Touches layout exchange.request)
    (hapart : ∀ role, (layout.file role).same path = false) : Spares path trace := by
  intro call hcall changed hchanged
  obtain ⟨answer, hmem⟩ := mem_fileCalls_iff.mp hcall
  obtain ⟨role, rfl⟩ := htouches _ hmem call rfl changed hchanged
  exact hapart role

/-- The syncs of a run touch what a sync may touch. -/
theorem Ticks.touches {monitor last : Monitor} {ticks : List Tick}
    (hrun : Ticks monitor ticks last) :
    ∀ exchange ∈ exchanges ticks, Touches monitor.layout exchange.request := by
  induction hrun with
  | nil monitor => simp [exchanges]
  | @cons monitor last tick ticks hbefore hticks ih =>
      have hlayout : tick.after.layout = monitor.layout := by
        rw [tick.course.sameSettings.layout, hbefore]
      intro exchange hmem
      rw [exchanges_cons, List.mem_append] at hmem
      rcases hmem with hmem | hmem
      · have htouches := (Monitor.touches_tickAt tick.before tick.now).request_of_mem tick.runs
        exact hbefore ▸ htouches exchange hmem
      · exact hlayout ▸ ih exchange hmem

/-- Two paths of targets are the same only for the files of one target that are of one kind
and of one revision, where a revisioned manifest can be the active manifest of its target
if the manifests are in the directory of the revision.  So the syncs of a monitor spare
every file of other targets. -/
theorem Ticks.targets_apart {layout rival : Layout} (htarget : '/' ∉ layout.target.toList)
    (hrival : '/' ∉ rival.target.toList) :
    (∀ role kind, (layout.file role).same (rival.file kind) = true ↔
      role = kind ∧ layout.target = rival.target ∧
        (layout.home role).same (rival.home kind) = true) ∧
      (∀ revision other,
        (layout.revisionedManifest revision).same (rival.revisionedManifest other) = true ↔
          layout.target = rival.target ∧ revision = other ∧
            layout.resourcesDir.same rival.resourcesDir = true) ∧
      (∀ revision kind, (layout.revisionedManifest revision).same (rival.file kind) = true ↔
        kind = .active ∧ layout.target = rival.target ∧
          (layout.resourcesDir.join ⟨layout.revisionDirName revision⟩).same rival.manifestsDir =
            true) ∧
      (layout.target ≠ rival.target →
        ∀ monitor ticks last, monitor.layout = layout → Ticks monitor ticks last →
          (∀ kind, Spares (rival.file kind) (exchanges ticks)) ∧
            ∀ revision, Spares (rival.revisionedManifest revision) (exchanges ticks)) := by
  refine ⟨fun _ _ => same_file_iff htarget hrival,
    fun _ _ => same_revisionedManifest_iff htarget hrival,
    fun _ _ => same_revisionedManifest_file_iff htarget hrival, ?_⟩
  rintro htargets monitor ticks last rfl hrun
  constructor
  · intro kind
    refine spares_of_touches hrun.touches fun role => Bool.eq_false_iff.mpr fun hsame => ?_
    obtain ⟨-, heq, -⟩ := (same_file_iff htarget hrival).mp hsame
    exact htargets heq
  · intro revision
    refine spares_of_touches hrun.touches fun role => Bool.eq_false_iff.mpr fun hsame => ?_
    rw [Path.same_comm] at hsame
    obtain ⟨-, heq, -⟩ := (same_revisionedManifest_file_iff hrival htarget).mp hsame
    exact htargets heq.symm

/-- A target whose name ends like the directory of a revision of the watched one. -/
def Rehearsed.neighbour : Layout := { Rehearsed.layout with target := "kube-pod-8" }

/-- A sync that moves the pointer of its target and removes its marker leaves the files of
the other target in the same directories. -/
theorem Ticks.targets_apart_rehearsed :
    let tick := Tick.inWorld Rehearsed.dangling Rehearsed.monitor (Rehearsed.instant 3)
    '/' ∉ Rehearsed.layout.target.toList ∧ '/' ∉ Rehearsed.neighbour.target.toList ∧
      .remove Rehearsed.layout.selfMarker ∈ fileCalls (exchanges [tick]) ∧
      (∀ kind, Spares (Rehearsed.neighbour.file kind) (exchanges [tick])) ∧
      (∀ revision, Spares (Rehearsed.neighbour.revisionedManifest revision) (exchanges [tick])) ∧
      ∀ other, (Rehearsed.layout.revisionedManifest 8).same
        (Rehearsed.neighbour.revisionedManifest other) = false := by
  intro tick
  have htarget : '/' ∉ Rehearsed.layout.target.toList := by decide
  have hrival : '/' ∉ Rehearsed.neighbour.target.toList := by decide
  have htargets : Rehearsed.layout.target ≠ Rehearsed.neighbour.target := by decide
  have hrun : Ticks Rehearsed.monitor [tick] tick.after := .cons rfl (.nil _)
  obtain ⟨-, hrevisioned, -, hspares⟩ := Ticks.targets_apart htarget hrival
  obtain ⟨hfiles, hmanifests⟩ := hspares htargets Rehearsed.monitor [tick] tick.after rfl hrun
  refine ⟨htarget, hrival, by decide +kernel, hfiles, hmanifests, fun other => ?_⟩
  exact Bool.eq_false_iff.mpr fun hsame => htargets ((hrevisioned 8 other).mp hsame).1

end RevisionGuard
