import RevisionGuard.Proofs.Layout.Steps
import RevisionGuard.Proofs.Monitor.GracePeriod
import Mathlib.Tactic.Common

/-!
# Health decides before time

A tick of a watching monitor reads the active manifest first, and nothing else unless
that shows the watched revision.  Then it asks for the health of the target, once, and
before any further file operation.  A healthy target is promoted, which leaves the
active manifest alone however late it is.  Behind the grace period of an unhealthy
target every file operation is one of the fallback or, once that has restored a
manifest, the removal of the marker; within it there is none.

`Monitor.runs_observe` takes a tick apart at the two decisions, and the three ways on
(`probes_retire`, `calls_of_conclude`, nothing) are bounded one by one.
-/

namespace RevisionGuard

open Program

namespace Monitor

variable {monitor : Monitor} {now : Instant} {trace : List Exchange} {ticked : Ticked}
  {outcome : Except SyncFault Fallback.Outcome}

/-- What a tick does with the health of a target of the watched revision. -/
def decided (monitor : Monitor) (now : Instant) (healthy : Bool) : Program Ticked :=
  if healthy then (monitor.begun now).retire
  else if monitor.isExpired (monitor.startedAt.getD now) now then (monitor.begun now).fallBack
  else .done (.ok .waiting, monitor.begun now)

/-- Behind the read of the active manifest a tick ends and leaves the monitor as it
is, unless the manifest is of the watched revision: then it probes the target. -/
theorem runs_observe {sighted : Except SyncFault Revision}
    (hruns : Runs (monitor.observe now sighted) trace ticked) :
    (sighted ≠ .ok monitor.revision ∧ fileCalls trace = [] ∧ probes trace = [] ∧
        ticked = (sighted.map (.revisionMismatch monitor.revision), monitor)) ∨
      (sighted = .ok monitor.revision ∧
        ∃ healthy behind, trace = ⟨.probe, healthy⟩ :: behind ∧
          Runs (monitor.decided now healthy) behind ticked) := by
  cases sighted with
  | error fault =>
      obtain ⟨rfl, rfl⟩ := runs_done_iff.mp hruns
      exact Or.inl ⟨by simp, rfl, rfl, rfl⟩
  | ok observed =>
      by_cases hsame : observed = monitor.revision
      · subst hsame
        simp only [observe, ne_eq, not_true_eq_false, if_false] at hruns
        obtain ⟨healthy, behind, rfl, hbehind⟩ := runs_ask_iff.mp hruns
        exact Or.inr ⟨rfl, healthy, behind, rfl, hbehind⟩
      · simp only [observe, ne_eq, hsame, not_false_eq_true, if_true] at hruns
        obtain ⟨_, rest, rfl, hdone⟩ := runs_ask_iff.mp hruns
        obtain ⟨rfl, rfl⟩ := runs_done_iff.mp hdone
        exact Or.inl ⟨by simpa using hsame, rfl, rfl, rfl⟩

/-! ## A healthy target -/

/-- Promoting changes the place of the pointer and that of the marker. -/
theorem spares_retire (hruns : Runs monitor.retire trace ticked) :
    Spares monitor.layout.activeManifest trace := by
  intro call hcall changed hchanged
  obtain ⟨answer, hmem⟩ := mem_fileCalls_iff.mp hcall
  rcases (retired_of_runs hruns).1 _ hmem with hlinks | hremove
  · cases hlinks with
    | look => cases hchanged
    | clear =>
        obtain rfl := Option.some.inj hchanged
        exact monitor.layout.lastKnownGood_same_activeManifest
    | link =>
        obtain rfl := Option.some.inj hchanged
        exact monitor.layout.lastKnownGood_same_activeManifest
  · cases hremove
    obtain rfl := Option.some.inj hchanged
    exact monitor.layout.selfMarker_same_activeManifest

theorem probes_retire (hruns : Runs monitor.retire trace ticked) : probes trace = [] := by
  refine probes_eq_nil fun exchange hmem hprobe => ?_
  rcases (retired_of_runs hruns).1 exchange hmem with hlinks | hremove
  · rw [hprobe] at hlinks
    cases hlinks
  · rw [hprobe] at hremove
    cases hremove

/-- Promoting never falls back, and leaves the monitor as it is. -/
theorem result_retire (hruns : Runs monitor.retire trace ticked) :
    (ticked.1 = .ok .retired ∨ ∃ fault, ticked.1 = .error fault) ∧ ticked.2 = monitor := by
  rcases (retired_of_runs hruns).2 with rfl | ⟨fault, rfl⟩
  · exact ⟨Or.inl rfl, rfl⟩
  · exact ⟨Or.inr ⟨fault, rfl⟩, rfl⟩

/-! ## An unhealthy target -/

/-- The file operations of a sync behind its fallback. -/
def closingCalls (layout : Layout) : Except SyncFault Fallback.Outcome → List FileCall
  | .ok (.restored _) => [.remove layout.selfMarker]
  | .ok .noCandidate | .error _ => []

theorem Cleaned.calls (hcleaned : Cleaned monitor trace ticked) :
    fileCalls trace = [.remove monitor.layout.selfMarker] ∧ probes trace = [] := by
  cases hcleaned with
  | failed => exact ⟨rfl, rfl⟩
  | @gone answer removed logs hremoval hlogs =>
      have hcalls : fileCalls logs = [] := fileCalls_of_isLog hlogs
      have hprobes : probes logs = [] := probes_of_isLog hlogs
      exact ⟨congrArg (_ :: ·) hcalls, hprobes⟩

theorem calls_of_conclude (hruns : Runs (monitor.conclude outcome) trace ticked) :
    fileCalls trace = closingCalls monitor.layout outcome ∧ probes trace = [] := by
  match outcome with
  | .error fault =>
      obtain ⟨rfl, -⟩ := Program.runs_pure_iff.mp hruns
      exact ⟨rfl, rfl⟩
  | .ok .noCandidate =>
      obtain ⟨rfl, -⟩ := Program.runs_pure_iff.mp hruns
      exact ⟨rfl, rfl⟩
  | .ok (.restored failed) => exact (cleaned_of_runs hruns).calls

theorem probes_fallback {layout : Layout} {failed : Revision}
    (hruns : Runs (Fallback.run layout failed).run trace outcome) : probes trace = [] := by
  refine probes_eq_nil fun exchange hmem hprobe => ?_
  rcases (Fallback.run_asks failed).request_of_mem hruns exchange hmem with hprepares | hpublishes
  · rw [hprobe] at hprepares
    cases hprepares with
    | links revision hlinks => cases hlinks
  · rw [hprobe] at hpublishes
    cases hpublishes

/-- What a sync does that falls back: the fallback, and what closes it. -/
theorem calls_of_fallBack (hruns : Runs monitor.fallBack trace ticked) :
    probes trace = [] ∧ ∃ outcome fallback closing,
      trace = ⟨.log fallBackEntry, ()⟩ :: (fallback ++ closing) ∧
        Runs (Fallback.run monitor.layout monitor.revision).run fallback outcome ∧
        fileCalls closing = closingCalls monitor.layout outcome := by
  obtain ⟨outcome, fallback, closing, rfl, hfallback, hclosing⟩ := runs_fallBack_iff.mp hruns
  obtain ⟨hcalls, hprobes⟩ := calls_of_conclude hclosing
  refine ⟨?_, outcome, fallback, closing, rfl, hfallback, hcalls⟩
  rw [probes_log, probes_append, probes_fallback hfallback, hprobes, List.append_nil]

end Monitor

/-- A tick of a watching monitor reads the active manifest, and ends there if that is
not of the watched revision.  Otherwise it probes the target, once and before it does
anything else.  If the target is healthy, the active manifest is spared and the
monitor keeps watching.  If it is not, every further file operation belongs to a
fallback behind the grace period, and within the grace period there is none. -/
theorem Ticks.health_before_time {layout : Layout} {revision : Revision}
    {timeout probeInterval : Duration} {front : List Tick} {tick : Tick}
    (hfront : Ticks (Monitor.fresh layout revision timeout probeInterval) front tick.before)
    (hphase : tick.before.phase = .watching) :
    ∃ answer rest, tick.trace = ⟨.file (.read layout.activeManifest), answer⟩ :: rest ∧
      (¬ ShowsRevision layout revision tick.trace →
        fileCalls rest = [] ∧ probes rest = [] ∧ tick.after = tick.before ∧
          tick.result = (Monitor.sighting layout answer).map (.revisionMismatch revision)) ∧
      (ShowsRevision layout revision tick.trace →
        ∃ healthy behind, rest = ⟨.probe, healthy⟩ :: behind ∧ probes behind = [] ∧
          if healthy then
            Spares layout.activeManifest behind ∧ tick.after.phase = .watching ∧
              (tick.result = .ok .retired ∨ ∃ fault, tick.result = .error fault)
          else
            ∃ first, FirstSighting layout revision (front ++ [tick]) first ∧
              if first.now.nanoseconds + timeout.nanoseconds < tick.now.nanoseconds then
                ∃ outcome fallback closing,
                  behind = ⟨.log Monitor.fallBackEntry, ()⟩ :: (fallback ++ closing) ∧
                    Runs (Fallback.run layout revision).run fallback outcome ∧
                    fileCalls closing = Monitor.closingCalls layout outcome
              else fileCalls behind = [] ∧ tick.result = .ok .waiting) := by
  obtain ⟨rfl, rfl, rfl, -⟩ := hfront.sameSettings
  have hruns := tick.runs
  rw [Monitor.tickAt, hphase] at hruns
  obtain ⟨answer, rest, htrace, hobserve⟩ := Monitor.runs_watch_iff.mp hruns
  have hshows : ShowsRevision tick.before.layout tick.before.revision tick.trace ↔
      Monitor.sighting tick.before.layout answer = .ok tick.before.revision := by
    rw [htrace, Monitor.showsRevision_cons_iff]
  refine ⟨answer, rest, htrace, ?_⟩
  rcases Monitor.runs_observe hobserve with
    ⟨hunseen, hcalls, hprobes, hticked⟩ | ⟨hseen, healthy, behind, rfl, hdecided⟩
  · obtain ⟨hresult, hafter⟩ := Prod.mk.inj hticked
    exact ⟨fun _ => ⟨hcalls, hprobes, hafter, hresult⟩,
      fun hseen => absurd (hshows.mp hseen) hunseen⟩
  refine ⟨fun hunseen => absurd (hshows.mpr hseen) hunseen, fun hshown => ?_⟩
  obtain ⟨first, hfirst, hstarted⟩ := hfront.exists_firstSighting_getD rfl hshown
  refine ⟨healthy, behind, rfl, ?_⟩
  -- health decides first, and only then the time
  cases healthy with
  | true =>
      have hspares := Monitor.spares_retire hdecided
      obtain ⟨hresult, hafter⟩ := Monitor.result_retire hdecided
      exact ⟨Monitor.probes_retire hdecided, hspares,
        (congrArg Monitor.phase hafter).trans hphase, hresult⟩
  | false =>
      simp only [Monitor.decided, Bool.false_eq_true, if_false, hstarted, Monitor.isExpired_iff]
        at hdecided
      by_cases hpast : first.now.nanoseconds + tick.before.timeout.nanoseconds <
          tick.now.nanoseconds
      · rw [if_pos hpast] at hdecided
        obtain ⟨hprobes, hfallback⟩ := Monitor.calls_of_fallBack hdecided
        refine ⟨hprobes, first, hfirst, ?_⟩
        rw [if_pos hpast]
        exact hfallback
      · rw [if_neg hpast] at hdecided
        obtain ⟨rfl, hticked⟩ := runs_done_iff.mp hdecided
        refine ⟨rfl, first, hfirst, ?_⟩
        rw [if_neg hpast]
        exact ⟨rfl, congrArg Prod.fst hticked⟩

namespace Rehearsed

/-- A target that becomes healthy after its first probe; no revision has been promoted
yet. -/
def recovering : World :=
  { World.new (.scripted ⟨[
      ⟨.read, some layout.activeManifest, [.contents (manifest 8)]⟩,
      ⟨.stat, some layout.lastKnownGood, [.failure .noSuchEntry]⟩,
      ⟨.symlink, some layout.lastKnownGood, [.done]⟩,
      ⟨.remove, some layout.selfMarker, [.done]⟩]⟩) .origin with health := .given [false, true] }

end Rehearsed

/-- A target that becomes healthy long after the grace period is promoted. -/
theorem Ticks.health_before_time_rehearsed :
    ∃ first second : Tick, Ticks Rehearsed.monitor [first] second.before ∧
      second.now = Rehearsed.instant 9 ∧ first.result = .ok .waiting ∧
      second.result = .ok .retired ∧
      ∃ behind, second.trace.drop 2 = behind ∧ Spares Rehearsed.layout.activeManifest behind := by
  let first := Tick.inWorld Rehearsed.recovering Rehearsed.monitor .origin
  let second := Tick.inWorld (Rehearsed.recovering.run (Rehearsed.monitor.tickAt .origin)).2
    first.after (Rehearsed.instant 9)
  have hfront : Ticks Rehearsed.monitor [first] second.before := .cons rfl (.nil _)
  have hphase : second.before.phase = .watching := by decide +kernel
  have hprobes : probes second.trace = [true] := by decide +kernel
  obtain ⟨answer, rest, htrace, -, hshown⟩ := Ticks.health_before_time hfront hphase
  obtain ⟨healthy, behind, rfl, -, hhealthy⟩ := hshown (by decide +kernel)
  obtain rfl : healthy = true := by
    rw [htrace] at hprobes
    exact (List.cons.inj hprobes).1
  refine ⟨first, second, hfront, rfl, by decide +kernel, by decide +kernel, behind, ?_, hhealthy.1⟩
  rw [htrace]
  rfl

end RevisionGuard
