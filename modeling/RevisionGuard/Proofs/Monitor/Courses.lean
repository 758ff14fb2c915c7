import RevisionGuard.Monitor
import RevisionGuard.Proofs.Sync.Courses
import Mathlib.Tactic.Common

/-!
# The courses of a sync

Everything that a sync of a monitor and the world can exchange, as one list of
cases (`Monitor.Course`, `course_of_runs`): the phase decides first, then what
is seen of the active manifest, then the health of the target, then the clock.
Statements about ticks argue by these cases and never look into `tickAt` again.
-/

namespace RevisionGuard

open Program

namespace Monitor

variable {monitor : Monitor} {now : Instant} {trace : List Exchange} {ticked : Ticked}

/-- The revision that the answer to the read of the active manifest shows. -/
def sighting (layout : Layout) : Except FileFault Bytes → Except SyncFault Revision
  | .error fault => .error (.file layout.activeManifest fault)
  | .ok contents =>
    (Pod.ofBytes contents >>= Pod.revision).mapError (.manifest layout.activeManifest)

theorem readActiveRevision_eq_answered (layout : Layout) :
    readActiveRevision layout =
      Sync.answered (.read layout.activeManifest) (sighting layout) := by
  refine congrArg (Program.ask _) (funext fun answer => ?_)
  cases answer with
  | error fault => rfl
  | ok contents =>
      change (Sync.manifest layout.activeManifest (Pod.ofBytes contents >>= Pod.revision)).run =
        .done (Except.mapError _ (Pod.ofBytes contents >>= Pod.revision))
      cases Pod.ofBytes contents >>= Pod.revision with
      | ok revision => rfl
      | error fault => rfl

theorem isExpired_iff {started : Instant} :
    monitor.isExpired started now = true ↔
      started.nanoseconds + monitor.timeout.nanoseconds < now.nanoseconds := by
  unfold isExpired Instant.add? Instant.ofNanoseconds?
  by_cases hbound : started.nanoseconds + monitor.timeout.nanoseconds < Instant.bound
  · simp [hbound, Instant.isAfter]
  · have hnow := now.bounded
    simp only [hbound, dite_false]
    constructor
    · intro hfalse
      cases hfalse
    · intro hlater
      omega

/-- The monitor once its grace period has begun. -/
def begun (monitor : Monitor) (now : Instant) : Monitor :=
  { monitor with startedAt := some (monitor.startedAt.getD now) }

/-- The monitor after a fallback. -/
def afterFallback (monitor : Monitor) (markerRemoved : Bool) : Monitor :=
  { monitor with phase := .fellBack markerRemoved }

/-! ## The parts of a sync -/

/-- What a sync does with the result of a fallback. -/
def conclude (monitor : Monitor) : Except SyncFault Fallback.Outcome → Program Ticked
  | .error failure => return (.error failure, monitor)
  | .ok .noCandidate => return (.ok .noFallbackCandidate, monitor)
  | .ok (.restored _) => (monitor.afterFallback false).removeMarker

/-- The log entry that announces a fallback. -/
def fallBackEntry : LogEntry :=
  ⟨.info, .monitor,
    "Timed out while waiting for the target to become healthy, starting a fall back procedure"⟩

theorem fallBack_eq (monitor : Monitor) :
    monitor.fallBack = .ask (.log fallBackEntry) fun _ =>
      (Fallback.run monitor.layout monitor.revision).run >>= monitor.conclude := by
  refine congrArg (Program.ask _) (funext fun _ => congrArg (_ >>= ·) (funext fun result => ?_))
  match result with
  | .error failure => rfl
  | .ok .noCandidate => rfl
  | .ok (.restored _) => rfl

theorem runs_fallBack_iff :
    Runs monitor.fallBack trace ticked ↔
      ∃ result front back, trace = ⟨.log fallBackEntry, ()⟩ :: (front ++ back) ∧
        Runs (Fallback.run monitor.layout monitor.revision).run front result ∧
        Runs (monitor.conclude result) back ticked := by
  rw [fallBack_eq, runs_ask_iff]
  simp only [Program.runs_bind_iff]
  constructor
  · rintro ⟨_, _, htrace, result, front, back, rfl, hfront, hback⟩
    exact ⟨result, front, back, htrace, hfront, hback⟩
  · rintro ⟨result, front, back, htrace, hfront, hback⟩
    exact ⟨(), front ++ back, htrace, result, front, back, rfl, hfront, hback⟩

/-- What a sync does once it has read the active manifest. -/
def observe (monitor : Monitor) (now : Instant) :
    Except SyncFault Revision → Program Ticked
  | .error fault => .done (.error fault, monitor)
  | .ok observed =>
    if observed ≠ monitor.revision then
      .ask (.log ⟨.info, .monitor, mismatchText monitor.revision observed⟩) fun _ =>
        .done (.ok (.revisionMismatch monitor.revision observed), monitor)
    else
      .ask .probe fun healthy =>
        if healthy then (monitor.begun now).retire
        else if monitor.isExpired (monitor.startedAt.getD now) now then (monitor.begun now).fallBack
        else .done (.ok .waiting, monitor.begun now)

theorem watch_eq (monitor : Monitor) (now : Instant) :
    monitor.watch now =
      (Sync.answered (.read monitor.layout.activeManifest) (sighting monitor.layout)).run >>=
        monitor.observe now := by
  rw [watch, readActiveRevision_eq_answered]
  refine congrArg (_ >>= ·) (funext fun result => ?_)
  cases result with
  | error fault => rfl
  | ok observed => rfl

theorem runs_watch_iff :
    Runs (monitor.watch now) trace ticked ↔
      ∃ answer rest, trace = ⟨.file (.read monitor.layout.activeManifest), answer⟩ :: rest ∧
        Runs (monitor.observe now (sighting monitor.layout answer)) rest ticked := by
  rw [watch_eq, Program.runs_bind_iff]
  constructor
  · rintro ⟨result, front, back, rfl, hread, hrest⟩
    obtain ⟨answer, rfl, rfl⟩ := Sync.runs_answered_iff.mp hread
    exact ⟨answer, back, rfl, hrest⟩
  · rintro ⟨answer, rest, rfl, hrest⟩
    exact ⟨_, [_], rest, rfl, Sync.runs_answered_iff.mpr ⟨answer, rfl, rfl⟩, hrest⟩

/-! ## Removing the marker -/

/-- What the removal of the marker after a fallback can exchange. -/
inductive Cleaned (monitor : Monitor) : List Exchange → Ticked → Prop where
  /-- The marker cannot be removed. -/
  | failed {answer : Except FileFault Unit} {fault : SyncFault}
      (hremoval : Sync.removal monitor.layout.selfMarker answer = .error fault) :
      Cleaned monitor [⟨.file (.remove monitor.layout.selfMarker), answer⟩]
        (.error fault, monitor)
  /-- The marker is gone, whether or not it was there. -/
  | gone {answer : Except FileFault Unit} {removed : Bool} {logs : List Exchange}
      (hremoval : Sync.removal monitor.layout.selfMarker answer = .ok removed)
      (hlogs : ∀ exchange ∈ logs, exchange.IsLog) :
      Cleaned monitor (⟨.file (.remove monitor.layout.selfMarker), answer⟩ :: logs)
        (.ok .fellBack, monitor.afterFallback true)

theorem cleaned_of_runs (hruns : Runs monitor.removeMarker trace ticked) :
    Cleaned monitor trace ticked := by
  rw [removeMarker, Sync.removeIfExists_eq_answered, Program.runs_bind_iff] at hruns
  obtain ⟨result, front, back, rfl, hremove, hrest⟩ := hruns
  obtain ⟨answer, rfl, rfl⟩ := Sync.runs_answered_iff.mp hremove
  cases hremoval : Sync.removal monitor.layout.selfMarker answer with
  | error fault =>
      rw [hremoval] at hrest
      obtain ⟨rfl, rfl⟩ := Program.runs_pure_iff.mp hrest
      exact .failed hremoval
  | ok removed =>
      rw [hremoval] at hrest
      cases removed with
      | false =>
          obtain ⟨rfl, rfl⟩ := Program.runs_pure_iff.mp hrest
          exact .gone hremoval (by simp)
      | true =>
          obtain ⟨_, rest, rfl, hdone⟩ := runs_request_bind_iff.mp hrest
          obtain ⟨rfl, rfl⟩ := Program.runs_pure_iff.mp hdone
          exact .gone hremoval (List.forall_mem_singleton.mpr ⟨_, rfl⟩)

/-! ## Promoting and falling back -/

/-- Promoting touches neither the active manifest nor the monitor. -/
theorem retired_of_runs (hruns : Runs monitor.retire trace ticked) :
    (∀ exchange ∈ trace, Promotion.Links monitor.layout monitor.revision exchange.request ∨
        exchange.request = .file (.remove monitor.layout.selfMarker)) ∧
      (ticked = (.ok .retired, monitor) ∨ ∃ fault, ticked = (.error fault, monitor)) := by
  obtain ⟨answer, rest, rfl, hpromote⟩ := runs_request_bind_iff.mp hruns
  obtain ⟨result, front, back, rfl, hfront, hback⟩ := Program.runs_bind_iff.mp hpromote
  have hasks := Promotion.promote_asks.request_of_mem hfront
  have hback : back = [] ∧
      (ticked = (.ok .retired, monitor) ∨ ∃ fault, ticked = (.error fault, monitor)) := by
    cases result with
    | ok value =>
        obtain ⟨rfl, rfl⟩ := Program.runs_pure_iff.mp hback
        exact ⟨rfl, Or.inl rfl⟩
    | error fault =>
        obtain ⟨rfl, rfl⟩ := Program.runs_pure_iff.mp hback
        exact ⟨rfl, Or.inr ⟨fault, rfl⟩⟩
  obtain ⟨rfl, hticked⟩ := hback
  refine ⟨?_, hticked⟩
  rw [List.append_nil]
  rintro exchange (_ | ⟨_, hmem⟩)
  · exact Or.inl (.log _)
  · exact hasks exchange hmem

/-- What falling back can exchange, behind the log entry that announces it. -/
inductive FellBack (monitor : Monitor) : List Exchange → Ticked → Prop where
  /-- The fallback fails, and the monitor is as before. -/
  | failed {trace : List Exchange} {fault : SyncFault}
      (hcourse : Fallback.Course monitor.layout monitor.revision trace (.error fault)) :
      FellBack monitor trace (.error fault, monitor)
  /-- There is nothing to fall back to, and the monitor is as before. -/
  | noCandidate {trace : List Exchange}
      (hcourse : Fallback.Course monitor.layout monitor.revision trace (.ok .noCandidate)) :
      FellBack monitor trace (.ok .noFallbackCandidate, monitor)
  /-- A manifest is restored, and the removal of the marker follows at once. -/
  | restored {front back : List Exchange} {failed : Revision} {ticked : Ticked}
      (hcourse : Fallback.Course monitor.layout monitor.revision front (.ok (.restored failed)))
      (hcleaned : Cleaned (monitor.afterFallback false) back ticked) :
      FellBack monitor (front ++ back) ticked

theorem fellBack_of_runs (hruns : Runs monitor.fallBack trace ticked) :
    ∃ entry rest, trace = ⟨.log entry, ()⟩ :: rest ∧
      (∃ answer others,
        rest = ⟨.file (.stat monitor.layout.lastKnownGood), answer⟩ :: others) ∧
      FellBack monitor rest ticked := by
  obtain ⟨result, front, back, rfl, hfront, hback⟩ := runs_fallBack_iff.mp hruns
  obtain ⟨looked, others, hlook⟩ := Fallback.look_of_runs hfront
  refine ⟨_, front ++ back, rfl, ⟨looked, others ++ back, by rw [hlook]; rfl⟩, ?_⟩
  have hcourse := Fallback.course_of_runs hfront
  match result with
  | .error fault =>
      obtain ⟨rfl, rfl⟩ := Program.runs_pure_iff.mp hback
      rw [List.append_nil]
      exact .failed hcourse
  | .ok .noCandidate =>
      obtain ⟨rfl, rfl⟩ := Program.runs_pure_iff.mp hback
      rw [List.append_nil]
      exact .noCandidate hcourse
  | .ok (.restored _) => exact .restored hcourse (cleaned_of_runs hback)

/-! ## The sync -/

/-- What a sync at a time can exchange, with the result and the monitor after
it. -/
inductive Course (monitor : Monitor) (now : Instant) : List Exchange → Ticked → Prop where
  /-- A fallback has been completed before. -/
  | finished (hphase : monitor.phase = .fellBack true) :
      Course monitor now [] (.ok .finished, monitor)
  /-- A manifest has been restored before, but the marker is still to be
  removed. -/
  | cleaning {trace : List Exchange} {ticked : Ticked}
      (hphase : monitor.phase = .fellBack false) (hcleaned : Cleaned monitor trace ticked) :
      Course monitor now trace ticked
  /-- The active manifest shows no revision. -/
  | unseen {answer : Except FileFault Bytes} {fault : SyncFault}
      (hphase : monitor.phase = .watching)
      (hsighting : sighting monitor.layout answer = .error fault) :
      Course monitor now [⟨.file (.read monitor.layout.activeManifest), answer⟩]
        (.error fault, monitor)
  /-- The active manifest is of another revision. -/
  | stale {answer : Except FileFault Bytes} {observed : Revision} {entry : LogEntry}
      (hphase : monitor.phase = .watching)
      (hsighting : sighting monitor.layout answer = .ok observed)
      (hstale : observed ≠ monitor.revision) :
      Course monitor now
        [⟨.file (.read monitor.layout.activeManifest), answer⟩, ⟨.log entry, ()⟩]
        (.ok (.revisionMismatch monitor.revision observed), monitor)
  /-- The target is healthy. -/
  | healthy {answer : Except FileFault Bytes} {rest : List Exchange} {ticked : Ticked}
      (hphase : monitor.phase = .watching)
      (hsighting : sighting monitor.layout answer = .ok monitor.revision)
      (hretire : Runs (monitor.begun now).retire rest ticked) :
      Course monitor now
        (⟨.file (.read monitor.layout.activeManifest), answer⟩ :: ⟨.probe, true⟩ :: rest) ticked
  /-- The grace period has not passed. -/
  | waiting {answer : Except FileFault Bytes}
      (hphase : monitor.phase = .watching)
      (hsighting : sighting monitor.layout answer = .ok monitor.revision)
      (hwithin : monitor.isExpired (monitor.startedAt.getD now) now = false) :
      Course monitor now
        [⟨.file (.read monitor.layout.activeManifest), answer⟩, ⟨.probe, false⟩]
        (.ok .waiting, monitor.begun now)
  /-- The grace period has passed. -/
  | expired {answer : Except FileFault Bytes} {entry : LogEntry} {rest : List Exchange}
      {ticked : Ticked}
      (hphase : monitor.phase = .watching)
      (hsighting : sighting monitor.layout answer = .ok monitor.revision)
      (hexpired : monitor.isExpired (monitor.startedAt.getD now) now = true)
      (hlook : ∃ answer others,
        rest = ⟨.file (.stat monitor.layout.lastKnownGood), answer⟩ :: others)
      (hfallback : FellBack (monitor.begun now) rest ticked) :
      Course monitor now
        (⟨.file (.read monitor.layout.activeManifest), answer⟩ :: ⟨.probe, false⟩ ::
          ⟨.log entry, ()⟩ :: rest) ticked

private theorem course_of_runs_watch (hphase : monitor.phase = .watching)
    (hruns : Runs (monitor.watch now) trace ticked) : Course monitor now trace ticked := by
  obtain ⟨answer, rest, rfl, hrest⟩ := runs_watch_iff.mp hruns
  cases hsighting : sighting monitor.layout answer with
  | error fault =>
      rw [hsighting] at hrest
      obtain ⟨rfl, rfl⟩ := runs_done_iff.mp hrest
      exact .unseen hphase hsighting
  | ok observed =>
      rw [hsighting] at hrest
      by_cases hsame : observed = monitor.revision
      -- from here on the grace period has begun, whatever follows
      · subst hsame
        simp only [observe, ne_eq, not_true_eq_false, if_false] at hrest
        obtain ⟨healthy, rest, rfl, hprobed⟩ := runs_ask_iff.mp hrest
        cases healthy with
        | true => exact .healthy hphase hsighting hprobed
        | false =>
            simp only [Bool.false_eq_true, if_false] at hprobed
            by_cases hexpired : monitor.isExpired (monitor.startedAt.getD now) now = true
            · rw [if_pos hexpired] at hprobed
              obtain ⟨entry, others, rfl, hlook, hfallback⟩ := fellBack_of_runs hprobed
              exact .expired hphase hsighting hexpired hlook hfallback
            · rw [if_neg hexpired] at hprobed
              obtain ⟨rfl, rfl⟩ := runs_done_iff.mp hprobed
              exact .waiting hphase hsighting (by simpa using hexpired)
      · simp only [observe, ne_eq, hsame, not_false_eq_true, if_true] at hrest
        obtain ⟨_, rest, rfl, hdone⟩ := runs_ask_iff.mp hrest
        obtain ⟨rfl, rfl⟩ := runs_done_iff.mp hdone
        exact .stale hphase hsighting hsame

/-- Every sync takes one of the courses. -/
theorem course_of_runs (hruns : Runs (monitor.tickAt now) trace ticked) :
    Course monitor now trace ticked := by
  unfold tickAt at hruns
  cases hphase : monitor.phase with
  | watching =>
      rw [hphase] at hruns
      exact course_of_runs_watch hphase hruns
  | fellBack markerRemoved =>
      rw [hphase] at hruns
      cases markerRemoved with
      | true =>
          obtain ⟨rfl, rfl⟩ := Program.runs_pure_iff.mp hruns
          exact .finished hphase
      | false => exact .cleaning hphase (cleaned_of_runs hruns)

end Monitor

end RevisionGuard
