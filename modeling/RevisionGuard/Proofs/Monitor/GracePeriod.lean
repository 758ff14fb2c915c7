import RevisionGuard.Proofs.Monitor.Ticks
import RevisionGuard.Proofs.Program.Calls
import Mathlib.Tactic.Common

/-!
# The grace period

The grace period of a monitor begins with the first tick that reads the watched
revision from the active manifest, and nothing moves its beginning afterwards.
A tick that reads the revision and finds the target unhealthy goes on to a
fallback exactly if it comes later than the beginning and the timeout together,
added up as numbers: where the sum is beyond the end of the clock, no instant
comes later, and `Instant.add?` says so.
-/

namespace RevisionGuard

/-- The active manifest was read, first of all, and it carried the revision. -/
def ShowsRevision (layout : Layout) (revision : Revision) (trace : List Exchange) : Prop :=
  ∃ contents rest,
    trace = ⟨.file (.read layout.activeManifest), .ok contents⟩ :: rest ∧
      (Pod.ofBytes contents >>= Pod.revision) = .ok revision

/-- Whether the active manifest was read first of all and carried the
revision. -/
def showsRevision (layout : Layout) (revision : Revision) : List Exchange → Bool
  | ⟨.file (.read path), .ok contents⟩ :: _ =>
    path = layout.activeManifest &&
      decide ((Pod.ofBytes contents >>= Pod.revision) = .ok revision)
  | _ => false

theorem showsRevision_iff {layout : Layout} {revision : Revision} {trace : List Exchange} :
    showsRevision layout revision trace = true ↔ ShowsRevision layout revision trace := by
  constructor
  · intro hshows
    unfold showsRevision at hshows
    split at hshows
    · rename_i path contents rest
      simp only [Bool.and_eq_true, decide_eq_true_eq] at hshows
      obtain ⟨rfl, hread⟩ := hshows
      exact ⟨contents, rest, rfl, hread⟩
    · cases hshows
  · rintro ⟨contents, rest, rfl, hread⟩
    simp [showsRevision, hread]

instance (layout : Layout) (revision : Revision) (trace : List Exchange) :
    Decidable (ShowsRevision layout revision trace) :=
  decidable_of_iff _ showsRevision_iff

theorem ShowsRevision.append {layout : Layout} {revision : Revision} {trace : List Exchange}
    (hshows : ShowsRevision layout revision trace) (more : List Exchange) :
    ShowsRevision layout revision (trace ++ more) := by
  obtain ⟨contents, rest, rfl, hread⟩ := hshows
  exact ⟨contents, rest ++ more, rfl, hread⟩

/-- The tick is the first one of a run that saw the revision. -/
def FirstSighting (layout : Layout) (revision : Revision) (ticks : List Tick) (tick : Tick) :
    Prop :=
  ∃ front back, ticks = front ++ tick :: back ∧
    (∀ earlier ∈ front, ¬ ShowsRevision layout revision earlier.trace) ∧
    ShowsRevision layout revision tick.trace

namespace Monitor

variable {monitor : Monitor} {layout : Layout} {revision : Revision} {now started : Instant}
  {trace : List Exchange} {ticked : Ticked}

/-- What a trace shows that begins with the read of the active manifest. -/
theorem showsRevision_cons_iff {answer : Except FileFault Bytes} {rest : List Exchange} :
    ShowsRevision layout revision (⟨.file (.read layout.activeManifest), answer⟩ :: rest) ↔
      sighting layout answer = .ok revision := by
  cases answer with
  | error fault => simp [ShowsRevision, sighting]
  | ok contents =>
      cases hread : Pod.ofBytes contents >>= Pod.revision <;>
        simp [ShowsRevision, sighting, hread, Except.mapError]

/-! ## One tick -/

theorem Cleaned.startedAt (hcleaned : Cleaned monitor trace ticked) :
    ticked.2.startedAt = monitor.startedAt := by
  cases hcleaned <;> rfl

theorem Cleaned.not_showsRevision (hcleaned : Cleaned monitor trace ticked) :
    ¬ ShowsRevision layout revision trace := by
  rintro ⟨contents, rest, htrace, -⟩
  cases hcleaned with
  | failed => simp at htrace
  | gone => simp at htrace

theorem FellBack.startedAt (hfellBack : FellBack monitor trace ticked) :
    ticked.2.startedAt = monitor.startedAt := by
  cases hfellBack with
  | failed => rfl
  | noCandidate => rfl
  | restored _ hcleaned => exact hcleaned.startedAt

/-- A tick that sees the watched revision begins the grace period, unless it has
begun before. -/
theorem Course.startedAt_of_showsRevision (hcourse : Course monitor now trace ticked)
    (hshows : ShowsRevision monitor.layout monitor.revision trace) :
    ticked.2.startedAt = some (monitor.startedAt.getD now) := by
  cases hcourse with
  | finished =>
      obtain ⟨contents, rest, htrace, -⟩ := hshows
      cases htrace
  | cleaning _ hcleaned => exact absurd hshows hcleaned.not_showsRevision
  | unseen _ hsighting =>
      rw [showsRevision_cons_iff, hsighting] at hshows
      cases hshows
  | stale _ hsighting hstale =>
      rw [showsRevision_cons_iff, hsighting] at hshows
      exact absurd (Except.ok.inj hshows) hstale
  | healthy _ _ hretire =>
      rcases (retired_of_runs hretire).2 with rfl | ⟨fault, rfl⟩ <;> rfl
  | waiting => rfl
  | expired _ _ _ _ hfallback => exact hfallback.startedAt

/-- No other tick touches the beginning of the grace period. -/
theorem Course.startedAt_of_not_showsRevision (hcourse : Course monitor now trace ticked)
    (hshows : ¬ ShowsRevision monitor.layout monitor.revision trace) :
    ticked.2.startedAt = monitor.startedAt := by
  cases hcourse with
  | finished => rfl
  | cleaning _ hcleaned => exact hcleaned.startedAt
  | unseen => rfl
  | stale => rfl
  | healthy _ hsighting => exact absurd (showsRevision_cons_iff.mpr hsighting) hshows
  | waiting _ hsighting => exact absurd (showsRevision_cons_iff.mpr hsighting) hshows
  | expired _ hsighting => exact absurd (showsRevision_cons_iff.mpr hsighting) hshows

/-- A tick that sees the watched revision and finds the target unhealthy waits
within the grace period, and goes on to a fallback behind it. -/
theorem Course.of_unhealthy (hcourse : Course monitor now trace ticked)
    (hshows : ShowsRevision monitor.layout monitor.revision trace)
    (hunhealthy : ⟨.probe, false⟩ ∈ trace) :
    (monitor.isExpired (monitor.startedAt.getD now) now = false ∧
        fileCalls trace = [.read monitor.layout.activeManifest] ∧ ticked.1 = .ok .waiting) ∨
      (monitor.isExpired (monitor.startedAt.getD now) now = true ∧
        1 < (fileCalls trace).length) := by
  cases hcourse with
  | finished => cases hunhealthy
  | cleaning _ hcleaned => exact absurd hshows hcleaned.not_showsRevision
  | unseen => simp at hunhealthy
  | stale => simp at hunhealthy
  -- promoting does not probe again
  | @healthy answer rest _ _ _ hretire =>
      have hmem : (⟨.probe, false⟩ : Exchange) ∈ rest := by simpa using hunhealthy
      rcases (retired_of_runs hretire).1 _ hmem with hlinks | hremove
      · cases hlinks
      · cases hremove
  | waiting _ _ hwithin => exact Or.inl ⟨hwithin, rfl, rfl⟩
  | expired _ _ hexpired hlook =>
      obtain ⟨answer, others, rfl⟩ := hlook
      exact Or.inr ⟨hexpired, by simp [fileCalls]⟩

end Monitor

/-! ## A run -/

namespace Ticks

variable {monitor last : Monitor} {ticks : List Tick}

/-- As long as the watched revision is not seen, the grace period stays as it
was. -/
theorem startedAt_of_not_showsRevision (hrun : Ticks monitor ticks last)
    (hunseen : ∀ tick ∈ ticks, ¬ ShowsRevision monitor.layout monitor.revision tick.trace) :
    last.startedAt = monitor.startedAt := by
  induction hrun with
  | nil monitor => rfl
  | @cons monitor last tick ticks hbefore _ ih =>
      subst hbefore
      have hsettings := tick.course.sameSettings
      rw [← tick.course.startedAt_of_not_showsRevision (hunseen tick (by simp))]
      refine ih fun later hlater => ?_
      rw [hsettings.layout, hsettings.revision]
      exact hunseen later (List.mem_cons_of_mem _ hlater)

/-- A grace period that has begun keeps its beginning. -/
theorem startedAt_of_some (hrun : Ticks monitor ticks last) {started : Instant}
    (hstarted : monitor.startedAt = some started) : last.startedAt = some started := by
  refine hrun.induct (fun monitor => monitor.startedAt = some started)
    (fun tick hbefore => ?_) hstarted
  by_cases hshows : ShowsRevision tick.before.layout tick.before.revision tick.trace
  · rw [tick.course.startedAt_of_showsRevision hshows, hbefore]
    rfl
  · rw [tick.course.startedAt_of_not_showsRevision hshows, hbefore]

/-- The grace period begins with the first tick that sees the watched
revision. -/
theorem startedAt_of_firstSighting (hrun : Ticks monitor ticks last)
    (hstart : monitor.startedAt = none) {first : Tick}
    (hfirst : FirstSighting monitor.layout monitor.revision ticks first) :
    last.startedAt = some first.now := by
  obtain ⟨front, back, rfl, hfront, hshows⟩ := hfirst
  obtain ⟨middle, hbefore, hrest⟩ := append_iff.mp hrun
  obtain ⟨rfl, hafter⟩ := cons_iff.mp hrest
  have hsettings := hbefore.sameSettings
  have hunset := hbefore.startedAt_of_not_showsRevision hfront
  rw [← hsettings.layout, ← hsettings.revision] at hshows
  have hbegun := first.course.startedAt_of_showsRevision hshows
  rw [hunset, hstart] at hbegun
  exact hafter.startedAt_of_some hbegun

end Ticks

theorem FirstSighting.append {layout : Layout} {revision : Revision} {ticks more : List Tick}
    {first : Tick} (hfirst : FirstSighting layout revision ticks first) :
    FirstSighting layout revision (ticks ++ more) first := by
  obtain ⟨front, back, rfl, hfront, hshows⟩ := hfirst
  exact ⟨front, back ++ more, by simp, hfront, hshows⟩

/-- If the revision was seen at all, there is a first tick that saw it. -/
theorem exists_firstSighting {layout : Layout} {revision : Revision} {ticks : List Tick}
    (hseen : ∃ tick ∈ ticks, ShowsRevision layout revision tick.trace) :
    ∃ first, FirstSighting layout revision ticks first := by
  induction ticks with
  | nil => simp at hseen
  | cons tick ticks ih =>
      by_cases hshows : ShowsRevision layout revision tick.trace
      · exact ⟨tick, [], ticks, rfl, by simp, hshows⟩
      · obtain ⟨other, hmem, hother⟩ := hseen
        rcases List.mem_cons.mp hmem with rfl | hmem
        · exact absurd hother hshows
        obtain ⟨first, front, back, rfl, hfront, hfirst⟩ := ih ⟨other, hmem, hother⟩
        refine ⟨first, tick :: front, back, rfl, ?_, hfirst⟩
        rintro earlier (_ | ⟨_, hearlier⟩)
        exacts [hshows, hfront earlier hearlier]

namespace Ticks

/-- The beginning of the grace period at a tick that sees the watched revision
is the time of the first tick that did. -/
theorem exists_firstSighting_getD {monitor : Monitor} {front : List Tick} {tick : Tick}
    (hfront : Ticks monitor front tick.before) (hstart : monitor.startedAt = none)
    (hshows : ShowsRevision monitor.layout monitor.revision tick.trace) :
    ∃ first, FirstSighting monitor.layout monitor.revision (front ++ [tick]) first ∧
      tick.before.startedAt.getD tick.now = first.now := by
  by_cases hseen : ∃ earlier ∈ front,
      ShowsRevision monitor.layout monitor.revision earlier.trace
  · obtain ⟨first, hfirst⟩ := exists_firstSighting hseen
    refine ⟨first, hfirst.append, ?_⟩
    rw [hfront.startedAt_of_firstSighting hstart hfirst]
    rfl
  · have hunseen : ∀ earlier ∈ front,
        ¬ ShowsRevision monitor.layout monitor.revision earlier.trace :=
      fun earlier hmem hearlier => hseen ⟨earlier, hmem, hearlier⟩
    refine ⟨tick, ⟨front, [], rfl, hunseen, hshows⟩, ?_⟩
    rw [hfront.startedAt_of_not_showsRevision hunseen, hstart]
    rfl

/-- The grace period of a monitor that starts afresh begins with the first tick
that sees the watched revision and never moves.  Behind it, and only behind it,
a tick that sees the revision of an unhealthy target performs file operations
beyond the read of the active manifest; before it such a tick waits. -/
theorem grace_period {layout : Layout} {revision : Revision} {timeout probeInterval : Duration}
    {ticks : List Tick} {last : Monitor}
    (hrun : Ticks (Monitor.fresh layout revision timeout probeInterval) ticks last) :
    (∀ front back, ticks = front ++ back →
      ∃ middle, Ticks (Monitor.fresh layout revision timeout probeInterval) front middle ∧
        Ticks middle back last ∧
        ((∀ tick ∈ front, ¬ ShowsRevision layout revision tick.trace) →
          middle.startedAt = none) ∧
        ∀ first, FirstSighting layout revision front first →
          middle.startedAt = some first.now) ∧
      (∀ front tick back, ticks = front ++ tick :: back →
        ShowsRevision layout revision tick.trace → ⟨.probe, false⟩ ∈ tick.trace →
        ∃ first, FirstSighting layout revision (front ++ [tick]) first ∧
          (1 < (fileCalls tick.trace).length ↔
            first.now.nanoseconds + timeout.nanoseconds < tick.now.nanoseconds) ∧
          (¬ first.now.nanoseconds + timeout.nanoseconds < tick.now.nanoseconds →
            tick.result = .ok .waiting ∧
              fileCalls tick.trace = [.read layout.activeManifest])) := by
  constructor
  · rintro front back rfl
    obtain ⟨middle, hfront, hback⟩ := append_iff.mp hrun
    exact ⟨middle, hfront, hback, fun hunseen => hfront.startedAt_of_not_showsRevision hunseen,
      fun first hfirst => hfront.startedAt_of_firstSighting rfl hfirst⟩
  -- the tick takes one of two courses, and the beginning decides which
  · rintro front tick back rfl hshows hunhealthy
    obtain ⟨middle, hfront, hback⟩ := append_iff.mp hrun
    obtain ⟨rfl, -⟩ := cons_iff.mp hback
    obtain ⟨first, hfirst, hstarted⟩ := hfront.exists_firstSighting_getD rfl hshows
    have hsettings := hfront.sameSettings
    have htimeout : tick.before.timeout = timeout := hsettings.timeout
    have hlayout : tick.before.layout = layout := hsettings.layout
    have hrevision : tick.before.revision = revision := hsettings.revision
    have hexpired : tick.before.isExpired first.now tick.now = true ↔
        first.now.nanoseconds + timeout.nanoseconds < tick.now.nanoseconds := by
      rw [Monitor.isExpired_iff, htimeout]
    refine ⟨first, hfirst, ?_⟩
    rw [← hexpired]
    rcases tick.course.of_unhealthy (hlayout ▸ hrevision ▸ hshows) hunhealthy with
      ⟨hwithin, hcalls, hresult⟩ | ⟨hpast, hcalls⟩
    · rw [hstarted] at hwithin
      rw [hwithin, hcalls, hlayout]
      exact ⟨by simp, fun _ => ⟨hresult, rfl⟩⟩
    · rw [hstarted] at hpast
      rw [hpast]
      exact ⟨by simpa using hcalls, by simp⟩

end Ticks

/-- The active manifest cannot be read at first and is of another revision in
between; there is no archive to fall back to. -/
def Rehearsed.waitingRows : List Script.Row :=
  [
    ⟨.read, some Rehearsed.layout.activeManifest,
      [.failure .noSuchEntry, .contents (Rehearsed.manifest 8), .contents (Rehearsed.manifest 7),
        .contents (Rehearsed.manifest 8)]⟩,
    ⟨.stat, some Rehearsed.layout.lastKnownGood, [.failure .noSuchEntry]⟩,
    ⟨.list, some Rehearsed.layout.resourcesDir, [.listing []]⟩]

theorem Ticks.grace_period_rehearsed :
    ∃ last, Ticks Rehearsed.monitor (Rehearsed.ticks Rehearsed.waitingRows [9, 3, 1, 4, 5]) last ∧
      (Rehearsed.ticks Rehearsed.waitingRows [9, 3, 1, 4, 5]).map Tick.result =
        [.error (.file Rehearsed.layout.activeManifest .noSuchEntry), .ok .waiting,
          .ok (.revisionMismatch 8 7), .ok .waiting, .ok .noFallbackCandidate] ∧
      last.startedAt = Rehearsed.at? 3 := by
  obtain ⟨last, hrun⟩ := Rehearsed.run_ticks Rehearsed.waitingRows [9, 3, 1, 4, 5]
  refine ⟨last, hrun, by decide +kernel, ?_⟩
  obtain ⟨middle, -, hlast, -, hstarted⟩ :=
    (Ticks.grace_period hrun).1 _ [] (List.append_nil _).symm
  rw [Ticks.nil_iff] at hlast
  subst hlast
  refine hstarted _ ⟨[_], _, rfl, ?_, ?_⟩
  · decide +kernel
  · decide +kernel

end RevisionGuard
