import RevisionGuard.Proofs.Monitor.Health
import RevisionGuard.Proofs.Monitor.SingleFallback
import Mathlib.Tactic.Common

/-!
# Ticks after a terminal outcome

A terminal outcome tells the host not to sync again.  A fallback is also remembered
by the monitor itself: behind it no tick does anything.  A promotion is not, since
promoting may be repeated; a monitor that is synced again after it has retired goes on
watching, and the grace period that began before the promotion has gone on as well.
So a target that is healthy, then unhealthy and late is promoted and then replaced
(`Ticks.not_absorbs_rehearsed`).

`Tick.spares_or_late` says when a single tick may touch the active manifest at all;
`Ticks.after_terminal` says what is left of that behind a terminal outcome.
-/

namespace RevisionGuard

open Program

/-- Whether a tick ended with a terminal outcome. -/
def Tick.isTerminal (tick : Tick) : Bool :=
  match tick.result with
  | .ok outcome => outcome.isTerminal
  | .error _ => false

theorem Tick.isTerminal_iff {tick : Tick} :
    tick.isTerminal = true ↔ ∃ outcome, tick.result = .ok outcome ∧ outcome.isTerminal = true := by
  unfold isTerminal
  cases tick.result with
  | error fault => simp
  | ok outcome => simp

/-- Behind a terminal outcome no tick of a run removes or writes the active
manifest. -/
def Absorbs (layout : Layout) (ticks : List Tick) : Prop :=
  ticks.Pairwise fun earlier later => earlier.isTerminal = true →
    ∀ call ∈ fileCalls later.trace,
      call.removes layout.activeManifest = false ∧ call.writes layout.activeManifest = false

namespace Monitor

variable {monitor : Monitor} {now : Instant} {trace : List Exchange} {ticked : Ticked}

/-- A terminal outcome is that of a promotion, which follows a look at the watched
revision, or the monitor has completed a fallback. -/
theorem Course.of_terminal (hcourse : Course monitor now trace ticked) {outcome : TickOutcome}
    (hresult : ticked.1 = .ok outcome) (hterminal : outcome.isTerminal = true) :
    (outcome = .retired ∧ ShowsRevision monitor.layout monitor.revision trace) ∨
      (outcome ≠ .retired ∧ ticked.2.phase = .fellBack true) := by
  have hcleaned : ∀ {monitor : Monitor} {trace : List Exchange}, Cleaned monitor trace ticked →
      outcome ≠ .retired ∧ ticked.2.phase = .fellBack true := by
    intro monitor trace hcleaned
    rcases hcleaned.result with ⟨-, fault, herror⟩ | hgone
    · rw [herror] at hresult
      cases hresult
    · rw [hgone] at hresult ⊢
      cases hresult
      exact ⟨by decide, rfl⟩
  cases hcourse with
  | finished hphase =>
      cases hresult
      exact Or.inr ⟨by decide, hphase⟩
  | cleaning _ hremoved => exact Or.inr (hcleaned hremoved)
  | unseen => cases hresult
  | stale =>
      cases hresult
      cases hterminal
  | healthy _ hsighting hretire =>
      obtain ⟨hretired | ⟨fault, herror⟩, -⟩ := result_retire hretire
      · rw [hretired] at hresult
        exact Or.inl ⟨(Except.ok.inj hresult).symm, showsRevision_cons_iff.mpr hsighting⟩
      · rw [herror] at hresult
        cases hresult
  | waiting =>
      cases hresult
      cases hterminal
  | expired _ _ _ _ hfallback =>
      cases hfallback with
      | failed => cases hresult
      | noCandidate =>
          cases hresult
          cases hterminal
      | restored _ hremoved => exact Or.inr (hcleaned hremoved)

/-- The tick that completes a fallback says so, and so does every later one. -/
theorem Course.terminal_of_completed (hcourse : Course monitor now trace ticked)
    (hphase : ticked.2.phase = .fellBack true) :
    ticked.1 = .ok .fellBack ∨ ticked.1 = .ok .finished := by
  have hcleaned : ∀ {monitor : Monitor} {trace : List Exchange}, Cleaned monitor trace ticked →
      monitor.phase = .fellBack false → ticked.1 = .ok .fellBack := by
    intro monitor trace hcleaned hbefore
    rcases hcleaned.result with ⟨hkept, -⟩ | hgone
    · rw [hkept, hbefore] at hphase
      cases hphase
    · rw [hgone]
  cases hcourse with
  | finished => exact Or.inr rfl
  | cleaning hbefore hremoved => exact Or.inl (hcleaned hremoved hbefore)
  | unseen hbefore => cases hbefore.symm.trans hphase
  | stale hbefore => cases hbefore.symm.trans hphase
  | healthy hbefore _ hretire =>
      rw [(result_retire hretire).2] at hphase
      cases hbefore.symm.trans hphase
  | waiting hbefore => cases hbefore.symm.trans hphase
  | expired hbefore _ _ _ hfallback =>
      cases hfallback with
      | failed => cases hbefore.symm.trans hphase
      | noCandidate => cases hbefore.symm.trans hphase
      | restored _ hremoved => exact Or.inl (hcleaned hremoved rfl)

/-- Only a fallback that was complete before makes a tick say that there is nothing left
to do. -/
theorem Course.completed_of_finished (hcourse : Course monitor now trace ticked)
    (hresult : ticked.1 = .ok .finished) : monitor.phase = .fellBack true := by
  have hcleaned : ∀ {monitor : Monitor} {trace : List Exchange}, ¬ Cleaned monitor trace ticked := by
    intro monitor trace hcleaned
    rcases hcleaned.result with ⟨-, fault, herror⟩ | hgone
    · rw [hresult] at herror
      cases herror
    · rw [hgone] at hresult
      cases hresult
  cases hcourse with
  | finished hphase => exact hphase
  | cleaning _ hremoved => exact absurd hremoved hcleaned
  | unseen => cases hresult
  | stale => cases hresult
  | healthy _ _ hretire =>
      obtain ⟨hretired | ⟨fault, herror⟩, -⟩ := result_retire hretire
      · rw [hresult] at hretired
        cases hretired
      · rw [hresult] at herror
        cases herror
  | waiting => cases hresult
  | expired _ _ _ _ hfallback =>
      cases hfallback with
      | failed => cases hresult
      | noCandidate => cases hresult
      | restored _ hremoved => exact absurd hremoved hcleaned

end Monitor

/-- A tick leaves the active manifest alone, unless it is one of a watching monitor
that sees the watched revision of an unhealthy target behind the grace period. -/
theorem Tick.spares_or_late (tick : Tick) :
    Spares tick.before.layout.activeManifest tick.trace ∨
      (tick.before.phase = .watching ∧
        ShowsRevision tick.before.layout tick.before.revision tick.trace ∧
        probes tick.trace = [false] ∧
        (tick.before.startedAt.getD tick.now).nanoseconds + tick.before.timeout.nanoseconds <
          tick.now.nanoseconds) := by
  cases hphase : tick.before.phase with
  | fellBack markerRemoved =>
      left
      cases markerRemoved with
      | true =>
          obtain ⟨htrace, -⟩ := tick.course.of_completed hphase
          rw [htrace]
          exact spares_nil
      | false =>
          obtain ⟨hcalls, -⟩ := (tick.course.of_fellBack hphase).calls
          intro call hcall changed hchanged
          rw [hcalls, List.mem_singleton] at hcall
          subst hcall
          cases hchanged
          exact tick.before.layout.selfMarker_same_activeManifest
  | watching =>
      have hruns := tick.runs
      rw [Monitor.tickAt, hphase] at hruns
      obtain ⟨answer, rest, htrace, hobserve⟩ := Monitor.runs_watch_iff.mp hruns
      rw [htrace, spares_file_iff, Monitor.showsRevision_cons_iff]
      have hread : ∀ changed ∈ (FileCall.read tick.before.layout.activeManifest).changed?,
          changed.same tick.before.layout.activeManifest = false := by
        rintro changed ⟨⟩
      rcases Monitor.runs_observe hobserve with
        ⟨-, hcalls, -, -⟩ | ⟨hseen, healthy, behind, rfl, hdecided⟩
      · exact Or.inl ⟨hread, spares_of_fileCalls_nil hcalls⟩
      -- health decides first, and only then the time
      cases healthy with
      | true =>
          have hretire : Runs (tick.before.begun tick.now).retire behind
              (tick.result, tick.after) := hdecided
          have hspares := Monitor.spares_retire hretire
          exact Or.inl ⟨hread, spares_probe_iff.mpr hspares⟩
      | false =>
          simp only [Monitor.decided, Bool.false_eq_true, if_false] at hdecided
          split at hdecided
          next hexpired =>
            obtain ⟨hprobes, -⟩ := Monitor.calls_of_fallBack hdecided
            refine Or.inr ⟨rfl, hseen, ?_, Monitor.isExpired_iff.mp hexpired⟩
            rw [probes_file, probes_probe, hprobes]
          next =>
            obtain ⟨rfl, -⟩ := runs_done_iff.mp hdecided
            exact Or.inl ⟨hread, spares_probe_iff.mpr spares_nil⟩

/-- Behind a fallback no tick exchanges anything.  Behind a promotion a tick touches the
active manifest only to fall back: it sees the watched revision, the target is
unhealthy, nothing has been written before, and the grace period has passed, which
began no later than with the tick that promoted. -/
theorem Ticks.after_terminal {layout : Layout} {revision : Revision}
    {timeout probeInterval : Duration} {front back : List Tick} {tick : Tick} {last : Monitor}
    (hrun : Ticks (Monitor.fresh layout revision timeout probeInterval)
      (front ++ tick :: back) last)
    (hterminal : tick.isTerminal = true) :
    (tick.result ≠ .ok .retired →
        ∀ later ∈ back, later.result = .ok .finished ∧ later.trace = []) ∧
      (tick.result = .ok .retired →
        ∃ first, FirstSighting layout revision (front ++ [tick]) first ∧
          ∀ between later behind, back = between ++ later :: behind →
            Spares layout.activeManifest later.trace ∨
              (ShowsRevision layout revision later.trace ∧ probes later.trace = [false] ∧
                first.now.nanoseconds + timeout.nanoseconds < later.now.nanoseconds ∧
                Unwritten (exchanges (front ++ tick :: between)))) := by
  obtain ⟨outcome, hresult, houtcome⟩ := Tick.isTerminal_iff.mp hterminal
  obtain ⟨middle, hfront, hbehind⟩ := append_iff.mp hrun
  obtain ⟨rfl, hback⟩ := cons_iff.mp hbehind
  rcases tick.course.of_terminal hresult houtcome with ⟨rfl, hshows⟩ | ⟨hother, hphase⟩
  · refine ⟨fun hother => absurd hresult hother, fun _ => ?_⟩
    rw [show tick.before.layout = layout from hfront.sameSettings.layout,
      show tick.before.revision = revision from hfront.sameSettings.revision] at hshows
    obtain ⟨first, hfirst, -⟩ := hfront.exists_firstSighting_getD rfl hshows
    refine ⟨first, hfirst, ?_⟩
    rintro between later behind rfl
    -- the run up to the later tick, whose monitor has kept the beginning
    have hearlier : ∃ monitor, Ticks (Monitor.fresh layout revision timeout probeInterval)
        (front ++ tick :: between) monitor ∧ later.before = monitor := by
      obtain ⟨monitor, hbetween, hlater⟩ := append_iff.mp hback
      exact ⟨monitor, append_iff.mpr ⟨_, hfront, cons_iff.mpr ⟨rfl, hbetween⟩⟩,
        (cons_iff.mp hlater).1⟩
    obtain ⟨monitor, hearlier, rfl⟩ := hearlier
    have hsettings := hearlier.sameSettings
    have hlayout : later.before.layout = layout := hsettings.layout
    have hrevision : later.before.revision = revision := hsettings.revision
    have htimeout : later.before.timeout = timeout := hsettings.timeout
    have hstarted : later.before.startedAt = some first.now := by
      refine hearlier.startedAt_of_firstSighting rfl ?_
      have hmore : FirstSighting layout revision (front ++ [tick] ++ between) first :=
        hfirst.append
      rwa [List.append_assoc, List.singleton_append] at hmore
    rcases later.spares_or_late with hspares | ⟨hwatching, hseen, hprobes, hlate⟩
    · exact Or.inl (hlayout ▸ hspares)
    · refine Or.inr ⟨hlayout ▸ hrevision ▸ hseen, hprobes, ?_, ?_⟩
      · rw [hstarted, htimeout] at hlate
        exact hlate
      · have hrestoration := Restoration.of_fresh.run hearlier rfl
        exact hrestoration.phase_iff.mp hwatching
  · refine ⟨fun _ => hback.finished hphase, fun hretired => ?_⟩
    rw [hresult] at hretired
    exact absurd (Except.ok.inj hretired) hother

/-! ## A target that relapses -/

namespace Rehearsed

/-- A target that is healthy at the first probe only; the first promotion finds no
pointer, and the pointer that it makes leads to the manifest it was made for. -/
def relapsing : World :=
  { World.new (.scripted ⟨[
      ⟨.read, some layout.activeManifest, [.contents (manifest 8)]⟩,
      ⟨.stat, some layout.lastKnownGood, [.failure .noSuchEntry, .kind false]⟩,
      ⟨.symlink, some layout.lastKnownGood, [.done]⟩,
      ⟨.read, some layout.lastKnownGood, [.contents (manifest 8)]⟩,
      ⟨.remove, some layout.activeManifest, [.done]⟩,
      ⟨.write, some layout.activeManifest, [.done]⟩,
      ⟨.remove, some layout.selfMarker, [.done, .failure .noSuchEntry]⟩]⟩) .origin with
    health := .given [true, false] }

def relapse : List Tick := ticksInWorld relapsing monitor (times [0, 2, 3])

end Rehearsed

/-- A monitor that has retired falls back when the target is found unhealthy later. -/
theorem Ticks.not_absorbs_rehearsed :
    (∃ last, Ticks Rehearsed.monitor Rehearsed.relapse last) ∧
      Rehearsed.relapse.map Tick.result = [.ok .retired, .ok .fellBack, .ok .finished] ∧
      ¬ Absorbs Rehearsed.layout Rehearsed.relapse := by
  refine ⟨ticks_ticksInWorld .., by decide +kernel, ?_⟩
  unfold Absorbs
  decide +kernel

/-- The fallback comes more than the grace period after the tick that promoted, and the
tick behind it does nothing. -/
theorem Ticks.after_terminal_rehearsed :
    ∃ promoted restored idle, Rehearsed.relapse = [promoted, restored, idle] ∧
      (∃ first, FirstSighting Rehearsed.layout 8 [promoted] first ∧
        first.now.nanoseconds + (Duration.ofSeconds 1).nanoseconds < restored.now.nanoseconds) ∧
      probes restored.trace = [false] ∧ idle.result = .ok .finished ∧ idle.trace = [] := by
  obtain ⟨last, hrun⟩ := ticks_ticksInWorld Rehearsed.relapsing Rehearsed.monitor
    (Rehearsed.times [0, 2, 3])
  have hresults : Rehearsed.relapse.map Tick.result =
      [.ok .retired, .ok .fellBack, .ok .finished] := by decide +kernel
  have hremoves : (Rehearsed.relapse.map fun tick =>
      (fileCalls tick.trace).any (FileCall.removes Rehearsed.layout.activeManifest)) =
        [false, true, false] := by decide +kernel
  change Ticks (Monitor.fresh Rehearsed.layout 8 (.ofSeconds 1) (.ofSeconds 1))
    Rehearsed.relapse last at hrun
  obtain ⟨promoted, restored, idle, hticks⟩ :
      ∃ promoted restored idle, Rehearsed.relapse = [promoted, restored, idle] := ⟨_, _, _, rfl⟩
  rw [hticks] at hrun hresults hremoves
  simp only [List.map_cons, List.map_nil, List.cons.injEq, and_true] at hresults hremoves
  obtain ⟨hretired, hfellBack, -⟩ := hresults
  refine ⟨promoted, restored, idle, hticks, ?_⟩
  have hpromoted : promoted.isTerminal = true := Tick.isTerminal_iff.mpr ⟨_, hretired, rfl⟩
  have hrestored : restored.isTerminal = true := Tick.isTerminal_iff.mpr ⟨_, hfellBack, rfl⟩
  have hbehind : Ticks (Monitor.fresh Rehearsed.layout 8 (.ofSeconds 1) (.ofSeconds 1))
      ([promoted] ++ restored :: [idle]) last := hrun
  have hbegin : Ticks (Monitor.fresh Rehearsed.layout 8 (.ofSeconds 1) (.ofSeconds 1))
      ([] ++ promoted :: [restored, idle]) last := hrun
  obtain ⟨first, hfirst, hlater⟩ := (Ticks.after_terminal hbegin hpromoted).2 hretired
  have hidle := (Ticks.after_terminal hbehind hrestored).1 (by simp [hfellBack])
  rcases hlater [] restored [idle] rfl with hspares | ⟨-, hprobes, hlate, -⟩
  · obtain ⟨call, hcall, hremoved⟩ := List.any_eq_true.mp hremoves.2.1
    rw [hspares.not_removes hcall] at hremoved
    cases hremoved
  · exact ⟨⟨first, hfirst, hlate⟩, hprobes, hidle idle (by simp)⟩

end RevisionGuard
