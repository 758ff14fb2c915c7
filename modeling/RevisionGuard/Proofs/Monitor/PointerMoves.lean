import RevisionGuard.Proofs.Archive.Previous
import RevisionGuard.Proofs.Layout.Targets
import RevisionGuard.Proofs.Monitor.Health
import RevisionGuard.Proofs.Pointer.Warrant
import Mathlib.Tactic.Common

/-!
# The pointer moves for a reason only

Every operation of a sync that makes a link or removes the pointer has its warrant in
what the sync has exchanged before it (`Monitor.warranted_tickAt`), whatever the files
answer.  The answers need not fit together: a pointer may appear between two looks and
vanish again.  Over a run the grace period is that of the first tick that saw the
revision (`Ticks.pointer_moves`).

So a timeout never replaces a pointer that was seen, since the reason to adopt a
revision is that every look so far found nothing; and what was seen to be a directory
is never removed, since the last look before a removal found a file, or nothing.
-/

namespace RevisionGuard

open Program

section

variable {layout : Layout} {revision : Revision} {late : Prop} {past : List Exchange}

/-- The watched revision was seen, and its target was found unhealthy. -/
structure Unhealthy (layout : Layout) (revision : Revision) (past : List Exchange) : Prop where
  shows : ShowsRevision layout revision past
  probes : probes past = [false]

theorem Unhealthy.append {more : List Exchange} (hunhealthy : Unhealthy layout revision past)
    (hquiet : Quiet layout more) : Unhealthy layout revision (past ++ more) := by
  refine ⟨hunhealthy.shows.append more, ?_⟩
  rw [probes_append, hunhealthy.probes, hquiet.probes, List.append_nil]

/-- The listing of the archive and what is logged about its entries. -/
theorem quiet_search {answer : Except FileFault (List DirEntry)} {logs : List Exchange}
    (hlogs : ∀ exchange ∈ logs, exchange.request.IsLog) :
    Quiet layout (⟨.file (.list layout.resourcesDir), answer⟩ :: logs) := by
  have hlist : Quiet layout [⟨.file (.list layout.resourcesDir), answer⟩] := quiet_file (by simp)
  exact hlist.append (quiet_of_isLog hlogs)

namespace Fallback

/-- What a search of the archive exchanges that finds a revision: the listing, and what
is logged about its entries. -/
theorem searched_of_runs {search : List Exchange} {previous : Revision}
    (hruns : Runs (Archive.previousRevision layout).run search (.ok (some previous))) :
    ∃ entries found logs,
      search = ⟨.file (.list layout.resourcesDir), .ok entries⟩ :: logs ∧
        Runs (Archive.revisions layout entries).run logs (.ok found) ∧
        Archive.secondGreatest found = some previous := by
  simp only [Archive.previousRevision, Sync.file_eq_answered] at hruns
  obtain ⟨answer, rest, rfl, hrest⟩ := Sync.runs_answered_bind_iff.mp hruns
  cases answer with
  | error fault => cases hrest.2
  | ok entries =>
      rcases Sync.runs_bind_iff.mp hrest with ⟨fault, -, hresult⟩ | ⟨found, logs, _, rfl, hlogs, hdone⟩
      · cases hresult
      · obtain ⟨rfl, hresult⟩ := Sync.runs_pure_iff.mp hdone
        rw [List.append_nil]
        exact ⟨entries, found, logs, rfl, hlogs, (Except.ok.inj hresult).symm⟩

/-- Adopting a revision moves the pointer once its manifest has been seen. -/
theorem warranted_adopt {previous : Revision} (hunhealthy : Unhealthy layout revision past)
    (hlate : late) (hsearched : Searched layout past previous) :
    Warranted (pointerWarrant layout revision late) past (adopt layout previous).run := by
  simp only [adopt, Sync.fileExists_eq_answered]
  refine Sync.warranted_answered_bind (pointerWarrant_of_spares trivial) fun seen found hseen => ?_
  cases found with
  | false => exact ⟨pointerWarrant_log, fun _ => trivial⟩
  | true =>
      obtain rfl := Sync.presence_eq_true_iff.mp hseen
      have hquiet : Quiet layout
          [⟨.file (.stat (layout.revisionedManifest previous)), .ok false⟩] := by
        refine quiet_file ?_
        rintro other ⟨⟩
        exact layout.revisionedManifest_same_lastKnownGood previous
      obtain ⟨hshows, hprobes⟩ := hunhealthy.append hquiet
      have hreason := LinkReason.adopted hshows hprobes hlate
        ⟨hsearched.append hquiet, List.mem_append_right _ (List.mem_singleton_self _)⟩
      refine Sync.warranted_bind ?_ fun _ _ _ => Program.warranted_pure _
      refine Sync.warranted_bind (Promotion.warranted_place hreason) fun _ _ _ => ?_
      exact ⟨pointerWarrant_log, fun _ => trivial⟩

/-- Making sure of the pointer moves it only where none was seen. -/
theorem warranted_ensurePointer {failed : Revision} (hunhealthy : Unhealthy layout revision past)
    (hlate : late) (hunlooked : looks layout.lastKnownGood past = []) :
    Warranted (pointerWarrant layout revision late) past (ensurePointer layout failed).run := by
  simp only [ensurePointer, Sync.fileExists_eq_answered]
  refine Sync.warranted_answered_bind (pointerWarrant_of_spares trivial) fun seen found hseen => ?_
  cases found with
  | true => exact Program.warranted_pure _
  | false =>
      have hmissing : IsMissing seen := Sync.presence_eq_false_iff.mp hseen
      have hlooked := hunhealthy.append (quiet_look hmissing)
      have hsearch : Warranted (pointerWarrant layout revision late)
          (past ++ [⟨.file (.stat layout.lastKnownGood), seen⟩])
          (Archive.previousRevision layout).run := by
        refine previousRevision_asks.warranted fun _ request hrequest => ?_
        cases hrequest with
        | log entry => exact pointerWarrant_log
        | list => exact pointerWarrant_of_spares trivial
      refine Sync.warranted_bind hsearch fun search previous hruns => ?_
      cases previous with
      | none => exact ⟨pointerWarrant_log, fun _ => trivial⟩
      | some previous =>
          obtain ⟨entries, kept, logs, rfl, hlogs, hsecond⟩ := searched_of_runs hruns
          have hquiet : Quiet layout (⟨.file (.list layout.resourcesDir), .ok entries⟩ :: logs) :=
            quiet_search ((revisions_asks entries).request_of_mem hlogs)
          have hfound : Searched layout (past ++ [⟨.file (.stat layout.lastKnownGood), seen⟩] ++
              (⟨.file (.list layout.resourcesDir), .ok entries⟩ :: logs)) previous := by
            refine ⟨?_, ?_, entries, kept, logs, by simp, hlogs, hsecond⟩
            · simp [looks_append]
            · rw [looks_append, looks_append, hunlooked]
              exact List.forall_mem_append.mpr ⟨by simpa using hmissing, hquiet.missing⟩
          have hunhealthy := hlooked.append hquiet
          -- a revision that is not older is adopted all the same, with a warning
          change Warranted _ _ (if failed ≤ previous then _ else _ : Sync Bool).run
          split
          · refine Sync.warranted_log_bind pointerWarrant_log ?_
            exact warranted_adopt (hunhealthy.append quiet_log) hlate (hfound.append quiet_log)
          · exact warranted_adopt hunhealthy hlate hfound

/-- Putting a manifest in place of the active one leaves the pointer alone. -/
theorem pointerWarrant_of_publishes {request : Request} (hpublishes : Publishes layout request) :
    pointerWarrant layout revision late past request := by
  cases hpublishes with
  | log entry => exact pointerWarrant_log
  | identity => exact pointerWarrant_of_not_file (by simp)
  | clear => exact pointerWarrant_of_spares layout.activeManifest_same_lastKnownGood
  | write text => exact pointerWarrant_of_spares trivial

theorem warranted_run {failed : Revision} (hunhealthy : Unhealthy layout revision past)
    (hlate : late) (hunlooked : looks layout.lastKnownGood past = []) :
    Warranted (pointerWarrant layout revision late) past (run layout failed).run := by
  refine Sync.warranted_bind (warranted_ensurePointer hunhealthy hlate hunlooked)
    fun _ ready _ => ?_
  cases ready with
  | false => exact Program.warranted_pure _
  | true =>
      simp only [if_true]
      -- from here on the pointer is only read
      refine Sync.warranted_bind ?_ fun _ pod _ => ?_
      · simp only [readCandidate, Sync.file_eq_answered]
        refine Sync.warranted_answered_bind (pointerWarrant_of_spares trivial)
          fun _ contents _ => ?_
        have hdecode : Asks (fun _ => False)
            (Sync.manifest layout.lastKnownGood (Pod.ofBytes contents)).run :=
          Sync.asks_manifest _ _
        exact hdecode.warranted (by simp)
      · refine Sync.warranted_bind ?_ fun _ uid _ => ?_
        · exact ⟨pointerWarrant_of_not_file (by simp), fun _ => trivial⟩
        · refine Sync.warranted_bind ?_ fun _ _ _ => Program.warranted_pure _
          exact (publish_asks _).warranted fun _ _ => pointerWarrant_of_publishes

end Fallback

namespace Monitor

variable (monitor : Monitor)

theorem warranted_removeMarker :
    Warranted (pointerWarrant monitor.layout revision late) past monitor.removeMarker := by
  rw [removeMarker, Sync.removeIfExists_eq_answered]
  refine Warranted.bind ?_ fun _ removal _ => ?_
  · have hspares := monitor.layout.selfMarker_same_lastKnownGood
    exact ⟨pointerWarrant_of_spares hspares, fun _ => trivial⟩
  · cases removal with
    | error fault => exact Program.warranted_pure _
    | ok removed =>
        cases removed with
        | false => exact Program.warranted_pure _
        | true => exact ⟨pointerWarrant_log, fun _ => trivial⟩

theorem warranted_conclude {outcome : Except SyncFault Fallback.Outcome} :
    Warranted (pointerWarrant monitor.layout revision late) past (monitor.conclude outcome) := by
  match outcome with
  | .error failure => exact Program.warranted_pure _
  | .ok .noCandidate => exact Program.warranted_pure _
  | .ok (.restored _) => exact warranted_removeMarker (monitor.afterFallback false)

theorem warranted_fallBack (hunhealthy : Unhealthy monitor.layout monitor.revision past)
    (hlate : late) (hunlooked : looks monitor.layout.lastKnownGood past = []) :
    Warranted (pointerWarrant monitor.layout monitor.revision late) past monitor.fallBack := by
  rw [fallBack_eq]
  refine ⟨pointerWarrant_log, fun _ => ?_⟩
  refine (Fallback.warranted_run (hunhealthy.append quiet_log) hlate ?_).bind
    fun _ _ _ => warranted_conclude monitor
  rw [looks_append, hunlooked]
  rfl

theorem warranted_retire (hshows : ShowsRevision monitor.layout monitor.revision past)
    (hprobes : probes past = [true]) :
    Warranted (pointerWarrant monitor.layout monitor.revision late) past monitor.retire := by
  refine ⟨pointerWarrant_log, fun _ => ?_⟩
  refine (Promotion.warranted_promote (hshows.append _) ?_).bind fun _ result _ => ?_
  · rw [probes_append, hprobes]
    rfl
  · cases result with
    | error fault => exact Program.warranted_pure _
    | ok value => exact Program.warranted_pure _

/-- Every request of a sync that moves the pointer is warranted. -/
theorem warranted_tickAt (now : Instant) :
    Warranted (pointerWarrant monitor.layout monitor.revision
      (monitor.isExpired (monitor.startedAt.getD now) now = true)) [] (monitor.tickAt now) := by
  unfold tickAt
  split
  next =>
    rw [watch_eq]
    refine Warranted.bind ?_ fun trace sighted hruns => ?_
    · exact ⟨pointerWarrant_of_spares trivial, fun _ => trivial⟩
    obtain ⟨answer, rfl, hsighting⟩ := Sync.runs_answered_iff.mp hruns
    rw [List.nil_append]
    cases sighted with
    | error fault => exact Program.warranted_pure _
    | ok observed =>
        by_cases hsame : observed = monitor.revision
        · subst hsame
          have hshows : ShowsRevision monitor.layout monitor.revision
              [⟨.file (.read monitor.layout.activeManifest), answer⟩] :=
            showsRevision_cons_iff.mpr hsighting.symm
          simp only [observe, ne_eq, not_true_eq_false, if_false]
          refine ⟨pointerWarrant_of_not_file (by simp), fun healthy => ?_⟩
          have hprobed := hshows.append [⟨.probe, healthy⟩]
          -- health decides first, and only then the time
          cases healthy with
          | true => exact warranted_retire (monitor.begun now) hprobed rfl
          | false =>
              simp only [Bool.false_eq_true, if_false]
              split
              next hexpired =>
                exact warranted_fallBack (monitor.begun now) ⟨hprobed, rfl⟩ hexpired rfl
              next => exact Program.warranted_pure _
        · simp only [observe, ne_eq, hsame, not_false_eq_true, if_true]
          exact ⟨pointerWarrant_log, fun _ => trivial⟩
  next => exact Program.warranted_pure _
  next => exact warranted_removeMarker monitor

end Monitor

end

/-- Whenever a sync makes a link, it is the pointer, and it leads to the watched revision
that was found healthy, or, behind the grace period and where no look found a pointer,
to the revision before the newest.  Whenever it removes the pointer, its last look found
a file there, and the target is healthy, or it found nothing right after a link could
not be made. -/
theorem Ticks.pointer_moves {layout : Layout} {revision : Revision}
    {timeout probeInterval : Duration} {front back : List Tick} {tick : Tick} {last : Monitor}
    {past behind : List Exchange} {call : FileCall} {answer : call.Answer}
    (hrun : Ticks (Monitor.fresh layout revision timeout probeInterval)
      (front ++ tick :: back) last)
    (htrace : tick.trace = past ++ ⟨.file call, answer⟩ :: behind) :
    PointerWarrant layout revision
        (∃ first, FirstSighting layout revision (front ++ [tick]) first ∧
          first.now.nanoseconds + timeout.nanoseconds < tick.now.nanoseconds) past call ∧
      (probes past = [false] →
        (call.removes layout.lastKnownGood = true ∨ ∃ target pointer,
          call = .symlink target pointer) →
        ∀ look ∈ looks layout.lastKnownGood past, IsMissing look) ∧
      (call.removes layout.lastKnownGood = true →
        (looks layout.lastKnownGood past).getLast? ≠ some (.ok true)) := by
  obtain ⟨middle, hfront, hback⟩ := append_iff.mp hrun
  obtain ⟨rfl, -⟩ := cons_iff.mp hback
  have hsettings := hfront.sameSettings
  have hlayout : tick.before.layout = layout := hsettings.layout
  have hrevision : tick.before.revision = revision := hsettings.revision
  have htimeout : tick.before.timeout = timeout := hsettings.timeout
  have hwarrant := (Monitor.warranted_tickAt tick.before tick.now).of_split tick.runs htrace call rfl
  rw [List.nil_append, hlayout, hrevision] at hwarrant
  refine ⟨hwarrant.imp fun hshows hexpired => ?_, fun hprobes hmoves => ?_, fun hremoves => ?_⟩
  · have hseen : ShowsRevision layout revision tick.trace := htrace ▸ hshows.append _
    obtain ⟨first, hfirst, hstarted⟩ := hfront.exists_firstSighting_getD rfl hseen
    rw [Monitor.isExpired_iff, hstarted, htimeout] at hexpired
    exact ⟨first, hfirst, hexpired⟩
  · obtain ⟨chosen, hreason⟩ := hwarrant.reason hmoves
    exact hreason.missing hprobes
  · exact (hwarrant.clear hremoves).1.not_directory

namespace Rehearsed

/-- The pointer of a healthy target leads to a manifest that was pruned. -/
def dangling : World :=
  { World.new (.scripted ⟨[
      ⟨.read, some layout.activeManifest, [.contents (manifest 8)]⟩,
      ⟨.stat, some layout.lastKnownGood, [.failure .noSuchEntry]⟩,
      ⟨.symlink, some layout.lastKnownGood, [.failure .entryExists, .done]⟩,
      ⟨.remove, some layout.lastKnownGood, [.done]⟩,
      ⟨.remove, some layout.selfMarker, [.done]⟩]⟩) .origin with health := .given [true] }

/-- An unhealthy target has no pointer, and the archive holds the watched revision and one
before it. -/
def unlinked : World :=
  World.new (.scripted ⟨[
    ⟨.read, some layout.activeManifest, [.contents (manifest 8)]⟩,
    ⟨.stat, some layout.lastKnownGood, [.failure .noSuchEntry]⟩,
    ⟨.list, some layout.resourcesDir, [.listing [⟨"kube-pod-7", true⟩, ⟨"kube-pod-8", true⟩]]⟩,
    ⟨.stat, some (layout.revisionedManifest 7), [.kind false]⟩,
    ⟨.symlink, some layout.lastKnownGood, [.done]⟩,
    ⟨.read, some layout.lastKnownGood, [.contents (manifest 7)]⟩,
    ⟨.remove, some layout.activeManifest, [.done]⟩,
    ⟨.write, some layout.activeManifest, [.done]⟩,
    ⟨.remove, some layout.selfMarker, [.done]⟩]⟩) .origin

/-- The first tick, which waits. -/
def waiting : Tick := Tick.inWorld unlinked monitor .origin

/-- A tick behind the grace period. -/
def adopting : Tick := Tick.inWorld unlinked (monitor.begun .origin) (instant 2)

theorem run_adopting :
    Ticks (Monitor.fresh layout 8 (.ofSeconds 1) (.ofSeconds 1)) ([waiting] ++ [adopting])
      adopting.after := by
  have hafter : monitor.begun .origin = waiting.after := by decide +kernel
  exact .cons rfl (.cons hafter (.nil _))

theorem adopting_falls_back :
    adopting.result = .ok .fellBack ∧
      FileCall.symlink (layout.revisionedManifest 7) layout.lastKnownGood ∈
        fileCalls adopting.trace := by
  dsimp only [adopting, Tick.inWorld]
  -- a merge sort does not compute, so the search has to be in sight to be replaced
  delta Monitor.tickAt Monitor.watch Monitor.fallBack Fallback.run Fallback.ensurePointer
    Archive.previousRevision
  rw [funext Archive.secondGreatest_eq]
  decide +kernel

end Rehearsed

/-- A dangling link is removed for the watched revision.  Behind the grace period a missing
link is made for the revision before it. -/
theorem Ticks.pointer_moves_rehearsed :
    (let tick := Tick.inWorld Rehearsed.dangling Rehearsed.monitor (Rehearsed.instant 3)
     tick.result = .ok .retired ∧ ∃ past answer behind chosen,
       tick.trace = past ++ ⟨.file (.remove Rehearsed.layout.lastKnownGood), answer⟩ :: behind ∧
       MayClear Rehearsed.layout past ∧
       LinkReason Rehearsed.layout 8
         (∃ first, FirstSighting Rehearsed.layout 8 [tick] first ∧
           first.now.nanoseconds + (Duration.ofSeconds 1).nanoseconds < tick.now.nanoseconds)
         past chosen) ∧
    (let tick := Rehearsed.adopting
     tick.result = .ok .fellBack ∧ ∃ past answer behind,
       tick.trace = past ++ ⟨.file (.symlink (Rehearsed.layout.revisionedManifest 7)
         Rehearsed.layout.lastKnownGood), answer⟩ :: behind ∧
       probes past = [false] ∧ Adoptable Rehearsed.layout past 7 ∧
       ∃ first, FirstSighting Rehearsed.layout 8 [Rehearsed.waiting, tick] first ∧
         first.now.nanoseconds + (Duration.ofSeconds 1).nanoseconds < tick.now.nanoseconds) := by
  constructor
  · intro tick
    have hrun : Ticks (Monitor.fresh Rehearsed.layout 8 (.ofSeconds 1) (.ofSeconds 1))
        ([] ++ tick :: []) tick.after := .cons rfl (.nil _)
    have hcall : FileCall.remove Rehearsed.layout.lastKnownGood ∈ fileCalls tick.trace := by
      decide +kernel
    obtain ⟨answer, hmem⟩ := mem_fileCalls_iff.mp hcall
    obtain ⟨past, behind, htrace⟩ := List.append_of_mem hmem
    obtain ⟨hmayClear, chosen, hreason⟩ :=
      (Ticks.pointer_moves hrun htrace).1.clear (Path.same_self _)
    exact ⟨by decide +kernel, past, answer, behind, chosen, htrace, hmayClear, hreason⟩
  · intro tick
    obtain ⟨hresult, hcall⟩ := Rehearsed.adopting_falls_back
    obtain ⟨answer, hmem⟩ := mem_fileCalls_iff.mp hcall
    obtain ⟨past, behind, htrace⟩ := List.append_of_mem hmem
    obtain ⟨-, chosen, htarget, hreason⟩ :=
      (Ticks.pointer_moves Rehearsed.run_adopting htrace).1.link _ _ rfl
    obtain rfl : 7 = chosen := Layout.revision_of_revisionedManifest (by decide) htarget
    -- the watched revision is another one
    cases hreason with
    | adopted _ hunhealthy hlate hadoptable =>
        exact ⟨hresult, past, answer, behind, htrace, hunhealthy, hadoptable, hlate⟩

end RevisionGuard
