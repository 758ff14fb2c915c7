import RevisionGuard.Proofs.Monitor.Ticks
import Mathlib.Tactic.Common

/-!
# A monitor falls back at most once

The manifest that a fallback restores may be of the watched revision again, so
nothing on disk keeps a monitor from falling back twice; only its phase does.
`Restoration` ties the phase to what has been exchanged so far: the monitor
watches exactly as long as no write has succeeded, and behind a successful write
there are only log entries and removals of the marker.  `Restoration.tick`
carries it over one tick, for each course of the tick, and `Restoration.run`
over a run.
-/

namespace RevisionGuard

/-- What may follow a successful write: a log entry, or a removal of the
marker. -/
def Exchange.Trails (layout : Layout) (exchange : Exchange) : Prop :=
  exchange.IsLog ∨ exchange.request = .file (.remove layout.selfMarker)

/-- A removal of the marker after which the marker is gone. -/
def Exchange.MarkerGone (layout : Layout) (exchange : Exchange) : Prop :=
  exchange = ⟨.file (.remove layout.selfMarker), .ok ()⟩ ∨
    ∃ fault : FileFault, fault.isNotFound = true ∧
      exchange = ⟨.file (.remove layout.selfMarker), .error fault⟩

variable {layout : Layout} {exchange : Exchange}

theorem Exchange.Trails.not_isWritten (htrails : exchange.Trails layout) :
    exchange.isWritten = false := by
  rcases htrails with hlog | hremove
  · exact hlog.not_isWritten
  · obtain ⟨request, answer⟩ := exchange
    obtain rfl : request = .file (.remove layout.selfMarker) := hremove
    rfl

theorem Exchange.MarkerGone.not_isLog (hgone : exchange.MarkerGone layout) :
    ¬ exchange.IsLog := by
  rcases hgone with rfl | ⟨fault, hfault, rfl⟩ <;> rintro ⟨entry, hentry⟩ <;> cases hentry

theorem Exchange.MarkerGone.not_isWritten (hgone : exchange.MarkerGone layout) :
    exchange.isWritten = false := by
  rcases hgone with rfl | ⟨fault, hfault, rfl⟩ <;> rfl

/-- A removal with this answer takes the marker away. -/
theorem Exchange.MarkerGone.removal {answer : Except FileFault Unit}
    (hgone : Exchange.MarkerGone layout ⟨.file (.remove layout.selfMarker), answer⟩) :
    ∃ removed, Sync.removal layout.selfMarker answer = .ok removed := by
  rcases hgone with hok | ⟨fault, hfault, herror⟩
  · cases hok
    exact ⟨true, rfl⟩
  · cases herror
    exact ⟨false, by rw [Sync.removal, if_pos hfault]⟩

namespace Monitor

variable {monitor : Monitor} {trace : List Exchange} {ticked : Ticked}

theorem Cleaned.trails (hcleaned : Cleaned monitor trace ticked) :
    ∀ exchange ∈ trace, exchange.Trails monitor.layout := by
  cases hcleaned with
  | failed hremoval => simp [Exchange.Trails]
  | gone hremoval hlogs =>
      rintro exchange (_ | ⟨_, hmem⟩)
      · exact Or.inr rfl
      · exact Or.inl (hlogs exchange hmem)

/-- The removal of the marker either fails and changes nothing, or completes
the fallback. -/
theorem Cleaned.result (hcleaned : Cleaned monitor trace ticked) :
    (ticked.2 = monitor ∧ ∃ fault, ticked.1 = .error fault) ∨
      ticked = (.ok .fellBack, monitor.afterFallback true) := by
  cases hcleaned with
  | failed hremoval => exact Or.inl ⟨rfl, _, rfl⟩
  | gone hremoval hlogs => exact Or.inr rfl

/-- A removal that takes the marker away completes the fallback, and only log
entries follow. -/
theorem Cleaned.of_markerGone (hcleaned : Cleaned monitor trace ticked)
    {front back : List Exchange} {removal : Exchange} (htrace : trace = front ++ removal :: back)
    (hgone : removal.MarkerGone monitor.layout) :
    (∀ exchange ∈ back, exchange.IsLog) ∧ ticked = (.ok .fellBack, monitor.afterFallback true) := by
  cases hcleaned with
  | @failed answer fault hremoval =>
      cases front with
      | nil =>
          cases htrace
          obtain ⟨removed, hremoved⟩ := hgone.removal
          rw [hremoved] at hremoval
          cases hremoval
      | cons first front => simp at htrace
  | @gone answer removed logs hremoval hlogs =>
      cases front with
      | nil =>
          cases htrace
          exact ⟨hlogs, rfl⟩
      | cons first front =>
          obtain ⟨rfl, rfl⟩ := List.cons.inj htrace
          exact absurd (hlogs removal (by simp)) hgone.not_isLog

/-! ## One tick -/

theorem FellBack.unwritten_or (hfellBack : FellBack monitor trace ticked) :
    (Unwritten trace ∧ ticked.2 = monitor) ∨
      ∃ front write back, trace = front ++ write :: back ∧ Unwritten front ∧
        write.isWritten = true ∧ Cleaned (monitor.afterFallback false) back ticked := by
  cases hfellBack with
  | failed hcourse =>
      rcases hcourse.unwritten_or with ⟨hunwritten, -⟩ | ⟨_, _, _, _, hresult⟩
      · exact Or.inl ⟨hunwritten, rfl⟩
      · cases hresult
  | noCandidate hcourse =>
      rcases hcourse.unwritten_or with ⟨hunwritten, -⟩ | ⟨_, _, _, _, hresult⟩
      · exact Or.inl ⟨hunwritten, rfl⟩
      · cases hresult
  | @restored _ back failed _ hcourse hcleaned =>
      rcases hcourse.unwritten_or with ⟨-, hother⟩ | ⟨front, text, rfl, hunwritten, -⟩
      · exact absurd rfl (hother failed)
      · exact Or.inr ⟨front, _, back, List.append_assoc .., hunwritten, rfl, hcleaned⟩

/-- A tick of a watching monitor either writes nothing and leaves it watching, or
writes once and goes on to remove the marker. -/
theorem Course.of_watching {now : Instant} (hcourse : Course monitor now trace ticked)
    (hphase : monitor.phase = .watching) :
    (Unwritten trace ∧ ticked.2.phase = .watching) ∨
      ∃ front write back, trace = front ++ write :: back ∧ Unwritten front ∧
        write.isWritten = true ∧
        Cleaned ((monitor.begun now).afterFallback false) back ticked := by
  cases hcourse with
  | finished hother => rw [hphase] at hother; cases hother
  | cleaning hother => rw [hphase] at hother; cases hother
  | unseen => exact Or.inl ⟨by simp [Unwritten, Exchange.isWritten], hphase⟩
  | stale => exact Or.inl ⟨by simp [Unwritten, Exchange.isWritten], hphase⟩
  | @healthy answer rest _ _ _ hretire =>
      obtain ⟨hasks, hticked⟩ := retired_of_runs hretire
      have hrest : Unwritten rest := by
        rintro ⟨request, answer⟩ hmem
        rcases hasks _ hmem with hlinks | hremove
        · exact (Fallback.Prepares.links _ hlinks).not_isWritten
        · obtain rfl : request = _ := hremove
          rfl
      have hfront : Unwritten [⟨.file (.read monitor.layout.activeManifest), answer⟩,
          ⟨.probe, true⟩] := by simp [Unwritten, Exchange.isWritten]
      refine Or.inl ⟨hfront.append hrest, ?_⟩
      rcases hticked with rfl | ⟨fault, rfl⟩ <;> exact hphase
  | waiting => exact Or.inl ⟨by simp [Unwritten, Exchange.isWritten], hphase⟩
  | @expired answer entry rest _ _ _ _ _ hfallback =>
      have hfront : Unwritten [⟨.file (.read monitor.layout.activeManifest), answer⟩,
          ⟨.probe, false⟩, ⟨.log entry, ()⟩] := by simp [Unwritten, Exchange.isWritten]
      rcases hfallback.unwritten_or with
        ⟨hunwritten, hafter⟩ | ⟨front, write, back, rfl, hunwritten, hwrite, hcleaned⟩
      · exact Or.inl ⟨hfront.append hunwritten, by rw [hafter]; exact hphase⟩
      · exact Or.inr ⟨_, write, back, by simp, hfront.append hunwritten, hwrite, hcleaned⟩

theorem Course.of_fellBack {now : Instant} (hcourse : Course monitor now trace ticked)
    (hphase : monitor.phase = .fellBack false) : Cleaned monitor trace ticked := by
  cases hcourse <;> simp_all

theorem Course.of_completed {now : Instant} (hcourse : Course monitor now trace ticked)
    (hphase : monitor.phase = .fellBack true) : trace = [] ∧ ticked = (.ok .finished, monitor) := by
  cases hcourse <;> simp_all

end Monitor

/-! ## A run -/

/-- What has been exchanged fits the phase. -/
structure Restoration (layout : Layout) (history : List Exchange) (phase : Phase) : Prop where
  phase_iff : phase = .watching ↔ Unwritten history
  trails : history.Pairwise fun earlier later =>
    earlier.isWritten = true → later.Trails layout

namespace Restoration

variable {history : List Exchange}

theorem of_fresh : Restoration layout [] .watching :=
  ⟨by simp [Unwritten], .nil⟩

/-- Behind a write that succeeded, only trailing exchanges keep the order. -/
private theorem trails_of_write {front back : List Exchange} {write : Exchange}
    (hfront : Unwritten front) (hback : ∀ exchange ∈ back, exchange.Trails layout) :
    (front ++ write :: back).Pairwise fun earlier later =>
      earlier.isWritten = true → later.Trails layout := by
  refine List.pairwise_append.mpr ⟨?_, List.pairwise_cons.mpr ⟨?_, ?_⟩, ?_⟩
  · exact List.pairwise_of_forall_mem_list fun earlier hearlier later _ hwritten => by
      rw [hfront earlier hearlier] at hwritten
      cases hwritten
  · exact fun later hlater _ => hback later hlater
  · exact List.pairwise_of_forall_mem_list fun earlier _ later hlater _ => hback later hlater
  · intro earlier hearlier later _ hwritten
    rw [hfront earlier hearlier] at hwritten
    cases hwritten

private theorem trails_of_unwritten (hunwritten : Unwritten history) :
    history.Pairwise fun earlier later => earlier.isWritten = true → later.Trails layout :=
  List.pairwise_of_forall_mem_list fun earlier hearlier later _ hwritten => by
    rw [hunwritten earlier hearlier] at hwritten
    cases hwritten

/-- A tick after a fallback adds what may follow the write, and stays behind
it. -/
private theorem tick_of_fellBack {tick : Tick} {markerRemoved : Bool}
    (hphase : tick.before.phase = .fellBack markerRemoved) :
    (∀ exchange ∈ tick.trace, exchange.Trails tick.before.layout) ∧
      tick.after.phase ≠ .watching := by
  cases markerRemoved with
  | true =>
      obtain ⟨htrace, hticked⟩ := tick.course.of_completed hphase
      have hafter : tick.after = tick.before := congrArg Prod.snd hticked
      rw [htrace, hafter, hphase]
      simp
  | false =>
      have hcleaned := tick.course.of_fellBack hphase
      refine ⟨hcleaned.trails, ?_⟩
      rcases hcleaned.result with ⟨hafter, -⟩ | hticked
      · rw [show tick.after = tick.before from hafter, hphase]
        simp
      · rw [show tick.after = tick.before.afterFallback true from congrArg Prod.snd hticked]
        simp [Monitor.afterFallback]

theorem tick {tick : Tick} (hrestoration : Restoration layout history tick.before.phase)
    (hlayout : tick.before.layout = layout) :
    Restoration layout (history ++ tick.trace) tick.after.phase := by
  cases hphase : tick.before.phase with
  | watching =>
      -- nothing has been written so far, so a write of this tick is the first
      have hhistory : Unwritten history := hrestoration.phase_iff.mp hphase
      rcases tick.course.of_watching hphase with
        ⟨hunwritten, hafter⟩ | ⟨front, write, back, htrace, hfront, hwrite, hcleaned⟩
      · have hall := hhistory.append hunwritten
        exact ⟨⟨fun _ => hall, fun _ => hafter⟩, trails_of_unwritten hall⟩
      · have hback : ∀ exchange ∈ back, exchange.Trails layout := hlayout ▸ hcleaned.trails
        have hafter : tick.after.phase ≠ .watching := by
          rcases hcleaned.result with ⟨hafter, -⟩ | hticked
          · rw [show tick.after = _ from hafter]
            simp [Monitor.afterFallback]
          · rw [show tick.after = _ from congrArg Prod.snd hticked]
            simp [Monitor.afterFallback]
        rw [htrace, ← List.append_assoc]
        refine ⟨⟨fun hwatching => absurd hwatching hafter, fun hunwritten => ?_⟩,
          trails_of_write (hhistory.append hfront) hback⟩
        rw [hunwritten write (by simp)] at hwrite
        cases hwrite
  | fellBack markerRemoved =>
      obtain ⟨htrails, hafter⟩ := tick_of_fellBack hphase
      rw [hlayout] at htrails
      refine ⟨⟨fun hwatching => absurd hwatching hafter, fun hunwritten => ?_⟩, ?_⟩
      · have hwatching := hrestoration.phase_iff.mpr fun exchange hmem =>
          hunwritten exchange (List.mem_append_left _ hmem)
        rw [hphase] at hwatching
        cases hwatching
      · refine List.pairwise_append.mpr ⟨hrestoration.trails, ?_, ?_⟩
        · exact List.pairwise_of_forall_mem_list fun _ _ later hlater _ => htrails later hlater
        · exact fun _ _ later hlater _ => htrails later hlater

theorem run {monitor last : Monitor} {ticks : List Tick} (hrun : Ticks monitor ticks last)
    (hrestoration : Restoration layout history monitor.phase) (hlayout : monitor.layout = layout) :
    Restoration layout (history ++ exchanges ticks) last.phase := by
  induction hrun generalizing history with
  | nil monitor => simpa [exchanges] using hrestoration
  | @cons monitor last tick ticks hbefore _ ih =>
      subst hbefore
      rw [exchanges_cons, ← List.append_assoc]
      exact ih (hrestoration.tick hlayout) (tick.course.sameSettings.layout.trans hlayout)

/-- At most one write of a history succeeds. -/
theorem countP_isWritten_le {phase : Phase} (hrestoration : Restoration layout history phase) :
    history.countP Exchange.isWritten ≤ 1 := by
  rw [List.countP_eq_length_filter]
  have hpairwise := hrestoration.trails.filter Exchange.isWritten
  match hkept : history.filter Exchange.isWritten with
  | [] => simp
  | [write] => simp
  | first :: second :: rest =>
      -- the second write would have to be a log entry or a removal
      rw [hkept] at hpairwise
      have hmem : ∀ exchange ∈ first :: second :: rest, exchange.isWritten = true := by
        intro exchange hexchange
        rw [← hkept] at hexchange
        exact (List.mem_filter.mp hexchange).2
      have htrails := List.rel_of_pairwise_cons hpairwise (by simp : second ∈ second :: rest)
        (hmem first (by simp))
      have hsecond := hmem second (by simp)
      rw [htrails.not_isWritten] at hsecond
      cases hsecond

end Restoration

/-! ## The end of a fallback -/

theorem Unwritten.false_of_mem {trace : List Exchange} {write : Exchange}
    (hunwritten : Unwritten trace) (hmem : write ∈ trace) (hwrite : write.isWritten = true) :
    False := by
  rw [hunwritten write hmem] at hwrite
  cases hwrite

/-- A removal of the marker that follows a successful write, in the tick of the
write or in a later one, completes the fallback if it takes the marker away. -/
theorem Tick.of_markerGone {tick : Tick} {history before after : List Exchange}
    {removal : Exchange} (hrestoration : Restoration layout history tick.before.phase)
    (hlayout : tick.before.layout = layout) (htrace : tick.trace = before ++ removal :: after)
    (hwritten : ¬ Unwritten (history ++ before)) (hgone : removal.MarkerGone layout) :
    tick.result = .ok .fellBack ∧ (∀ exchange ∈ after, exchange.IsLog) ∧
      tick.after.phase = .fellBack true := by
  subst hlayout
  cases hphase : tick.before.phase with
  | watching =>
      have hhistory : Unwritten history := hrestoration.phase_iff.mp hphase
      rcases tick.course.of_watching hphase with
        ⟨hunwritten, -⟩ | ⟨front, write, back, hsplit, hfront, hwrite, hcleaned⟩
      · rw [htrace] at hunwritten
        exact absurd (hhistory.append fun exchange hmem =>
          hunwritten exchange (List.mem_append_left _ hmem)) hwritten
      · -- The removal stands behind the write, since nothing in front of it was written.
        rw [htrace] at hsplit
        rcases List.append_eq_append_iff.mp hsplit with
          ⟨between, hbefore, -⟩ | ⟨between, -, hbetween⟩
        · refine absurd (hhistory.append fun exchange hmem => hfront exchange ?_) hwritten
          rw [hbefore]
          exact List.mem_append_left _ hmem
        · cases between with
          | nil =>
              obtain ⟨rfl, -⟩ := List.cons.inj hbetween
              rw [hgone.not_isWritten] at hwrite
              cases hwrite
          | cons first between =>
              obtain ⟨-, hback⟩ := List.cons.inj hbetween
              obtain ⟨hlogs, hticked⟩ := hcleaned.of_markerGone hback hgone
              obtain ⟨hresult, hafter⟩ := Prod.mk.inj hticked
              exact ⟨hresult, hlogs, by rw [hafter]; rfl⟩
  | fellBack markerRemoved =>
      cases markerRemoved with
      | true =>
          obtain ⟨hnil, -⟩ := tick.course.of_completed hphase
          rw [hnil] at htrace
          simp at htrace
      | false =>
          obtain ⟨hlogs, hticked⟩ := (tick.course.of_fellBack hphase).of_markerGone htrace hgone
          obtain ⟨hresult, hafter⟩ := Prod.mk.inj hticked
          exact ⟨hresult, hlogs, by rw [hafter]; rfl⟩

/-- Once a fallback is complete no tick does anything. -/
theorem Ticks.finished {monitor last : Monitor} {ticks : List Tick}
    (hrun : Ticks monitor ticks last) (hphase : monitor.phase = .fellBack true) :
    ∀ tick ∈ ticks, tick.result = .ok .finished ∧ tick.trace = [] := by
  induction hrun with
  | nil monitor => simp
  | @cons monitor last tick ticks hbefore _ ih =>
      subst hbefore
      obtain ⟨htrace, hticked⟩ := tick.course.of_completed hphase
      obtain ⟨hresult, hafter⟩ := Prod.mk.inj hticked
      rintro other (_ | ⟨_, hmem⟩)
      · exact ⟨hresult, htrace⟩
      · exact ih (hafter ▸ hphase) other hmem

/-- A tick that fails has changed the phase only if it wrote with success. -/
theorem Tick.not_unwritten_of_error {tick : Tick} {fault : SyncFault}
    (hresult : tick.result = .error fault) (hphase : tick.after.phase ≠ tick.before.phase) :
    ¬ Unwritten tick.trace := by
  intro hunwritten
  cases hbefore : tick.before.phase with
  | watching =>
      rcases tick.course.of_watching hbefore with
        ⟨-, hafter⟩ | ⟨front, write, back, htrace, -, hwrite, -⟩
      · exact hphase (hafter.trans hbefore.symm)
      · exact hunwritten.false_of_mem (by simp [htrace]) hwrite
  | fellBack markerRemoved =>
      cases markerRemoved with
      | true =>
          obtain ⟨-, hticked⟩ := tick.course.of_completed hbefore
          obtain ⟨-, hafter⟩ := Prod.mk.inj hticked
          exact hphase (by rw [hafter])
      | false =>
          rcases (tick.course.of_fellBack hbefore).result with ⟨hafter, -⟩ | hticked
          · exact hphase (by rw [show tick.after = tick.before from hafter])
          · obtain ⟨hok, -⟩ := Prod.mk.inj hticked
            rw [hok] at hresult
            cases hresult

/-- A monitor that starts afresh falls back at most once, whatever it is
answered.  At most one write succeeds; the monitor watches exactly as long as
none has; behind it there are only removals of the marker.  The first of them
that takes the marker away completes the fallback, and from then on nothing is
done.  A tick that fails keeps the phase unless it wrote. -/
theorem Ticks.single_fallback {layout : Layout} {revision : Revision}
    {timeout probeInterval : Duration} {ticks : List Tick} {last : Monitor}
    (hrun : Ticks (Monitor.fresh layout revision timeout probeInterval) ticks last) :
    (exchanges ticks).countP Exchange.isWritten ≤ 1 ∧
      (∀ front back, ticks = front ++ back →
        ∃ middle, Ticks (Monitor.fresh layout revision timeout probeInterval) front middle ∧
          Ticks middle back last ∧
          (middle.phase = .watching ↔ Unwritten (exchanges front))) ∧
      ((exchanges ticks).Pairwise fun earlier later =>
        earlier.isWritten = true → later.Trails layout) ∧
      (∀ front tick back before removal after,
        ticks = front ++ tick :: back → tick.trace = before ++ removal :: after →
        ¬ Unwritten (exchanges front ++ before) → removal.MarkerGone layout →
        tick.result = .ok .fellBack ∧ (∀ exchange ∈ after, exchange.IsLog) ∧
          ∀ later ∈ back, later.result = .ok .finished ∧ later.trace = []) ∧
      (∀ tick ∈ ticks, (∃ fault, tick.result = .error fault) →
        tick.after.phase ≠ tick.before.phase → ¬ Unwritten tick.trace) := by
  have hstart : ∀ {front middle},
      Ticks (Monitor.fresh layout revision timeout probeInterval) front middle →
        Restoration layout (exchanges front) middle.phase :=
    fun hfront => Restoration.of_fresh.run hfront rfl
  refine ⟨(hstart hrun).countP_isWritten_le, ?_, (hstart hrun).trails, ?_, ?_⟩
  · rintro front back rfl
    obtain ⟨middle, hfront, hback⟩ := append_iff.mp hrun
    exact ⟨middle, hfront, hback, (hstart hfront).phase_iff⟩
  · rintro front tick back before removal after rfl htrace hwritten hgone
    obtain ⟨middle, hfront, hback⟩ := append_iff.mp hrun
    obtain ⟨rfl, hrest⟩ := cons_iff.mp hback
    obtain ⟨hresult, hlogs, hphase⟩ :=
      Tick.of_markerGone (hstart hfront) hfront.sameSettings.layout htrace hwritten hgone
    exact ⟨hresult, hlogs, hrest.finished hphase⟩
  · rintro tick - ⟨fault, hresult⟩ hphase
    exact Tick.not_unwritten_of_error hresult hphase

/-- The pointer leads to a manifest of the watched revision itself, and the
marker can only be removed at the second try. -/
def Rehearsed.fallbackRows : List Script.Row :=
  [
    ⟨.read, some Rehearsed.layout.activeManifest, [.contents (Rehearsed.manifest 8)]⟩,
    ⟨.stat, some Rehearsed.layout.lastKnownGood, [.kind false]⟩,
    ⟨.read, some Rehearsed.layout.lastKnownGood, [.contents (Rehearsed.manifest 8)]⟩,
    ⟨.remove, some Rehearsed.layout.activeManifest, [.done]⟩,
    ⟨.write, some Rehearsed.layout.activeManifest, [.done]⟩,
    ⟨.remove, some Rehearsed.layout.selfMarker,
      [.failure (.system 13), .failure .noSuchEntry]⟩]

theorem Ticks.single_fallback_rehearsed :
    ∃ last, Ticks Rehearsed.monitor (Rehearsed.ticks Rehearsed.fallbackRows [0, 2, 1, 9]) last ∧
      (Rehearsed.ticks Rehearsed.fallbackRows [0, 2, 1, 9]).map Tick.result =
        [.ok .waiting, .error (.file Rehearsed.layout.selfMarker (.system 13)), .ok .fellBack,
          .ok .finished] ∧
      (exchanges (Rehearsed.ticks Rehearsed.fallbackRows [0, 2, 1, 9])).countP
        Exchange.isWritten ≤ 1 ∧
      last.phase ≠ .watching := by
  obtain ⟨last, hrun⟩ := Rehearsed.run_ticks Rehearsed.fallbackRows [0, 2, 1, 9]
  obtain ⟨hcount, hphase, -⟩ := Ticks.single_fallback hrun
  refine ⟨last, hrun, by decide +kernel, hcount, fun hwatching => ?_⟩
  obtain ⟨middle, -, hlast, hiff⟩ := hphase _ [] (List.append_nil _).symm
  rw [Ticks.nil_iff] at hlast
  subst hlast
  have hwritten : (exchanges (Rehearsed.ticks Rehearsed.fallbackRows [0, 2, 1, 9])).any
      Exchange.isWritten = true := by decide +kernel
  obtain ⟨write, hmem, hwrite⟩ := List.any_eq_true.mp hwritten
  exact (hiff.mp hwatching).false_of_mem hmem hwrite

end RevisionGuard
