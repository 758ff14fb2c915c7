import RevisionGuard.Proofs.Monitor.Terminal
import RevisionGuard.Schedule
import Mathlib.Tactic.Common

/-!
# A schedule makes whole syncs

What a schedule and the world can exchange, round by round (`Schedule.Rounds`).  A
round waits first; the answer to that is whether the program goes on, and it is asked
for nowhere else.  So a program that is told to end while a sync is going on ends
after that sync, or, where the sync was the last one anyway, with its outcome.
Nothing is said of when it is told to end, or of which comes first if the time to
sync and the end of the program come together: every answer to every wait is covered.

The count of rounds is only there for the recursion.  A schedule that has not used
all of them does the same with more (`Rounds.more`), and one that has used them all
is one that still runs.
-/

namespace RevisionGuard

open Program

/-- What is logged about a tick by the schedule. -/
def Tick.report (tick : Tick) : List Exchange :=
  match tick.result with
  | .ok _ => []
  | .error fault => [⟨.log ⟨.error, .runner, fault.message⟩, ()⟩]

theorem Tick.isLog_of_mem_report {tick : Tick} :
    ∀ exchange ∈ tick.report, exchange.IsLog := by
  unfold report
  cases tick.result with
  | ok outcome => simp
  | error fault => exact List.forall_mem_singleton.mpr ⟨_, rfl⟩

/-- What a round exchanges whose tick is made: the wait, the reading of the clock and
the tick. -/
def Tick.round (span : Duration) (tick : Tick) : List Exchange :=
  ⟨.pause span, true⟩ :: ⟨.clock, tick.now⟩ :: tick.trace

namespace Schedule

variable {span : Duration} {count : Nat} {monitor : Monitor} {ticks : List Tick}
  {trace : List Exchange} {ending : End TickOutcome}

/-- What a schedule can exchange in so many rounds, with the ticks that it makes and
its end. -/
inductive Rounds :
    Duration → Nat → Monitor → List Tick → List Exchange → End TickOutcome → Prop where
  | outOfRounds {span : Duration} {monitor : Monitor} : Rounds span 0 monitor [] [] .outOfRounds
  /-- The wait before a tick is cut short. -/
  | cancelled {span : Duration} {count : Nat} {monitor : Monitor} :
      Rounds span (count + 1) monitor [] [⟨.pause span, false⟩] .cancelled
  | reached {span : Duration} {count : Nat} {monitor : Monitor} {tick : Tick}
      {outcome : TickOutcome} (hbefore : tick.before = monitor)
      (hresult : tick.result = .ok outcome) (hterminal : outcome.isTerminal = true) :
      Rounds span (count + 1) monitor [tick] (tick.round span) (.reached outcome)
  /-- The tick fails, or there is more to wait for. -/
  | again {span : Duration} {count : Nat} {monitor : Monitor} {tick : Tick} {ticks : List Tick}
      {trace : List Exchange} {ending : End TickOutcome} (hbefore : tick.before = monitor)
      (hterminal : tick.isTerminal = false)
      (hrest : Rounds tick.after.probeInterval count tick.after ticks trace ending) :
      Rounds span (count + 1) monitor (tick :: ticks) (tick.round span ++ (tick.report ++ trace))
        ending

/-- What a schedule does behind a tick. -/
def behindTick (count : Nat) : Monitor.Ticked → Program (End TickOutcome)
  | (.ok outcome, monitor) =>
    if outcome.isTerminal then .done (.reached outcome)
    else rounds monitor.probeInterval count monitor
  | (.error fault, monitor) =>
    .ask (.log ⟨.error, .runner, fault.message⟩) fun _ =>
      rounds monitor.probeInterval count monitor

theorem rounds_succ (span : Duration) (count : Nat) (monitor : Monitor) :
    rounds span (count + 1) monitor =
      .ask (.pause span) fun goesOn =>
        if goesOn then .ask .clock fun now => monitor.tickAt now >>= behindTick count
        else .done .cancelled := by
  refine congrArg (Program.ask _) (funext fun goesOn => ?_)
  cases goesOn with
  | false => rfl
  | true =>
      refine congrArg (Program.ask _) (funext fun now => ?_)
      refine congrArg (monitor.tickAt now >>= ·) (funext fun ticked => ?_)
      obtain ⟨result, after⟩ := ticked
      cases result with
      | ok outcome => rfl
      | error fault => rfl

/-- Behind a tick the schedule ends with a terminal outcome, or it reports a failure
and goes on with the next round. -/
theorem runs_behindTick_iff {tick : Tick} :
    Runs (behindTick count (tick.result, tick.after)) trace ending ↔
      (∃ outcome, tick.result = .ok outcome ∧ outcome.isTerminal = true ∧ trace = [] ∧
        ending = .reached outcome) ∨
      (tick.isTerminal = false ∧ ∃ rest, trace = tick.report ++ rest ∧
        Runs (rounds tick.after.probeInterval count tick.after) rest ending) := by
  unfold behindTick Tick.isTerminal Tick.report
  cases tick.result with
  | error fault =>
      simp only [runs_ask_iff]
      constructor
      · rintro ⟨_, rest, rfl, hrest⟩
        exact Or.inr ⟨trivial, rest, rfl, hrest⟩
      · rintro (⟨_, hresult, -⟩ | ⟨-, rest, rfl, hrest⟩)
        · cases hresult
        · exact ⟨(), rest, rfl, hrest⟩
  | ok outcome =>
      cases hterminal : outcome.isTerminal with
      | true =>
          simp only [hterminal, if_true, runs_done_iff]
          constructor
          · rintro ⟨rfl, rfl⟩
            exact Or.inl ⟨outcome, rfl, hterminal, rfl, rfl⟩
          · rintro (⟨_, hresult, -, rfl, rfl⟩ | ⟨hnot, -⟩)
            · cases hresult
              exact ⟨rfl, rfl⟩
            · cases hnot
      | false =>
          simp only [hterminal, Bool.false_eq_true, if_false]
          constructor
          · intro hrest
            exact Or.inr ⟨trivial, trace, rfl, hrest⟩
          · rintro (⟨_, hresult, hother, -⟩ | ⟨-, rest, rfl, hrest⟩)
            · cases hresult
              rw [hterminal] at hother
              cases hother
            · exact hrest

theorem rounds_of_runs (hruns : Runs (rounds span count monitor) trace ending) :
    ∃ ticks, Rounds span count monitor ticks trace ending := by
  induction count generalizing span monitor trace with
  | zero =>
      obtain ⟨rfl, rfl⟩ := runs_done_iff.mp hruns
      exact ⟨[], .outOfRounds⟩
  | succ count ih =>
      rw [rounds_succ] at hruns
      obtain ⟨goesOn, rest, rfl, hrest⟩ := runs_ask_iff.mp hruns
      cases goesOn with
      | false =>
          obtain ⟨rfl, rfl⟩ := runs_done_iff.mp hrest
          exact ⟨[], .cancelled⟩
      | true =>
          obtain ⟨now, rest, rfl, htick⟩ := runs_ask_iff.mp hrest
          obtain ⟨⟨result, after⟩, made, behind, rfl, hmade, hbehind⟩ := runs_bind_iff.mp htick
          let tick : Tick := ⟨monitor, now, made, result, after, hmade⟩
          have hleft : Runs (behindTick count (tick.result, tick.after)) behind ending := hbehind
          rcases runs_behindTick_iff.mp hleft with
            ⟨outcome, hresult, hterminal, rfl, rfl⟩ | ⟨hterminal, rest, rfl, hrounds⟩
          · rw [List.append_nil]
            exact ⟨[tick], .reached rfl hresult hterminal⟩
          · obtain ⟨ticks, hticks⟩ := ih hrounds
            exact ⟨tick :: ticks, .again rfl hterminal hticks⟩

namespace Rounds

theorem runs (hrounds : Rounds span count monitor ticks trace ending) :
    Runs (Schedule.rounds span count monitor) trace ending := by
  induction hrounds with
  | outOfRounds => exact .done _
  | cancelled =>
      rw [rounds_succ]
      exact runs_ask_iff.mpr ⟨false, [], rfl, .done _⟩
  | @reached span count monitor tick outcome hbefore hresult hterminal =>
      subst hbefore
      rw [rounds_succ]
      refine runs_ask_iff.mpr ⟨true, _, rfl, runs_ask_iff.mpr ⟨tick.now, _, rfl, ?_⟩⟩
      have hbehind : Runs (behindTick count (tick.result, tick.after)) [] (.reached outcome) :=
        runs_behindTick_iff.mpr (Or.inl ⟨outcome, hresult, hterminal, rfl, rfl⟩)
      exact runs_bind_iff.mpr ⟨_, tick.trace, [], by simp, tick.runs, hbehind⟩
  | @again span count monitor tick ticks trace ending hbefore hterminal _ ih =>
      subst hbefore
      rw [rounds_succ]
      refine runs_ask_iff.mpr ⟨true, _, rfl, runs_ask_iff.mpr ⟨tick.now, _, rfl, ?_⟩⟩
      have hbehind : Runs (behindTick count (tick.result, tick.after)) (tick.report ++ trace)
          ending := runs_behindTick_iff.mpr (Or.inr ⟨hterminal, trace, rfl, ih⟩)
      exact runs_bind_iff.mpr ⟨_, tick.trace, _, rfl, tick.runs, hbehind⟩

/-- A schedule that has rounds left does the same with more of them. -/
theorem more (hrounds : Rounds span count monitor ticks trace ending)
    (hending : ending ≠ .outOfRounds) (extra : Nat) :
    Rounds span (count + extra) monitor ticks trace ending := by
  induction hrounds with
  | outOfRounds => exact absurd rfl hending
  | cancelled =>
      rw [Nat.add_right_comm]
      exact .cancelled
  | reached hbefore hresult hterminal =>
      rw [Nat.add_right_comm]
      exact .reached hbefore hresult hterminal
  | again hbefore hterminal _ ih =>
      rw [Nat.add_right_comm]
      exact .again hbefore hterminal (ih hending)

/-- The ticks of a schedule are a run: each starts from the monitor that the one before
left. -/
theorem inARow (hrounds : Rounds span count monitor ticks trace ending) :
    ∃ last, Ticks monitor ticks last := by
  induction hrounds with
  | outOfRounds => exact ⟨_, .nil _⟩
  | cancelled => exact ⟨_, .nil _⟩
  | reached hbefore => exact ⟨_, .cons hbefore (.nil _)⟩
  | again hbefore _ _ ih =>
      obtain ⟨last, hlast⟩ := ih
      exact ⟨last, .cons hbefore hlast⟩

/-- The file operations and the probes of a schedule are those of its ticks, in
order. -/
theorem calls_eq (hrounds : Rounds span count monitor ticks trace ending) :
    fileCalls trace = fileCalls (exchanges ticks) ∧ probes trace = probes (exchanges ticks) := by
  induction hrounds with
  | outOfRounds => exact ⟨rfl, rfl⟩
  | cancelled => exact ⟨rfl, rfl⟩
  | @reached span count monitor tick outcome =>
      have hone : exchanges [tick] = tick.trace := List.append_nil _
      rw [hone]
      exact ⟨rfl, rfl⟩
  | @again span count monitor tick ticks trace ending _ _ _ ih =>
      have hlogs := tick.isLog_of_mem_report
      have hfile : fileCalls (tick.round span ++ (tick.report ++ trace)) =
          fileCalls tick.trace ++ fileCalls trace := by
        rw [fileCalls_append, fileCalls_append, fileCalls_of_isLog hlogs]
        rfl
      have hprobes : probes (tick.round span ++ (tick.report ++ trace)) =
          probes tick.trace ++ probes trace := by
        rw [probes_append, probes_append, probes_of_isLog hlogs]
        rfl
      rw [hfile, hprobes, exchanges_cons, fileCalls_append, probes_append, ih.1, ih.2]
      exact ⟨rfl, rfl⟩

/-- How a schedule ends: with the outcome of its last tick if that is terminal, and
otherwise when a wait is cut short or no round is left.  No other tick is terminal. -/
theorem ending_cases (hrounds : Rounds span count monitor ticks trace ending) :
    match ending with
    | .reached outcome => outcome.isTerminal = true ∧ ∃ front tick, ticks = front ++ [tick] ∧
        tick.result = .ok outcome ∧ ∀ earlier ∈ front, earlier.isTerminal = false
    | .cancelled => (∀ tick ∈ ticks, tick.isTerminal = false) ∧
        ∃ front span, trace = front ++ [⟨.pause span, false⟩]
    | .outOfRounds => (∀ tick ∈ ticks, tick.isTerminal = false) ∧ ticks.length = count := by
  induction hrounds with
  | outOfRounds => exact ⟨by simp, rfl⟩
  | @cancelled span => exact ⟨by simp, [], span, rfl⟩
  | reached _ hresult hterminal => exact ⟨hterminal, [], _, rfl, hresult, by simp⟩
  | @again span count monitor tick ticks trace ending _ hterminal _ ih =>
      cases ending with
      | reached outcome =>
          obtain ⟨houtcome, front, last, rfl, hresult, hfront⟩ := ih
          exact ⟨houtcome, tick :: front, last, rfl, hresult,
            List.forall_mem_cons.mpr ⟨hterminal, hfront⟩⟩
      | cancelled =>
          obtain ⟨hticks, front, other, rfl⟩ := ih
          exact ⟨List.forall_mem_cons.mpr ⟨hterminal, hticks⟩,
            tick.round span ++ (tick.report ++ front), other, by simp⟩
      | outOfRounds =>
          obtain ⟨hticks, hlength⟩ := ih
          exact ⟨List.forall_mem_cons.mpr ⟨hterminal, hticks⟩, congrArg (· + 1) hlength⟩

theorem before_last (hrounds : Rounds span count monitor ticks trace ending) :
    ∀ tick ∈ ticks.dropLast, tick.isTerminal = false := by
  have hcases := hrounds.ending_cases
  cases ending with
  | reached outcome =>
      obtain ⟨-, front, last, rfl, -, hfront⟩ := hcases
      rw [List.dropLast_concat]
      exact hfront
  | cancelled => exact fun tick hmem => hcases.1 tick (List.dropLast_subset _ hmem)
  | outOfRounds => exact fun tick hmem => hcases.1 tick (List.dropLast_subset _ hmem)

theorem reached_iff (hrounds : Rounds span count monitor ticks trace ending)
    (outcome : TickOutcome) :
    ending = .reached outcome ↔
      outcome.isTerminal = true ∧
        ∃ tick, ticks.getLast? = some tick ∧ tick.result = .ok outcome := by
  have hcases := hrounds.ending_cases
  constructor
  · rintro rfl
    obtain ⟨hterminal, front, tick, rfl, hresult, -⟩ := hcases
    exact ⟨hterminal, tick, List.getLast?_concat .., hresult⟩
  · rintro ⟨hterminal, tick, hlast, hresult⟩
    have hmem : tick ∈ ticks := List.mem_of_getLast? hlast
    have hticked : tick.isTerminal = true := Tick.isTerminal_iff.mpr ⟨outcome, hresult, hterminal⟩
    -- any other end would have left no terminal tick, or another last one
    cases ending with
    | reached other =>
        obtain ⟨-, front, tick', rfl, hother, -⟩ := hcases
        rw [List.getLast?_concat] at hlast
        obtain rfl := Option.some.inj hlast
        rw [hresult] at hother
        rw [Except.ok.inj hother]
    | cancelled =>
        rw [hcases.1 tick hmem] at hticked
        cases hticked
    | outOfRounds =>
        rw [hcases.1 tick hmem] at hticked
        cases hticked

end Rounds

/-! ## The schedule -/

/-- The program is told to end at no wait before a moment of a trace, and at none at all
if there is no such moment. -/
def Heeds (moment : Option Nat) (trace : List Exchange) : Prop :=
  ∀ front span back, trace = front ++ ⟨.pause span, false⟩ :: back →
    ∃ told, moment = some told ∧ told ≤ front.length

/-- A schedule made these ticks, and nothing else of a sync, and it ended as the last of
them says. -/
structure WholeTicks (monitor : Monitor) (count : Nat) (trace : List Exchange)
    (ending : End TickOutcome) (ticks : List Tick) : Prop where
  inARow : ∃ last, Ticks monitor ticks last
  fileCalls_eq : fileCalls trace = fileCalls (exchanges ticks)
  probes_eq : probes trace = probes (exchanges ticks)
  /-- All ticks but the last fail or leave something to wait for. -/
  before_last : ∀ tick ∈ ticks.dropLast, tick.isTerminal = false
  reached_iff : ∀ outcome, ending = .reached outcome ↔
    outcome.isTerminal = true ∧ ∃ tick, ticks.getLast? = some tick ∧ tick.result = .ok outcome
  cancelled : ending = .cancelled → (∀ tick ∈ ticks, tick.isTerminal = false) ∧
    ∀ moment, Heeds moment trace → ∃ told, moment = some told ∧ told < trace.length
  /-- A schedule without an end has made a tick in every round. -/
  outOfRounds : ending = .outOfRounds →
    (∀ tick ∈ ticks, tick.isTerminal = false) ∧ ticks.length = count
  /-- A schedule with an end does the same if more rounds are allowed. -/
  more : ending ≠ .outOfRounds → ∀ extra,
    Runs (Schedule.run (count + extra) monitor).run trace (.ok ending)
  watching : monitor.phase = .watching →
    ending ≠ .reached .finished ∧ (exchanges ticks).countP Exchange.isWritten ≤ 1

/-- The log entries before and behind the rounds. -/
theorem runs_run_iff {result : Except SyncFault (End TickOutcome)}
    (hinterval : monitor.probeInterval.isZero = false) :
    Runs (Schedule.run count monitor).run trace result ↔
      ∃ middle ending, Runs (Schedule.rounds .zero count monitor) middle ending ∧
        result = .ok ending ∧
        trace = ⟨.log ⟨.info, .runner, startText monitor⟩, ()⟩ :: (middle ++
          [⟨.log ⟨.info, .runner, "Shutting down the startup monitor"⟩, ()⟩]) := by
  simp only [Schedule.run, hinterval, Bool.false_eq_true, if_false]
  constructor
  · intro hruns
    obtain ⟨rest, rfl, hrest⟩ := Sync.runs_log_bind_iff.mp hruns
    obtain ⟨ending, middle, back, rfl, hmiddle, hback⟩ := Sync.runs_lift_bind_iff.mp hrest
    obtain ⟨_, rfl, hdone⟩ := Sync.runs_log_bind_iff.mp hback
    obtain ⟨rfl, rfl⟩ := Sync.runs_pure_iff.mp hdone
    exact ⟨middle, ending, hmiddle, rfl, rfl⟩
  · rintro ⟨middle, ending, hmiddle, rfl, rfl⟩
    refine Sync.runs_log_bind_iff.mpr ⟨_, rfl, ?_⟩
    refine Sync.runs_lift_bind_iff.mpr ⟨ending, middle, _, rfl, hmiddle, ?_⟩
    exact Sync.runs_log_bind_iff.mpr ⟨[], rfl, Sync.runs_pure_iff.mpr ⟨rfl, rfl⟩⟩

/-- A schedule never makes a tick whose monitor has completed a fallback, since it ends
with the tick that does. -/
theorem Rounds.not_finished (hrounds : Rounds span count monitor ticks trace ending)
    (hphase : monitor.phase ≠ .fellBack true) : ending ≠ .reached .finished := by
  induction hrounds with
  | outOfRounds => simp
  | cancelled => simp
  | @reached span count monitor tick outcome hbefore hresult hterminal =>
      rintro ⟨⟩
      rw [← hbefore] at hphase
      exact hphase (tick.course.completed_of_finished hresult)
  | @again span count monitor tick ticks trace ending hbefore hterminal _ ih =>
      refine ih fun hcompleted => ?_
      rcases tick.course.terminal_of_completed hcompleted with hresult | hresult
      · rw [Tick.isTerminal_iff.mpr ⟨_, hresult, rfl⟩] at hterminal
        cases hterminal
      · rw [Tick.isTerminal_iff.mpr ⟨_, hresult, rfl⟩] at hterminal
        cases hterminal

/-- A schedule runs whole syncs and stops at the first terminal one. -/
theorem wholeTicks_of_runs {result : Except SyncFault (End TickOutcome)}
    (hinterval : monitor.probeInterval.isZero = false)
    (hruns : Runs (Schedule.run count monitor).run trace result) :
    ∃ ending ticks, result = .ok ending ∧ WholeTicks monitor count trace ending ticks := by
  obtain ⟨middle, ending, hmiddle, rfl, rfl⟩ := (runs_run_iff hinterval).mp hruns
  obtain ⟨ticks, hrounds⟩ := rounds_of_runs hmiddle
  have hcases := hrounds.ending_cases
  obtain ⟨hcalls, hprobes⟩ := hrounds.calls_eq
  obtain ⟨last, hticks⟩ := hrounds.inARow
  refine ⟨ending, ticks, rfl, ⟨last, hticks⟩, ?_, ?_, ?_, ?_, ?_, ?_, ?_, ?_⟩
  · rw [fileCalls_log, fileCalls_append, hcalls]
    simp
  · rw [probes_log, probes_append, hprobes]
    simp [probes]
  · exact hrounds.before_last
  · exact hrounds.reached_iff
  · rintro rfl
    obtain ⟨hnone, front, span, rfl⟩ := hcases
    refine ⟨hnone, fun moment hheeds => ?_⟩
    obtain ⟨told, hmoment, hbound⟩ :=
      hheeds (_ :: front) span _ (congrArg (_ :: ·) (List.append_assoc front _ _))
    refine ⟨told, hmoment, ?_⟩
    simp only [List.length_cons, List.length_append] at hbound ⊢
    omega
  · rintro rfl
    exact hcases
  · intro hending extra
    exact (runs_run_iff hinterval).mpr ⟨middle, ending, (hrounds.more hending extra).runs, rfl, rfl⟩
  · intro hphase
    have hrestoration : Restoration monitor.layout (exchanges ticks) last.phase :=
      Restoration.run hticks (hphase ▸ Restoration.of_fresh) rfl
    exact ⟨hrounds.not_finished (by simp [hphase]), hrestoration.countP_isWritten_le⟩

/-- The program is told to end while the second sync looks at the pointer. -/
def interrupted : World := { Rehearsed.recovering with cancelAt := some 3 }

/-- A sync that is going on when the program is told to end is made to its end, and its
outcome is that of the schedule. -/
theorem wholeTicks_rehearsed :
    let schedule := (Schedule.run 5 Rehearsed.monitor).run
    (interrupted.run schedule).2.cancelled = true ∧
      ∃ ticks, WholeTicks Rehearsed.monitor 5 (traceOf World.answer schedule interrupted)
        (.reached .retired) ticks := by
  intro schedule
  have hresult : (interrupted.run schedule).1 = .ok (.reached .retired) := by decide +kernel
  obtain ⟨ending, ticks, hending, hticks⟩ :=
    wholeTicks_of_runs (by decide +kernel) (runs_traceOf World.answer schedule interrupted)
  obtain rfl : .reached .retired = ending := Except.ok.inj (hresult.symm.trans hending)
  exact ⟨by decide +kernel, ticks, hticks⟩

end Schedule

end RevisionGuard
