import RevisionGuard.Proofs.Monitor.Courses
import RevisionGuard.Rehearsal
import Mathlib.Tactic.Common

/-!
# Syncs in a row

A `Tick` is one sync of a monitor together with what it exchanged, and `Ticks`
a run of syncs of one monitor, each of which starts from the monitor that the
one before left.  Nothing relates the answers, the times or the health of one
tick to those of another.

A statement about all runs is a statement about one tick, by the courses of
`Monitor.Course`, carried along a run by induction; `Ticks.append_iff` takes a
run apart at any place.
-/

namespace RevisionGuard

/-- One sync of a monitor. -/
structure Tick where
  before : Monitor
  now : Instant
  trace : List Exchange
  result : Except SyncFault TickOutcome
  after : Monitor
  runs : Program.Runs (before.tickAt now) trace (result, after)

theorem Tick.course (tick : Tick) :
    Monitor.Course tick.before tick.now tick.trace (tick.result, tick.after) :=
  Monitor.course_of_runs tick.runs

/-- Syncs in a row, from one monitor to another. -/
inductive Ticks : Monitor → List Tick → Monitor → Prop where
  | nil (monitor : Monitor) : Ticks monitor [] monitor
  | cons {monitor last : Monitor} {tick : Tick} {ticks : List Tick}
      (hbefore : tick.before = monitor) (hticks : Ticks tick.after ticks last) :
      Ticks monitor (tick :: ticks) last

/-- All that the ticks of a run exchanged, in order. -/
def exchanges (ticks : List Tick) : List Exchange := ticks.flatMap Tick.trace

@[simp] theorem exchanges_cons (tick : Tick) (ticks : List Tick) :
    exchanges (tick :: ticks) = tick.trace ++ exchanges ticks := rfl

/-- A monitor that has not done anything. -/
def Monitor.fresh (layout : Layout) (revision : Revision) (timeout probeInterval : Duration) :
    Monitor :=
  { Monitor.new layout revision with timeout := timeout, probeInterval := probeInterval }

namespace Ticks

variable {monitor last : Monitor} {ticks front back : List Tick} {tick : Tick}

@[simp] theorem nil_iff : Ticks monitor [] last ↔ last = monitor := by
  constructor
  · rintro ⟨⟩
    rfl
  · rintro rfl
    exact .nil _

@[simp] theorem cons_iff :
    Ticks monitor (tick :: ticks) last ↔ tick.before = monitor ∧ Ticks tick.after ticks last := by
  constructor
  · rintro ⟨⟩
    exact ⟨‹_›, ‹_›⟩
  · rintro ⟨hbefore, hticks⟩
    exact .cons hbefore hticks

/-- A run in two parts is two runs in a row. -/
theorem append_iff :
    Ticks monitor (front ++ back) last ↔
      ∃ middle, Ticks monitor front middle ∧ Ticks middle back last := by
  induction front generalizing monitor with
  | nil => simp
  | cons tick front ih => simp only [List.cons_append, cons_iff, ih, and_assoc, exists_and_left]

/-- What every tick keeps holds at the end of a run if it holds at the start. -/
theorem induct (holds : Monitor → Prop)
    (hstep : ∀ tick : Tick, holds tick.before → holds tick.after)
    (hrun : Ticks monitor ticks last) (hstart : holds monitor) : holds last := by
  induction hrun with
  | nil monitor => exact hstart
  | cons hbefore _ ih => exact ih (hstep _ (hbefore ▸ hstart))

end Ticks

/-! ## Runs in a world -/

/-- The sync of a monitor in a world. -/
def Tick.inWorld (world : World) (monitor : Monitor) (now : Instant) : Tick where
  before := monitor
  now := now
  trace := Program.traceOf World.answer (monitor.tickAt now) world
  result := (world.run (monitor.tickAt now)).1.1
  after := (world.run (monitor.tickAt now)).1.2
  runs := Program.runs_traceOf World.answer (monitor.tickAt now) world

/-- The syncs of a monitor at some times in a world. -/
def ticksInWorld (world : World) (monitor : Monitor) : List Instant → List Tick
  | [] => []
  | now :: later =>
    let tick := Tick.inWorld world monitor now
    tick :: ticksInWorld (world.run (monitor.tickAt now)).2 tick.after later

/-- Syncs in a world are a run. -/
theorem ticks_ticksInWorld (world : World) (monitor : Monitor) (times : List Instant) :
    ∃ last, Ticks monitor (ticksInWorld world monitor times) last := by
  induction times generalizing world monitor with
  | nil => exact ⟨monitor, .nil monitor⟩
  | cons now later ih =>
      obtain ⟨last, hlater⟩ := ih (world.run (monitor.tickAt now)).2
        (Tick.inWorld world monitor now).after
      exact ⟨last, .cons rfl hlater⟩

/-! ## What no tick changes -/

namespace Monitor

/-- Two monitors that were given the same settings. -/
structure SameSettings (monitor other : Monitor) : Prop where
  layout : other.layout = monitor.layout
  revision : other.revision = monitor.revision
  timeout : other.timeout = monitor.timeout
  probeInterval : other.probeInterval = monitor.probeInterval

theorem SameSettings.refl (monitor : Monitor) : SameSettings monitor monitor :=
  ⟨rfl, rfl, rfl, rfl⟩

theorem SameSettings.trans {first second third : Monitor} (hfirst : SameSettings first second)
    (hsecond : SameSettings second third) : SameSettings first third :=
  ⟨hsecond.layout.trans hfirst.layout, hsecond.revision.trans hfirst.revision,
    hsecond.timeout.trans hfirst.timeout, hsecond.probeInterval.trans hfirst.probeInterval⟩

theorem sameSettings_begun (monitor : Monitor) (now : Instant) :
    SameSettings monitor (monitor.begun now) := ⟨rfl, rfl, rfl, rfl⟩

theorem sameSettings_afterFallback (monitor : Monitor) (markerRemoved : Bool) :
    SameSettings monitor (monitor.afterFallback markerRemoved) := ⟨rfl, rfl, rfl, rfl⟩

theorem Cleaned.sameSettings {monitor : Monitor} {trace : List Exchange} {ticked : Ticked}
    (hcleaned : Cleaned monitor trace ticked) : SameSettings monitor ticked.2 := by
  cases hcleaned with
  | failed => exact .refl _
  | gone => exact sameSettings_afterFallback _ _

theorem FellBack.sameSettings {monitor : Monitor} {trace : List Exchange} {ticked : Ticked}
    (hfellBack : FellBack monitor trace ticked) : SameSettings monitor ticked.2 := by
  cases hfellBack with
  | failed => exact .refl _
  | noCandidate => exact .refl _
  | restored _ hcleaned => exact (sameSettings_afterFallback _ _).trans hcleaned.sameSettings

theorem Course.sameSettings {monitor : Monitor} {now : Instant} {trace : List Exchange}
    {ticked : Ticked} (hcourse : Course monitor now trace ticked) :
    SameSettings monitor ticked.2 := by
  cases hcourse with
  | finished => exact .refl _
  | cleaning _ hcleaned => exact hcleaned.sameSettings
  | unseen => exact .refl _
  | stale => exact .refl _
  | healthy _ _ hretire =>
      rcases (retired_of_runs hretire).2 with rfl | ⟨fault, rfl⟩ <;>
        exact sameSettings_begun _ _
  | waiting => exact sameSettings_begun _ _
  | expired _ _ _ _ hfallback => exact (sameSettings_begun _ _).trans hfallback.sameSettings

end Monitor

theorem Ticks.sameSettings {monitor last : Monitor} {ticks : List Tick}
    (hrun : Ticks monitor ticks last) : Monitor.SameSettings monitor last :=
  hrun.induct (Monitor.SameSettings monitor)
    (fun tick hbefore => hbefore.trans tick.course.sameSettings) (.refl monitor)

/-! ## A rehearsed target

The target on which runs are rehearsed below: small manifests of a few
revisions, and instants in seconds. -/

namespace Rehearsed

def layout : Layout := ⟨"kube", ⟨"manifests"⟩, ⟨"resources"⟩⟩

/-- A manifest of a revision. -/
def manifest (revision : Revision) : Bytes :=
  Utf8.ofText ("\x7bapiVersion: v1, kind: Pod, metadata: \x7bname: kube, labels: \x7brevision: '" ++
    revision.text ++ "'\x7d\x7d\x7d")

/-- An instant so many seconds after the origin of the clock. -/
def at? (seconds : Nat) : Option Instant :=
  Instant.ofNanoseconds? (seconds * nanosecondsPerSecond)

def instant (seconds : Nat) : Instant := (at? seconds).getD .origin

/-- The instants so many seconds after the origin of the clock. -/
def times (seconds : List Nat) : List Instant := seconds.filterMap at?

/-- A monitor of revision 8 with a grace period of one second. -/
def monitor : Monitor := .fresh layout 8 (.ofSeconds 1) (.ofSeconds 1)

/-- The ticks of the monitor at some seconds, with scripted files and an
unhealthy target. -/
def ticks (rows : List Script.Row) (seconds : List Nat) : List Tick :=
  ticksInWorld (World.new (.scripted ⟨rows⟩) .origin) monitor (times seconds)

theorem run_ticks (rows : List Script.Row) (seconds : List Nat) :
    ∃ last, Ticks monitor (ticks rows seconds) last :=
  ticks_ticksInWorld _ _ _

end Rehearsed

end RevisionGuard
