import RevisionGuard.Sync.Fallback

/-!
# Monitors

A monitor watches one revision of a static pod.  Each sync (`Monitor.tickAt`)
first makes sure that the active manifest is of that revision.  If the target is
healthy, the revision is promoted; if it is not within the grace period, counted
from the first sync that saw the revision, the guard falls back, once.
-/

namespace RevisionGuard

/-- What a monitor has done. -/
inductive Phase where
  | watching
  /-- It has restored a manifest, and perhaps removed its marker. -/
  | fellBack (markerRemoved : Bool)
  deriving DecidableEq, Repr

/-- What a sync decided. -/
inductive TickOutcome where
  /-- The active manifest is of another revision; nothing was done. -/
  | revisionMismatch (watching observed : Revision)
  | waiting
  /-- The target is healthy and was promoted. -/
  | retired
  /-- The last known good manifest was restored and the marker removed. -/
  | fellBack
  /-- The grace period has passed, but there is nothing to fall back to. -/
  | noFallbackCandidate
  /-- A fallback has been completed before. -/
  | finished
  deriving DecidableEq, Repr

namespace TickOutcome

/-- Whether no sync is needed any more. -/
def isTerminal : TickOutcome → Bool
  | .retired | .fellBack | .finished => true
  | _ => false

def name : TickOutcome → String
  | .revisionMismatch _ _ => "RevisionMismatch"
  | .waiting => "Waiting"
  | .retired => "Retired"
  | .fellBack => "FellBack"
  | .noFallbackCandidate => "NoFallbackCandidate"
  | .finished => "Finished"

end TickOutcome

/-- The watch over the startup of one revision. -/
structure Monitor where
  layout : Layout
  revision : Revision
  /-- The grace period. -/
  timeout : Duration
  /-- The time between two syncs. -/
  probeInterval : Duration
  /-- When the first sync saw the revision. -/
  startedAt : Option Instant
  phase : Phase
  deriving DecidableEq

def readActiveRevision (layout : Layout) : Sync Revision := do
  let active := layout.activeManifest
  let contents ← Sync.file active (.read active)
  Sync.manifest active (Pod.ofBytes contents >>= Pod.revision)

namespace Monitor

def defaultTimeout : Duration := Duration.ofSeconds 120

def defaultProbeInterval : Duration := Duration.ofSeconds 1

def new (layout : Layout) (revision : Revision) : Monitor :=
  ⟨layout, revision, defaultTimeout, defaultProbeInterval, none, .watching⟩

/-- The result of a sync and the monitor after it. -/
abbrev Ticked : Type := Except SyncFault TickOutcome × Monitor

/-- Remove the marker after a fallback, which completes it. -/
def removeMarker (monitor : Monitor) : Program Ticked := do
  match ← (Sync.removeIfExists monitor.layout.selfMarker).run with
  | .error fault => return (.error fault, monitor)
  | .ok removed =>
    if removed then
      Program.log .info .monitor (Promotion.markerRemovedText monitor.layout)
    return (.ok .fellBack, { monitor with phase := .fellBack true })

/-- Whether an instant is past the grace period.  A deadline beyond the end of
the clock is never past. -/
def isExpired (monitor : Monitor) (started now : Instant) : Bool :=
  match started.add? monitor.timeout with
  | some deadline => now.isAfter deadline
  | none => false

def retire (monitor : Monitor) : Program Ticked := do
  Program.log .info .monitor "Observed a healthy target, creating last known good revision"
  match ← (Promotion.promote monitor.layout monitor.revision).run with
  | .error fault => return (.error fault, monitor)
  | .ok () => return (.ok .retired, monitor)

/-- Fall back from the watched revision.  Once a manifest has been restored the
monitor never falls back again, even if it is of the watched revision. -/
def fallBack (monitor : Monitor) : Program Ticked := do
  Program.log .info .monitor
    "Timed out while waiting for the target to become healthy, starting a fall back procedure"
  match ← (Fallback.run monitor.layout monitor.revision).run with
  | .error fault => return (.error fault, monitor)
  | .ok .noCandidate => return (.ok .noFallbackCandidate, monitor)
  | .ok (.restored _) => removeMarker { monitor with phase := .fellBack false }

def mismatchText (watching observed : Revision) : String :=
  "Stopping further processing because the monitor is watching revision " ++ watching.text ++
    " and the current target's revision is " ++ observed.text

def watch (monitor : Monitor) (now : Instant) : Program Ticked := do
  match ← (readActiveRevision monitor.layout).run with
  | .error fault => return (.error fault, monitor)
  | .ok observed =>
    if observed ≠ monitor.revision then
      Program.log .info .monitor (mismatchText monitor.revision observed)
      return (.ok (.revisionMismatch monitor.revision observed), monitor)
    else
      let started := monitor.startedAt.getD now
      let monitor := { monitor with startedAt := some started }
      if ← Program.probe then monitor.retire
      else if monitor.isExpired started now then monitor.fallBack
      else return (.ok .waiting, monitor)

/-- Sync as if it were a given time. -/
def tickAt (monitor : Monitor) (now : Instant) : Program Ticked :=
  match monitor.phase with
  | .watching => monitor.watch now
  | .fellBack true => return (.ok .finished, monitor)
  | .fellBack false => monitor.removeMarker

def tick (monitor : Monitor) : Program Ticked := do monitor.tickAt (← Program.clock)

end Monitor

end RevisionGuard
