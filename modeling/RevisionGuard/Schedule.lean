import RevisionGuard.Monitor

/-!
# Periodic syncs

A monitor is synced once per probe interval until it reaches a terminal outcome
or the program is to end; failures are logged and retried.  Before that the
revision to watch may have to be found in the active manifest.  The number of
rounds is bounded, and a schedule that has used them up says so.
-/

namespace RevisionGuard

namespace Schedule

/-- How a schedule ends. -/
inductive End (α : Type) where
  | reached (result : α)
  | cancelled
  | outOfRounds
  deriving DecidableEq, Repr

/-- Sync until a terminal outcome; `span` is how long to wait before the first
sync. -/
def rounds (span : Duration) : Nat → Monitor → Program (End TickOutcome)
  | 0, _ => return .outOfRounds
  | count + 1, monitor => do
    if ← Program.pause span then
      let (result, monitor) ← monitor.tick
      match result with
      | .ok outcome =>
        if outcome.isTerminal then return .reached outcome
        else rounds monitor.probeInterval count monitor
      | .error fault =>
        Program.log .error .runner fault.message
        rounds monitor.probeInterval count monitor
    else return .cancelled

def startText (monitor : Monitor) : String :=
  "Starting the startup monitor for revision " ++ monitor.revision.text ++
    " with Interval = " ++ monitor.probeInterval.text ++
    ", Timeout = " ++ monitor.timeout.text

/-- Sync a monitor once per probe interval. -/
def run (count : Nat) (monitor : Monitor) : Sync (End TickOutcome) := do
  Sync.log .info .runner (startText monitor)
  if monitor.probeInterval.isZero then throw .noProbeInterval
  let ending ← (rounds .zero count monitor : Sync (End TickOutcome))
  Sync.log .info .runner "Shutting down the startup monitor"
  return ending

/-- Find the revision of the active manifest, and try again after a while as
long as there is none. -/
def pin (layout : Layout) (retry : Duration) : Nat → Program (End Revision)
  | 0 => return .outOfRounds
  | count + 1 => do
    match ← (readActiveRevision layout).run with
    | .ok revision =>
      Program.log .info .runner
        ("Watching revision " ++ revision.text ++ " found in the active manifest")
      return .reached revision
    | .error fault =>
      Program.log .warn .runner ("Couldn't determine the revision to watch: " ++ fault.message)
      if ← Program.pause retry then pin layout retry count else return .cancelled

end Schedule

end RevisionGuard
