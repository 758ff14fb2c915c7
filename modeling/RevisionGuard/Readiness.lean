import RevisionGuard.Log
import RevisionGuard.Path
import RevisionGuard.Text.Quoted

/-!
# Readiness files

A target can show that it is healthy by a file.  The file is looked at from time
to time, and whoever asks gets the last observation; before the first one, and
where nothing can be seen, the target is not healthy.
-/

namespace RevisionGuard

/-- A readiness file and what is known of it. -/
structure Readiness where
  path : Path
  /-- The last observation: whether there was something at the path. -/
  observed : Bool
  polling : Bool
  deriving DecidableEq, Repr

namespace Readiness

def new (path : Path) : Readiness := ⟨path, false, false⟩

def start (readiness : Readiness) : Readiness := { readiness with polling := true }

def stop (readiness : Readiness) : Readiness := { readiness with polling := false }

/-- Look at the file, if it is looked at, and remember what was seen. -/
def observe (readiness : Readiness) (present : Bool) : Readiness :=
  if readiness.polling then { readiness with observed := present } else readiness

/-- The log entry of an observation; one that changes nothing is less
important. -/
def entry (readiness : Readiness) (present : Bool) : LogEntry where
  level := if present = readiness.observed then .debug else .info
  source := .health
  text :=
    "Readiness file " ++ quoted readiness.path.text ++ " present: " ++
      (if present then "true" else "false")

end Readiness

end RevisionGuard
