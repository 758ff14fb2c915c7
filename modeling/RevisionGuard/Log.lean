/-!
# Log entries

What the guard reports of its work: a level, the part that reports, and a text.
-/

namespace RevisionGuard

/-- How important a log entry is. -/
inductive LogLevel where
  | error
  | warn
  | info
  | debug
  | trace
  deriving DecidableEq, Repr

namespace LogLevel

/-- The rank of a level: the more important, the lower. -/
def rank : LogLevel → Nat
  | .error => 0
  | .warn => 1
  | .info => 2
  | .debug => 3
  | .trace => 4

def name : LogLevel → String
  | .error => "ERROR"
  | .warn => "WARN"
  | .info => "INFO"
  | .debug => "DEBUG"
  | .trace => "TRACE"

end LogLevel

/-- The part of the program that makes a log entry. -/
inductive LogSource where
  | program
  | runner
  | monitor
  | fallback
  | revision
  | health
  | signal
  deriving DecidableEq, Repr

def LogSource.name : LogSource → String
  | .program => "startup_monitor"
  | .runner => "startup_monitor::runner"
  | .monitor => "startup_monitor::monitor"
  | .fallback => "startup_monitor::fallback"
  | .revision => "startup_monitor::revision"
  | .health => "startup_monitor::health"
  | .signal => "startup_monitor::signal"

/-- An entry of a log. -/
structure LogEntry where
  level : LogLevel
  source : LogSource
  text : String
  deriving DecidableEq, Repr

/-- How a log is written. -/
inductive LogFormat where
  | text
  | json
  deriving DecidableEq, Repr

namespace LogFormat

def name : LogFormat → String
  | .text => "text"
  | .json => "json"

def ofName? (name : String) : Option LogFormat :=
  [LogFormat.text, .json].find? fun format => format.name = name

end LogFormat

end RevisionGuard
