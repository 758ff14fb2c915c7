import RevisionGuard.Config.CommandLine
import RevisionGuard.Config.Load
import RevisionGuard.Log.Filter
import RevisionGuard.Schedule

/-!
# The guard as a whole

The guard reads its command line, decides what is logged, loads its
configuration, finds the revision to watch and syncs until it is done or told to
end.  `Guard.launch` is what happens before there is anything to do, and
`Guard.program` the rest.
-/

namespace RevisionGuard

namespace Config

/-- What a diagnostic shows of something that may be missing. -/
def optionText : Option String → String
  | none => "None"
  | some text => "Some(" ++ text ++ ")"

def text (config : Config) : String :=
  "MonitorConfig \x7b target: " ++ quoted config.target ++
    ", manifests_dir: " ++ quoted config.manifestsDir.text ++
    ", resources_dir: " ++ quoted config.resourcesDir.text ++
    ", revision: " ++ optionText (config.revision.map Revision.text) ++
    ", fallback_timeout: " ++ config.fallbackTimeout.text ++
    ", probe_interval: " ++ config.probeInterval.text ++
    ", ready_file: " ++ optionText (config.readyFile.map fun path => quoted path.text) ++
    " \x7d"

end Config

namespace Guard

def outcomeText : TickOutcome → String
  | .revisionMismatch watching observed =>
    "RevisionMismatch \x7b watching: " ++ watching.text ++ ", observed: " ++ observed.text ++
      " \x7d"
  | outcome => outcome.name

/-- The texts of what went wrong, the last consequence first. -/
abbrev Failure : Type := List String

/-- Line breaks in the text of a cause, indented. -/
def indented (indent : String) (text : String) : String :=
  String.ofList (text.toList.flatMap fun letter =>
    if letter = '\n' then '\n' :: indent.toList else [letter])

def numberedCauses : Nat → List String → String
  | _, [] => ""
  | number, cause :: others =>
    "    " ++ Numeral.text number ++ ": " ++ indented "       " cause ++ "\n" ++
      numberedCauses (number + 1) others

def failureText : Failure → String
  | [] => ""
  | [text] => "Error: " ++ text ++ "\n"
  | [text, cause] =>
    "Error: " ++ text ++ "\n\nCaused by:\n    " ++ indented "    " cause ++ "\n"
  | text :: causes => "Error: " ++ text ++ "\n\nCaused by:\n" ++ numberedCauses 0 causes

/-- The log entry when the guard is told to end. -/
def signalEntry : LogEntry :=
  ⟨.info, .signal, "Received SIGTERM or SIGINT signal, shutting down the process."⟩

def findRevision (config : Config) (count : Nat) : Program (Schedule.End Revision) :=
  match config.revision with
  | some revision => return .reached revision
  | none => Schedule.pin config.layout config.probeInterval count

def monitor (config : Config) (revision : Revision) : Monitor :=
  { Monitor.new config.layout revision with
    timeout := config.fallbackTimeout
    probeInterval := config.probeInterval }

def watch (config : Config) (count : Nat) (revision : Revision) :
    ExceptT Failure Program Unit := do
  if let some path := config.readyFile then
    (Program.watch path config.probeInterval : ExceptT Failure Program Unit)
  match ← (Schedule.run count (monitor config revision)).run with
  | .error fault => throw ["startup monitor failed", fault.message]
  | .ok (.reached outcome) =>
    (Program.log .info .program ("Startup monitor finished: " ++ outcomeText outcome) :
      ExceptT Failure Program Unit)
  | .ok _ => return ()

/-- Do what a command line asks for; every loop takes at most so many rounds. -/
def program (flags : Flags) (count : Nat) : ExceptT Failure Program Unit := do
  match ← (Config.load flags : ExceptT Failure Program _) with
  | .error fault => throw fault.messages
  | .ok config =>
    (Program.log .debug .program config.text : ExceptT Failure Program Unit)
    match ← (findRevision config count : ExceptT Failure Program _) with
    | .reached revision => watch config count revision
    | _ =>
      (Program.log .info .program "Shut down before a revision to watch was found" :
        ExceptT Failure Program Unit)

/-- The filter that an environment sets, if it can be read, or else a command
line. -/
def filter (flags : Flags) (environment : Option String) : Except Failure LogFilter :=
  match environment.map LogFilter.parse with
  | some (.ok filter) => .ok filter
  | _ =>
    (LogFilter.parse flags.logLevel).mapError fun fault =>
      ("invalid log level " ++ quoted flags.logLevel) :: fault.messages

/-- What a command line leads to. -/
inductive Launch where
  | stop (stop : CommandLine.Stop)
  | failure (failure : Failure)
  | start (flags : Flags) (filter : LogFilter)

/-- Read a command line and the filter of an environment. -/
def launch (arguments : List String) (environment : Option String) : Launch :=
  match CommandLine.parse arguments with
  | .error stop => .stop stop
  | .ok flags =>
    match filter flags environment with
    | .error failure => .failure failure
    | .ok filter => .start flags filter

end Guard

end RevisionGuard
