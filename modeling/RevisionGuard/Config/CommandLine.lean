import RevisionGuard.Config.Flags

/-!
# Command lines

Arguments are read from the left.  A flag waits for its value, which is attached
behind an equals sign or is the next argument, if that does not start like a
flag.  A value is taken in only when the next flag begins or the arguments end,
so a fault in what follows may be reported in its place.  There are no arguments
other than flags.
-/

namespace RevisionGuard

namespace CommandLine

/-- Why a command line gives no settings. -/
inductive Stop where
  | help
  | version
  | unexpectedArgument (argument : String)
  | unexpectedValue (flag value : String)
  | repeated (flag : Flag)
  | unusable (flag : Flag) (fault : Flag.Fault)
  deriving DecidableEq, Repr

def helpEntry (flag : Flag) : String :=
  "      " ++ flag.usage ++ "\n          " ++ flag.description ++ "\n"

def helpText : String :=
  "Monitors the provided static pod revision and if it proves unhealthy rolls back to the " ++
    "previous revision.\n\nUsage: startup-monitor [OPTIONS]\n\nOptions:\n" ++
    String.join (Flag.all.map helpEntry) ++
    "  -h, --help\n          Print help\n  -V, --version\n          Print version\n"

def versionText : String := "startup-monitor 0.1.0\n"

namespace Stop

def valueText (flag : Flag) : Flag.Fault → String
  | .missing => "a value is required for '" ++ flag.usage ++ "' but none was supplied"
  | .unknown value => "invalid value '" ++ value ++ "' for '" ++ flag.usage ++ "'"
  | .malformed value reason =>
    "invalid value '" ++ value ++ "' for '" ++ flag.usage ++ "': " ++ reason

def text : Stop → String
  | .help => helpText
  | .version => versionText
  | .unexpectedArgument argument => "error: unexpected argument '" ++ argument ++ "' found"
  | .unexpectedValue flag value =>
    "error: unexpected value '" ++ value ++ "' for '" ++ flag ++
      "' found; no more were expected"
  | .repeated flag =>
    "error: the argument '" ++ flag.usage ++ "' cannot be used multiple times"
  | .unusable flag fault => "error: " ++ valueText flag fault

def isFault : Stop → Bool
  | .help | .version => false
  | _ => true

end Stop

/-- What has been read so far. -/
structure Progress where
  flags : Flags
  /-- The flags whose values have been taken in. -/
  given : List Flag

/-- The flag that was met last. -/
inductive Pending where
  /-- Its value has been taken in. -/
  | nothing
  | awaiting (flag : Flag)
  | holding (flag : Flag) (value : String)

/-- Take in the value of the flag that was met last. -/
def settle (progress : Progress) : Pending → Except Stop Progress
  | .nothing => .ok progress
  | .awaiting flag => .error (.unusable flag .missing)
  | .holding flag value =>
    if progress.given.contains flag then .error (.repeated flag)
    else
      match flag.read progress.flags value with
      | .ok flags => .ok ⟨flags, flag :: progress.given⟩
      | .error fault => .error (.unusable flag fault)

/-- An argument, by how it starts. -/
inductive Shape where
  /-- Two hyphens: no flags follow. -/
  | escape
  /-- Two hyphens and a name, perhaps with an attached value. -/
  | long (name : String) (value : Option String)
  | short (letter : Char)
  | plain
  deriving DecidableEq, Repr

def attached (letters : List Char) : String × Option String :=
  let name := String.ofList (letters.takeWhile (· ≠ '='))
  match letters.dropWhile (· ≠ '=') with
  | [] => (name, none)
  | _ :: value => (name, some (String.ofList value))

def shape (argument : String) : Shape :=
  match argument.toList with
  | ['-', '-'] => .escape
  | '-' :: '-' :: letters =>
    let (name, value) := attached letters
    .long name value
  | '-' :: letter :: _ => .short letter
  | _ => .plain

def readFrom (progress : Progress) (pending : Pending) :
    List String → Except Stop Flags
  | [] => do return (← settle progress pending).flags
  | argument :: rest =>
    match shape argument with
    | .escape =>
      match rest with
      | [] => do return (← settle progress pending).flags
      | next :: _ => .error (.unexpectedArgument next)
    | .long name value =>
      match name, value with
      | "help", some value => .error (.unexpectedValue "--help" value)
      | "version", some value => .error (.unexpectedValue "--version" value)
      | "help", none => do
        let _ ← settle progress pending
        .error .help
      | "version", none => do
        let _ ← settle progress pending
        .error .version
      | name, value =>
        match Flag.ofName? name, value with
        | none, _ => .error (.unexpectedArgument ("--" ++ name))
        | some flag, none => do readFrom (← settle progress pending) (.awaiting flag) rest
        | some flag, some value => do
          let settled ← settle progress pending
          readFrom (← settle settled (.holding flag value)) .nothing rest
    | .short letter =>
      if letter = 'h' then do
        let _ ← settle progress pending
        .error .help
      else if letter = 'V' then do
        let _ ← settle progress pending
        .error .version
      else .error (.unexpectedArgument ("-" ++ String.ofList [letter]))
    | .plain =>
      match pending with
      | .awaiting flag => readFrom progress (.holding flag argument) rest
      | _ => .error (.unexpectedArgument argument)

def parse (arguments : List String) : Except Stop Flags := readFrom ⟨{}, []⟩ .nothing arguments

end CommandLine

end RevisionGuard
