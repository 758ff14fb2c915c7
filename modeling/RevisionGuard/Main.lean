import RevisionGuard.Guard
import RevisionGuard.Identity
import RevisionGuard.Log.Line
import RevisionGuard.Readiness

/-!
# The command line

The outer layer: it answers the requests of `Guard.program` with the host's
files, its clock and its random numbers, and writes the log to standard output.
Times in the log count from the start.  There is no operation here that makes a
link, so making one fails as a call that the host does not have; a signal ends
the process at once.

Names that are no Unicode texts are left out, here as in the trees of a rehearsal:
a listing gives each name as the host's library reads it.  One program does
everything in turn, the syncs and the looks at the readiness file, so there is no
task of its own whose end is waited for, and no failure of such a task.
-/

namespace RevisionGuard

namespace Main

def maxRounds : Nat := 1000000000000

/-- What the requests are answered from. -/
structure Host where
  filter : LogFilter
  format : LogFormat
  began : Nat
  /-- The last observation of the readiness file. -/
  healthy : IO.Ref Bool

/-- The number of a system error from its 32 bits, which may be the number or its
negative. -/
def magnitude (bits : UInt32) : Nat := min bits.toNat (0 - bits).toNat

def errorNumber : IO.Error → Nat
  | .alreadyExists _ number _ | .otherError number _ | .resourceBusy number _
  | .resourceVanished number _ | .unsupportedOperation number _ | .hardwareFault number _
  | .unsatisfiedConstraints number _ | .illegalOperation number _ | .protocolError number _
  | .timeExpired number _ | .interrupted _ number _ | .noFileOrDirectory _ number _
  | .invalidArgument _ number _ | .permissionDenied _ number _ | .resourceExhausted _ number _
  | .inappropriateType _ number _ | .noSuchThing _ number _ => magnitude number
  | .unexpectedEof => 5
  | .userError _ => 5

/-- Run a file operation on paths that the host can take. -/
def attempt {α : Type} (paths : List Path) (action : IO α) : IO (Except FileFault α) := do
  if paths.any fun path => path.text.toList.contains '\x00' then return .error .nulInPath
  else
    try return .ok (← action)
    catch fault => return .error (.system (errorNumber fault))

def stat (path : Path) : IO Bool := do
  let metadata ← (System.mkFilePath [path.text]).metadata
  return metadata.type == .dir

/-- Whether permission bits hold a bit for reading, writing and running. -/
def accessRight (bits : Nat) : IO.AccessRight where
  read := bits / 4 % 2 = 1
  write := bits / 2 % 2 = 1
  execution := bits % 2 = 1

/-- Write a file; one that is new gets the permission bits. -/
def write (path : Path) (contents : Bytes) (mode : Nat) : IO Unit := do
  let isNew := !(← (System.mkFilePath [path.text]).pathExists)
  IO.FS.writeBinFile path.text ⟨contents.toArray⟩
  if isNew then
    IO.setAccessRights path.text
      ⟨accessRight (mode / 64), accessRight (mode / 8), accessRight mode⟩

def list (path : Path) : IO (List DirEntry) := do
  let entries ← (System.mkFilePath [path.text]).readDir
  entries.toList.mapM fun entry => do
    return ⟨entry.fileName, (← entry.path.symlinkMetadata).type == .dir⟩

def performFile : (call : FileCall) → IO call.Answer
  | .stat path => attempt [path] (stat path)
  | .read path => attempt [path] do return (← IO.FS.readBinFile path.text).toList
  | .write path contents mode => attempt [path] (write path contents mode)
  | .remove path => attempt [path] (IO.FS.removeFile path.text)
  | .symlink _ _ => return .error (.system 38)
  | .list path => attempt [path] (list path)

/-- The time since the start, in seconds. -/
def uptime (host : Host) : IO String := do
  let elapsed := (← IO.monoNanosNow) - host.began
  return Numeral.text (elapsed / nanosecondsPerSecond) ++ "." ++
    Numeral.padded 9 (elapsed % nanosecondsPerSecond)

def report (host : Host) (entry : LogEntry) : IO Unit := do
  if host.filter.allows entry then
    IO.print (entry.line host.format (← uptime host))
    (← IO.getStdout).flush

def sleep (span : Duration) : IO Unit := do
  for _ in [0:span.seconds] do IO.sleep 1000
  IO.sleep (UInt32.ofNat (span.fraction / 1000000))

/-- Look at a readiness file once per interval, without end. -/
partial def poll (host : Host) (interval : Duration) (readiness : Readiness) : IO Unit := do
  let present := match ← performFile (.stat readiness.path) with
    | .ok _ => true
    | .error _ => false
  host.healthy.set present
  report host (readiness.entry present)
  sleep interval
  poll host interval (readiness.observe present)

def randomNumber : IO Nat := do
  return (← IO.getRandomBytes 16).toList.foldl (fun number byte => number * 256 + byte.toNat) 0

def answer (host : Host) : (request : Request) → IO request.Answer
  | .file call => performFile call
  | .watch readyFile interval => do
    let _ ← IO.asTask (poll host interval (Readiness.new readyFile).start) .dedicated
  | .probe => host.healthy.get
  | .freshUid => return Identity.ofNumber (← randomNumber)
  | .clock => return (Instant.ofNanoseconds? (← IO.monoNanosNow)).getD .origin
  | .pause span => do
    sleep span
    return true
  | .log entry => report host entry

def perform {α : Type} (host : Host) : Program α → IO α
  | .done result => return result
  | .ask request resume => do perform host (resume (← answer host request))

/-- Show why there is nothing to run. -/
def stop (reason : CommandLine.Stop) : IO UInt32 := do
  if reason.isFault then
    IO.eprintln (reason.text ++ "\n\nFor more information, try '--help'.")
    return 2
  else
    IO.print reason.text
    return 0

def fail (failure : Guard.Failure) : IO UInt32 := do
  IO.eprint (Guard.failureText failure)
  return 1

def start (flags : Flags) (filter : LogFilter) : IO UInt32 := do
  let host : Host := ⟨filter, flags.logFormat, ← IO.monoNanosNow, ← IO.mkRef false⟩
  match ← perform host (Guard.program flags maxRounds).run with
  | .ok () => return 0
  | .error failure => fail failure

def run (arguments : List String) : IO UInt32 := do
  match Guard.launch arguments (← IO.getEnv "RUST_LOG") with
  | .stop reason => stop reason
  | .failure failure => fail failure
  | .start flags filter => start flags filter

end Main

end RevisionGuard

def main (arguments : List String) : IO UInt32 := RevisionGuard.Main.run arguments
