import RevisionGuard.Files.Script
import RevisionGuard.Files.Tree.Answer
import RevisionGuard.Identity
import RevisionGuard.Program

/-!
# Rehearsals

A rehearsal runs a program against a world that is held in memory: files that
are scripted or form a tree, a target whose health is given beforehand, and a
clock that moves only when it is read or waited for.  What the program asks for
is recorded.
-/

namespace RevisionGuard

/-- The files of a rehearsal. -/
inductive Files where
  | scripted (script : Script)
  | tree (held : Tree)

def Files.answer (call : FileCall) : Files → call.Answer × Files
  | .scripted script =>
    let (answer, script) := script.answer call
    (answer, .scripted script)
  | .tree held =>
    let (answer, held) := held.answer call
    (answer, .tree held)

/-- What is known beforehand of the health of the target. -/
inductive Health where
  /-- Each probe takes the first of the answers, and the last one stays. -/
  | given (answers : List Bool)
  | never
  /-- The target is healthy while there is something at a path. -/
  | whileExists (path : Path)

/-- A signal that tells the program to end while it waits. -/
structure Signal where
  /-- How many lines have to be logged before the signal comes. -/
  after : Nat
  /-- How many lines an entry makes. -/
  lines : LogEntry → Nat
  entry : LogEntry

/-- The world of a rehearsal. -/
structure World where
  files : Files
  health : Health
  now : Instant
  uids : Nat
  cancelled : Bool
  /-- The file operation during which the program is told to end, counted from
  one among the recorded ones. -/
  cancelAt : Option Nat
  signal : Option Signal
  /-- The file operations so far, the last one first. -/
  calls : List FileCall
  /-- The log entries so far, the last one first. -/
  log : List LogEntry
  /-- How many probes of given health there were. -/
  probes : Nat

namespace World

def new (files : Files) (now : Instant) : World :=
  ⟨files, .given [false], now, 0, false, none, none, [], [], 0⟩

def cleared (world : World) : World := { world with calls := [], log := [], probes := 0 }

/-- The time that passes between two readings of the clock. -/
def clockStep : Nat := 1000

/-- Move the clock on; it stays at its end. -/
def advance (world : World) (nanoseconds : Nat) : World :=
  match Instant.ofNanoseconds? (world.now.nanoseconds + nanoseconds) with
  | some now => { world with now := now }
  | none => world

def firstUid : Nat := 0x5eed000000004000800000000000 * 0x10000 + 1

/-- The identity that is made after so many others. -/
def uid (count : Nat) : String := Identity.ofNumber (firstUid + count)

def perform (call : FileCall) (world : World) : call.Answer × World :=
  let (answer, files) := world.files.answer call
  let calls := call :: world.calls
  (answer,
    { world with
      files := files
      calls := calls
      cancelled := world.cancelled || world.cancelAt = some calls.length })

def probe (world : World) : Bool × World :=
  match world.health with
  | .never => (false, world)
  | .given [] => (false, { world with probes := world.probes + 1 })
  | .given [answer] => (answer, { world with probes := world.probes + 1 })
  | .given (answer :: next :: others) =>
    (answer, { world with probes := world.probes + 1, health := .given (next :: others) })
  | .whileExists path =>
    match (world.files.answer (.stat path)).1 with
    | .ok _ => (true, world)
    | .error _ => (false, world)

def lineCount (lines : LogEntry → Nat) (log : List LogEntry) : Nat :=
  log.foldl (fun count entry => count + lines entry) 0

def signalled? (world : World) : Option Signal :=
  world.signal.filter fun signal => signal.after ≤ lineCount signal.lines world.log

/-- Wait for a span of time, unless the program is to end. -/
def pause (span : Duration) (world : World) : Bool × World :=
  if world.cancelled then (false, world)
  else
    match world.signalled? with
    | some signal => (false, { world with cancelled := true, log := signal.entry :: world.log })
    | none => (true, world.advance span.nanoseconds)

/-- Answer a request.  A program that is to end is told so when it waits. -/
def answer (request : Request) (world : World) : request.Answer × World :=
  match request with
  | .file call => world.perform call
  | .watch readyFile _ => ((), { world with health := .whileExists readyFile })
  | .probe => world.probe
  | .freshUid => (uid world.uids, { world with uids := world.uids + 1 })
  | .clock => (world.now, world.advance clockStep)
  | .pause span => world.pause span
  | .log entry => ((), { world with log := entry :: world.log })

def run {α : Type} (world : World) (program : Program α) : α × World :=
  program.run answer world

end World

end RevisionGuard
