import RevisionGuard.Config
import RevisionGuard.Config.CommandLine
import RevisionGuard.Config.File
import RevisionGuard.Config.Flags
import RevisionGuard.Config.Load
import RevisionGuard.Decimal.Double
import RevisionGuard.Decimal.Shortest
import RevisionGuard.Dictionary
import RevisionGuard.Duration
import RevisionGuard.Duration.Grammar
import RevisionGuard.Files.Call
import RevisionGuard.Files.Fault
import RevisionGuard.Files.Script
import RevisionGuard.Files.Tree
import RevisionGuard.Files.Tree.Answer
import RevisionGuard.Files.Tree.Change
import RevisionGuard.Guard
import RevisionGuard.Identity
import RevisionGuard.Layout
import RevisionGuard.Log
import RevisionGuard.Log.Filter
import RevisionGuard.Log.Line
import RevisionGuard.Main
import RevisionGuard.Monitor
import RevisionGuard.Path
import RevisionGuard.Pod
import RevisionGuard.Pod.Decoding
import RevisionGuard.Pod.Encoding
import RevisionGuard.Program
import RevisionGuard.Program.Trace
import RevisionGuard.Proofs.Program.Asks
import RevisionGuard.Proofs.Sync.Requests
import RevisionGuard.Proofs.Sync.Traces
import RevisionGuard.Readiness
import RevisionGuard.Rehearsal
import RevisionGuard.Schedule
import RevisionGuard.Sync.Archive
import RevisionGuard.Sync.Fallback
import RevisionGuard.Sync.Fault
import RevisionGuard.Sync.Promotion
import RevisionGuard.Text.Blank
import RevisionGuard.Text.Numeral
import RevisionGuard.Text.Printable
import RevisionGuard.Text.Quoted
import RevisionGuard.Text.Split
import RevisionGuard.Text.Utf8
import RevisionGuard.Yaml.Cursor
import RevisionGuard.Yaml.Decode
import RevisionGuard.Yaml.Defect
import RevisionGuard.Yaml.Fault
import RevisionGuard.Yaml.Literal
import RevisionGuard.Yaml.Mark
import RevisionGuard.Yaml.Node
import RevisionGuard.Yaml.Node.Compose
import RevisionGuard.Yaml.Source
import RevisionGuard.Yaml.Token
import RevisionGuard.Yaml.Token.Property
import RevisionGuard.Yaml.Token.Scalar
import RevisionGuard.Yaml.Token.Scan
import RevisionGuard.Yaml.Value
import RevisionGuard.Yaml.Written
import RevisionGuard.Yaml.Written.Pen
import RevisionGuard.Yaml.Written.Scalar
import RevisionGuard.Proofs.Sync.Courses
import RevisionGuard.Proofs.Monitor.Courses
import RevisionGuard.Proofs.Monitor.Ticks
import RevisionGuard.Proofs.Monitor.SingleFallback
import RevisionGuard.Proofs.Monitor.GracePeriod
import RevisionGuard.Proofs.Files.Walk
import RevisionGuard.Proofs.Layout.Steps
import RevisionGuard.Proofs.Fallback.Restoring
import RevisionGuard.Proofs.Monitor.Retry
import RevisionGuard.Proofs.Pointer.Reading
import RevisionGuard.Proofs.Monitor.Health
import RevisionGuard.Proofs.Pointer.Courses
import RevisionGuard.Proofs.Fallback.Replacement
import RevisionGuard.Proofs.Files.Place
import RevisionGuard.Proofs.Layout.Places
import RevisionGuard.Proofs.Monitor.Effects
import RevisionGuard.Proofs.Text.Numeral
import RevisionGuard.Proofs.Yaml.Agreement
import RevisionGuard.Proofs.Yaml.Typed
import RevisionGuard.Proofs.Yaml.Value
import RevisionGuard.Proofs.Pod.Decoded
import RevisionGuard.Proofs.Pod.RoundTrip
import RevisionGuard.Proofs.Pod.Again
import RevisionGuard.Proofs.Fallback.Republication
import RevisionGuard.Proofs.Monitor.Terminal
import RevisionGuard.Proofs.Schedule.Rounds
import RevisionGuard.Proofs.Program.Warrants
import RevisionGuard.Proofs.Pointer.Warrant
import RevisionGuard.Proofs.Monitor.PointerMoves
import RevisionGuard.Proofs.Program.Stops
import RevisionGuard.Proofs.Pointer.Underway
import RevisionGuard.Proofs.Pointer.Created
import RevisionGuard.Proofs.Pointer.Repeated
import RevisionGuard.Proofs.Text.Split
import RevisionGuard.Proofs.Archive.Search
import RevisionGuard.Proofs.Archive.Names
import RevisionGuard.Proofs.Archive.Previous
import RevisionGuard.Proofs.Text.Blank
import RevisionGuard.Proofs.Text.Utf8
import RevisionGuard.Proofs.Duration.Spelling
import RevisionGuard.Proofs.Pod.Revision
import RevisionGuard.Proofs.Layout.Targets
import RevisionGuard.Proofs.Monitor.Neighbours
import RevisionGuard.Proofs.Config.Merged
