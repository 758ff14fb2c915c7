import RevisionGuard.Program.Trace
import Mathlib.Tactic.Common

/-!
# What a program may ask for

`Program.Asks allowed program` bounds the requests of a program: each of them is
allowed, whatever the answers before it were.  The bound is read off the
program piece by piece, and `Asks.request_of_mem` carries it over to every
trace.  It is the coarse half of what is said about a trace; where the order of
the requests or their answers matter, the trace itself is taken apart.
-/

namespace RevisionGuard

/-- Whether a request only makes a log entry. -/
def Request.IsLog (request : Request) : Prop := ∃ entry, request = .log entry

namespace Program

variable {α β : Type} {allowed larger : Request → Prop}

/-- Every request that the program can make is allowed. -/
def Asks (allowed : Request → Prop) : Program α → Prop
  | .done _ => True
  | .ask request resume => allowed request ∧ ∀ answer, Asks allowed (resume answer)

@[simp] theorem asks_pure (result : α) : Asks allowed (pure result) := trivial

theorem asks_request {request : Request} (hallowed : allowed request) :
    Asks allowed (Program.request request) :=
  ⟨hallowed, fun _ => trivial⟩

theorem Asks.bind {program : Program α} {next : α → Program β} (hfirst : Asks allowed program)
    (hnext : ∀ result, Asks allowed (next result)) : Asks allowed (program >>= next) := by
  induction program with
  | done result => exact hnext result
  | ask request resume ih => exact ⟨hfirst.1, fun answer => ih answer (hfirst.2 answer)⟩

theorem Asks.mono {program : Program α} (hasks : Asks allowed program)
    (hlarger : ∀ request, allowed request → larger request) : Asks larger program := by
  induction program with
  | done result => trivial
  | ask request resume ih =>
      exact ⟨hlarger request hasks.1, fun answer => ih answer (hasks.2 answer)⟩

/-- A trace holds no request beyond what its program may ask for. -/
theorem Asks.request_of_mem {program : Program α} {trace : List Exchange} {result : α}
    (hasks : Asks allowed program) (hruns : Runs program trace result) :
    ∀ exchange ∈ trace, allowed exchange.request := by
  induction hruns with
  | done result => simp
  | ask answer rest ih =>
      intro exchange hmem
      rcases List.mem_cons.mp hmem with rfl | hmem
      · exact hasks.1
      · exact ih (hasks.2 answer) exchange hmem

end Program

end RevisionGuard
