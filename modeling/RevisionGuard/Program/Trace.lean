import RevisionGuard.Program

/-!
# Traces

What a program and the world exchange, request by request.  `Program.Runs`
relates a program to every trace that it can have, whatever the answers are, so
a statement about all its traces holds in every world.  A program that is run
from a state has a trace (`runs_traceOf`), and a program in two parts has the traces
of both in a row (`runs_bind_iff`).
-/

namespace RevisionGuard

/-- A request and the answer to it. -/
structure Exchange where
  request : Request
  answer : request.Answer

namespace Program

variable {α β : Type}

/-- A program can make these exchanges and then end with this result. -/
inductive Runs : Program α → List Exchange → α → Prop where
  | done (result : α) : Runs (.done result) [] result
  | ask {request : Request} {resume : request.Answer → Program α} {trace : List Exchange}
      {result : α} (answer : request.Answer) (rest : Runs (resume answer) trace result) :
      Runs (.ask request resume) (⟨request, answer⟩ :: trace) result

@[simp] theorem runs_done_iff {result other : α} {trace : List Exchange} :
    Runs (.done result) trace other ↔ trace = [] ∧ other = result := by
  constructor
  · rintro ⟨⟩
    exact ⟨rfl, rfl⟩
  · rintro ⟨rfl, rfl⟩
    exact .done _

@[simp] theorem runs_pure_iff {result other : α} {trace : List Exchange} :
    Runs (pure result) trace other ↔ trace = [] ∧ other = result := runs_done_iff

theorem runs_ask_iff {request : Request} {resume : request.Answer → Program α}
    {trace : List Exchange} {result : α} :
    Runs (.ask request resume) trace result ↔
      ∃ answer rest, trace = ⟨request, answer⟩ :: rest ∧ Runs (resume answer) rest result := by
  constructor
  · rintro ⟨⟩
    exact ⟨_, _, rfl, ‹_›⟩
  · rintro ⟨answer, rest, rfl, hrest⟩
    exact .ask answer hrest

/-- The traces of two programs in a row are those of the first followed by those
of the second. -/
theorem runs_bind_iff {program : Program α} {next : α → Program β} {trace : List Exchange}
    {result : β} :
    Runs (program >>= next) trace result ↔
      ∃ middle front back,
        trace = front ++ back ∧ Runs program front middle ∧ Runs (next middle) back result := by
  induction program generalizing trace with
  | done ended =>
      constructor
      · intro hback
        exact ⟨ended, [], trace, rfl, .done ended, hback⟩
      · rintro ⟨middle, front, back, rfl, hfront, hback⟩
        obtain ⟨rfl, rfl⟩ := runs_done_iff.mp hfront
        exact hback
  | ask request resume ih =>
      simp only [ask_bind, runs_ask_iff, ih]
      constructor
      · rintro ⟨answer, _, rfl, middle, front, back, rfl, hfront, hback⟩
        exact ⟨middle, ⟨request, answer⟩ :: front, back, rfl, ⟨answer, front, rfl, hfront⟩, hback⟩
      · rintro ⟨middle, _, back, rfl, ⟨answer, front, rfl, hfront⟩, hback⟩
        exact ⟨answer, front ++ back, rfl, middle, front, back, rfl, hfront, hback⟩

/-- A program that begins with a request goes on from the answer. -/
theorem runs_request_bind_iff {request : Request} {next : request.Answer → Program β}
    {trace : List Exchange} {result : β} :
    Runs (Program.request request >>= next) trace result ↔
      ∃ answer rest, trace = ⟨request, answer⟩ :: rest ∧ Runs (next answer) rest result :=
  runs_ask_iff

/-- What a program exchanges when it is run from a state. -/
def traceOf {σ : Type} (answer : (request : Request) → σ → request.Answer × σ) :
    Program α → σ → List Exchange
  | .done _, _ => []
  | .ask request resume, state =>
    let (given, next) := answer request state
    ⟨request, given⟩ :: traceOf answer (resume given) next

/-- A program that is run from a state has a trace with its result. -/
theorem runs_traceOf {σ : Type} (answer : (request : Request) → σ → request.Answer × σ)
    (program : Program α) (state : σ) :
    Runs program (traceOf answer program state) (program.run answer state).1 := by
  induction program generalizing state with
  | done result => exact .done result
  | ask request resume ih => exact .ask _ (ih _ _)

end Program

end RevisionGuard
