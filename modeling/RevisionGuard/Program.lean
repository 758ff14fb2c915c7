import RevisionGuard.Duration
import RevisionGuard.Files.Call
import RevisionGuard.Log

/-!
# Programs

Everything that the guard does is a program: a tree of requests to the world
around it, in which the answer to a request selects the rest.  `Program.run`
answers the requests from a state; a statement about all worlds quantifies over the
answers instead.
-/

namespace RevisionGuard

/-- A request to the world. -/
inductive Request where
  | file (call : FileCall)
  /-- Begin to watch a readiness file: from now on the target is healthy while
  there is something at the path, which is looked at once per interval. -/
  | watch (readyFile : Path) (interval : Duration)
  | probe
  /-- Make an identity that has not been used before. -/
  | freshUid
  | clock
  /-- Wait for a span of time, or until the program is to end. -/
  | pause (span : Duration)
  | log (entry : LogEntry)

/-- What a request is answered with.  Waiting is answered with whether the
program goes on. -/
abbrev Request.Answer : Request → Type
  | .file call => call.Answer
  | .watch _ _ => Unit
  | .probe => Bool
  | .freshUid => String
  | .clock => Instant
  | .pause _ => Bool
  | .log _ => Unit

/-- A tree of requests that ends with a result. -/
inductive Program (α : Type) where
  | done (result : α)
  | ask (request : Request) (resume : request.Answer → Program α)

namespace Program

variable {α β : Type}

/-- Go on with the result of a program. -/
def bind : Program α → (α → Program β) → Program β
  | .done result, next => next result
  | .ask request resume, next => .ask request fun answer => bind (resume answer) next

instance : Monad Program where
  pure := .done
  bind := bind

/-- Make a request and return its answer. -/
def request (request : Request) : Program request.Answer := .ask request .done

def file (call : FileCall) : Program call.Answer := request (.file call)

def watch (readyFile : Path) (interval : Duration) : Program Unit :=
  request (.watch readyFile interval)

def probe : Program Bool := request .probe

def freshUid : Program String := request .freshUid

def clock : Program Instant := request .clock

def pause (span : Duration) : Program Bool := request (.pause span)

def log (level : LogLevel) (source : LogSource) (text : String) : Program Unit :=
  request (.log ⟨level, source, text⟩)

/-- Run a program, answering each request from a state. -/
def run {σ : Type} (answer : (request : Request) → σ → request.Answer × σ) :
    Program α → σ → α × σ
  | .done result, state => (result, state)
  | .ask request resume, state =>
    let (given, next) := answer request state
    run answer (resume given) next

@[simp] theorem pure_bind (result : α) (next : α → Program β) :
    (pure result >>= next : Program β) = next result := rfl

@[simp] theorem done_bind (result : α) (next : α → Program β) :
    (Program.done result >>= next : Program β) = next result := rfl

@[simp] theorem ask_bind (request : Request) (resume : request.Answer → Program α)
    (next : α → Program β) :
    (Program.ask request resume >>= next : Program β) =
      .ask request fun answer => resume answer >>= next := rfl

theorem bind_pure (program : Program α) : (program >>= pure) = program := by
  induction program with
  | done result => rfl
  | ask request resume ih => simp only [ask_bind, ih]

theorem bind_assoc {γ : Type} (program : Program α) (next : α → Program β)
    (last : β → Program γ) :
    (program >>= next >>= last) = program >>= fun result => next result >>= last := by
  induction program with
  | done result => rfl
  | ask request resume ih => simp only [ask_bind, ih]

instance : LawfulMonad Program :=
  LawfulMonad.mk' Program (fun program => bind_pure program) (fun _ _ => rfl) bind_assoc

end Program

end RevisionGuard
