import RevisionGuard.Proofs.Sync.Traces
import Mathlib.Tactic.Common

/-!
# Requests that are warranted by what came before

`Program.Warranted warrant past program` bounds every request of a program by what has
been exchanged before it: `past` is the trace up to the program, and behind each
request it grows by the exchange.  It is the finer companion of `Program.Asks`, which
does not look back; where a bound does not depend on the past, `Asks.warranted` carries
it over.

A program in two parts is warranted if the first part is, and the second is behind
every trace that the first can have (`Warranted.bind`).  That is where answers come in:
what is known of the trace of the first part is known of the past of the second.
-/

namespace RevisionGuard

namespace Program

variable {α β : Type} {warrant : List Exchange → Request → Prop} {allowed : Request → Prop}
  {past : List Exchange}

/-- Every request that the program can make has a warrant in what has been exchanged
before it. -/
def Warranted (warrant : List Exchange → Request → Prop) : List Exchange → Program α → Prop
  | _, .done _ => True
  | past, .ask request resume =>
    warrant past request ∧
      ∀ answer, Warranted warrant (past ++ [⟨request, answer⟩]) (resume answer)

@[simp] theorem warranted_pure (result : α) : Warranted warrant past (pure result) := trivial

theorem Warranted.bind {program : Program α} {next : α → Program β}
    (hfirst : Warranted warrant past program)
    (hnext : ∀ trace result, Runs program trace result →
      Warranted warrant (past ++ trace) (next result)) :
    Warranted warrant past (program >>= next) := by
  induction program generalizing past with
  | done result =>
      have hbehind := hnext [] result (.done result)
      rwa [List.append_nil] at hbehind
  | ask request resume ih =>
      obtain ⟨hwarrant, hresume⟩ := hfirst
      refine ⟨hwarrant, fun answer => ih answer (hresume answer) fun trace result hruns => ?_⟩
      have hbehind := hnext _ result (.ask answer hruns)
      rwa [List.append_cons] at hbehind

/-- A bound that does not look back. -/
theorem Asks.warranted {program : Program α} (hasks : Asks allowed program)
    (hallowed : ∀ past request, allowed request → warrant past request) :
    Warranted warrant past program := by
  induction program generalizing past with
  | done result => trivial
  | ask request resume ih =>
      exact ⟨hallowed past request hasks.1, fun answer => ih answer (hasks.2 answer)⟩

/-- Every request in a trace of a warranted program has its warrant in what stands
before it. -/
theorem Warranted.of_split {program : Program α} {trace front back : List Exchange}
    {exchange : Exchange} {result : α} (hwarranted : Warranted warrant past program)
    (hruns : Runs program trace result) (htrace : trace = front ++ exchange :: back) :
    warrant (past ++ front) exchange.request := by
  induction hruns generalizing past front with
  | done result => simp at htrace
  | @ask request resume trace result answer _ ih =>
      obtain ⟨hwarrant, hresume⟩ := hwarranted
      cases front with
      | nil =>
          obtain ⟨rfl, -⟩ := List.cons.inj htrace
          rwa [List.append_nil]
      | cons first front =>
          obtain ⟨rfl, hrest⟩ := List.cons.inj htrace
          have hbehind := ih (hresume answer) hrest
          rwa [← List.append_cons] at hbehind

end Program

namespace Sync

open Program

variable {α β : Type} {warrant : List Exchange → Request → Prop} {past : List Exchange}

theorem warranted_throw (fault : SyncFault) :
    Warranted warrant past (throw fault : Sync α).run := trivial

/-- The second computation is only reached behind a result of the first. -/
theorem warranted_bind {first : Sync α} {next : α → Sync β}
    (hfirst : Warranted warrant past first.run)
    (hnext : ∀ trace value, Runs first.run trace (.ok value) →
      Warranted warrant (past ++ trace) (next value).run) :
    Warranted warrant past (first >>= next).run := by
  rw [ExceptT.run_bind]
  refine hfirst.bind fun trace result hruns => ?_
  cases result with
  | ok value => exact hnext trace value hruns
  | error fault => exact Program.warranted_pure _

theorem warranted_answered_bind {call : FileCall} {read : call.Answer → Except SyncFault α}
    {next : α → Sync β} (hwarrant : warrant past (.file call))
    (hnext : ∀ answer value, read answer = .ok value →
      Warranted warrant (past ++ [⟨.file call, answer⟩]) (next value).run) :
    Warranted warrant past (answered call read >>= next).run := by
  refine warranted_bind ⟨hwarrant, fun answer => trivial⟩ fun trace value hruns => ?_
  obtain ⟨answer, rfl, hread⟩ := runs_answered_iff.mp hruns
  exact hnext answer value hread.symm

theorem warranted_log_bind {level : LogLevel} {source : LogSource} {text : String}
    {next : Unit → Sync α} (hwarrant : warrant past (.log ⟨level, source, text⟩))
    (hnext : Warranted warrant (past ++ [⟨.log ⟨level, source, text⟩, ()⟩]) (next ()).run) :
    Warranted warrant past (log level source text >>= next).run :=
  ⟨hwarrant, fun _ => hnext⟩

end Sync

end RevisionGuard
