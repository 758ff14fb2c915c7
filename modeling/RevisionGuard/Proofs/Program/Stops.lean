import RevisionGuard.Proofs.Program.Hosts
import Mathlib.Tactic.Common

/-!
# Programs that are stopped

A program on a host can be stopped: from outside, behind any of its requests, or
because one of its file operations fails and the program gives up.  `Tree.Stops` says
which files it leaves then.  What each of its operations keeps holds of these files as
well (`Hosts.kept`), so it need not be known where the program was stopped.
-/

namespace RevisionGuard

open Program

namespace Tree

variable {α ε : Type} {tree middle after : Tree} {healthy : Bool} {call : FileCall}
  {fault : FileFault} {trace : List Exchange}

/-- A program that is stopped on a host can leave these files. -/
inductive Stops (healthy : Bool) (tree : Tree) (program : Program (Except ε α)) (middle : Tree) :
    Prop where
  /-- It is stopped behind some of its requests, none and all of them included. -/
  | behind {front back : List Exchange} {result : Except ε α}
      (hruns : Runs program (front ++ back) result) (hfront : Hosts healthy tree front middle)
  /-- One of its file operations fails, and the program fails for that. -/
  | failing {call : FileCall} {fault : FileFault} {failure : ε}
      (hbreaks : Breaks healthy tree program call fault (.error failure) middle)

section Kept

variable (Kept : Tree → Prop) {allowed : Request → Prop} {program : Program α} {result : α}
  (hstep : ∀ {call tree}, allowed (.file call) → Kept tree → Kept (tree.answer call).2)
include hstep

/-- What every operation of a trace keeps, the trace keeps. -/
theorem Hosts.kept
    (hallowed : ∀ exchange ∈ trace, allowed exchange.request)
    (hhosts : Hosts healthy tree trace after) (hkept : Kept tree) : Kept after := by
  induction trace generalizing tree with
  | nil =>
      obtain rfl := hosts_nil_iff.mp hhosts
      exact hkept
  | cons exchange trace ih =>
      obtain ⟨hfirst, hrest⟩ := List.forall_mem_cons.mp hallowed
      obtain ⟨request, answer⟩ := exchange
      cases request with
      | file call => exact ih hrest hhosts.2 (hstep hfirst hkept)
      | probe => exact ih hrest hhosts.2 hkept
      | watch readyFile interval => exact ih hrest hhosts hkept
      | freshUid => exact ih hrest hhosts hkept
      | clock => exact ih hrest hhosts hkept
      | pause span => exact ih hrest hhosts hkept
      | log entry => exact ih hrest hhosts hkept

/-- An operation that fails changes nothing. -/
theorem Breaks.kept (hasks : Asks allowed program)
    (hbreaks : Breaks healthy tree program call fault result after) (hkept : Kept tree) :
    Kept after := by
  obtain ⟨front, back, between, hruns, hfront, hback⟩ := hbreaks
  have hallowed := hasks.request_of_mem hruns
  refine hback.kept Kept hstep (fun exchange hmem => hallowed exchange ?_)
    (hfront.kept Kept hstep (fun exchange hmem => hallowed exchange ?_) hkept)
  · exact List.mem_append_right _ (List.mem_cons_of_mem _ hmem)
  · exact List.mem_append_left _ hmem

end Kept

/-- Log entries change nothing. -/
theorem Hosts.eq_of_isLog (hlogs : ∀ exchange ∈ trace, exchange.request.IsLog)
    (hhosts : Hosts healthy tree trace after) : after = tree := by
  refine hhosts.kept (fun other => other = tree) ?_ hlogs rfl
  rintro call other ⟨entry, hentry⟩
  cases hentry

/-- The files behind so many requests of a program, on a host on which every identity
and every time is the same. -/
def runUntil (healthy : Bool) (uid : String) : Nat → Program α → Tree → Tree
  | 0, _, tree => tree
  | _, .done _, tree => tree
  | count + 1, .ask request resume, tree =>
    let (answer, after) := host healthy uid request tree
    runUntil healthy uid count (resume answer) after

/-- A program can be stopped behind each of its requests. -/
theorem stops_runUntil (healthy : Bool) (uid : String) (count : Nat)
    (program : Program (Except ε α)) (tree : Tree) :
    Stops healthy tree program (runUntil healthy uid count program tree) := by
  have hfront : ∃ front back result, Runs program (front ++ back) result ∧
      Hosts healthy tree front (runUntil healthy uid count program tree) := by
    induction count generalizing program tree with
    | zero =>
        obtain ⟨result, after, trace, hruns, -⟩ := exists_does healthy tree program
        exact ⟨[], trace, result, hruns, rfl⟩
    | succ count ih =>
        cases program with
        | done value => exact ⟨[], [], value, .done value, rfl⟩
        | ask request resume =>
            obtain ⟨front, back, result, hruns, hfront⟩ :=
              ih (resume (host healthy uid request tree).1) (host healthy uid request tree).2
            refine ⟨⟨request, _⟩ :: front, back, result, .ask _ hruns, ?_⟩
            rw [← List.singleton_append, hosts_append_iff]
            exact ⟨_, hosts_host healthy uid request tree, hfront⟩
  obtain ⟨front, back, result, hruns, hfront⟩ := hfront
  exact .behind hruns hfront

end Tree

end RevisionGuard
