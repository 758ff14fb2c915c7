import RevisionGuard.Proofs.Layout.Steps
import RevisionGuard.Proofs.Monitor.Ticks
import RevisionGuard.Proofs.Pointer.Courses
import RevisionGuard.Proofs.Program.Calls
import Mathlib.Tactic.Common

/-!
# A replacement in hand

A fallback takes the active manifest away only when it has read what it puts in its
place, and then writes that at once (`Fallback.Orderly`).  Whatever the files answer, a
fallback that finds no candidate, or fails before it has one, leaves the active
manifest alone.

The argument follows the two halves of `Fallback.Course`.  The preparations change
files at the pointer only, so that a removal or a write of the active manifest
stands in the half that `Fallback.Published` lists.
-/

namespace RevisionGuard

open Program

variable {layout : Layout} {failed : Revision} {trace front back : List Exchange}
  {result : Except SyncFault Fallback.Outcome}

namespace Fallback

/-- How a fallback treats the active manifest. -/
structure Orderly (layout : Layout) (trace : List Exchange)
    (result : Except SyncFault Outcome) : Prop where
  removed_once : (fileCalls trace).countP (FileCall.removes layout.activeManifest) ≤ 1
  written_once : (fileCalls trace).countP (FileCall.writes layout.activeManifest) ≤ 1
  /-- Before the active manifest is removed, a manifest has been read through the pointer. -/
  candidate_of_removal : ∀ front call answer back,
    trace = front ++ ⟨.file call, answer⟩ :: back → call.removes layout.activeManifest = true →
      ∃ contents pod, ⟨.file (.read layout.lastKnownGood), .ok contents⟩ ∈ front ∧
        Pod.ofBytes contents = .ok pod
  /-- The file operation before a write of the active manifest has removed it, or found
  that it was missing. -/
  removal_of_write : ∀ front call answer back,
    trace = front ++ ⟨.file call, answer⟩ :: back → call.writes layout.activeManifest = true →
      ∃ before removal logs,
        front = before ++ ⟨.file (.remove layout.activeManifest), removal⟩ :: logs ∧
          fileCalls logs = [] ∧
          (removal = .ok () ∨
            ∃ fault : FileFault, fault.isNotFound = true ∧ removal = .error fault)
  restored_iff : (∃ other, result = .ok (.restored other)) ↔
    ∃ contents mode, ⟨.file (.write layout.activeManifest contents mode), .ok ()⟩ ∈ trace
  /-- Without a manifest read through the pointer the active one is left alone. -/
  spares : (∀ contents, ⟨.file (.read layout.lastKnownGood), .ok contents⟩ ∈ trace →
    ∃ fault, Pod.ofBytes contents = .error fault) → Spares layout.activeManifest trace
  /-- A fallback that finds no candidate changes nothing.  The pointer was missing, and
  there was no previous revision, or one without a manifest. -/
  noCandidate : result = .ok .noCandidate →
    ReadsOnly trace ∧
      ∃ fault search found behind,
        fault.isNotFound = true ∧
          trace = ⟨.file (.stat layout.lastKnownGood), .error fault⟩ :: (search ++ behind) ∧
          Runs (Archive.previousRevision layout).run search (.ok found) ∧
          (found = none ∨ ∃ previous missing, found = some previous ∧ missing.isNotFound = true ∧
            ⟨.file (.stat (layout.revisionedManifest previous)), .error missing⟩ ∈ behind)

/-! ## The preparations -/

theorem Prepares.changed_same {call : FileCall} (hprepares : Prepares layout (.file call)) :
    ∀ changed ∈ call.changed?, changed.same layout.activeManifest = false := by
  intro changed hchanged
  cases hprepares with
  | links revision hlinks =>
      cases hlinks with
      | look => cases hchanged
      | clear =>
          obtain rfl := Option.some.inj hchanged
          exact layout.lastKnownGood_same_activeManifest
      | link =>
          obtain rfl := Option.some.inj hchanged
          exact layout.lastKnownGood_same_activeManifest
  | list => cases hchanged
  | look revision => cases hchanged
  | read => cases hchanged

theorem spares_of_prepares (hprepares : ∀ exchange ∈ trace, Prepares layout exchange.request) :
    Spares layout.activeManifest trace := by
  intro call hcall
  obtain ⟨answer, hmem⟩ := mem_fileCalls_iff.mp hcall
  exact (hprepares _ hmem).changed_same

theorem readsOnly_of_searches (hsearches : ∀ exchange ∈ trace, Searches layout exchange.request) :
    ReadsOnly trace := by
  intro call hcall
  obtain ⟨answer, hmem⟩ := mem_fileCalls_iff.mp hcall
  cases hsearches _ hmem
  rfl

theorem readsOnly_of_isLog (hlogs : ∀ exchange ∈ trace, exchange.IsLog) : ReadsOnly trace := by
  rw [ReadsOnly, fileCalls_of_isLog hlogs]
  exact List.forall_mem_nil _

/-! ## No candidate -/

theorem ensuring_of_noCandidate (hruns : Runs (run layout failed).run trace (.ok .noCandidate)) :
    Ensuring layout trace (.ok false) := by
  rcases Sync.runs_bind_iff.mp hruns with
    ⟨fault, -, hfault⟩ | ⟨ready, front, back, rfl, hpointer, hnext⟩
  · cases hfault
  cases ready with
  | false =>
      obtain ⟨rfl, -⟩ := Sync.runs_pure_iff.mp hnext
      rw [List.append_nil]
      exact ensuring_of_runs hpointer
  | true =>
      -- with a pointer a fallback fails or restores
      rcases Sync.runs_bind_iff.mp hnext with
        ⟨fault, -, hfault⟩ | ⟨pod, read, rest, rfl, -, hpublish⟩
      · cases hfault
      obtain ⟨uid, back, rfl, hback⟩ := runs_ask_iff.mp hpublish
      rcases Sync.runs_bind_iff.mp hback with ⟨fault, -, hfault⟩ | ⟨_, _, _, -, -, hdone⟩
      · cases hfault
      · cases (Sync.runs_pure_iff.mp hdone).2

theorem Ensuring.of_false (hensuring : Ensuring layout trace (.ok false)) :
    ReadsOnly trace ∧
      ∃ fault search found behind,
        fault.isNotFound = true ∧
          trace = ⟨.file (.stat layout.lastKnownGood), .error fault⟩ :: (search ++ behind) ∧
          Runs (Archive.previousRevision layout).run search (.ok found) ∧
          (found = none ∨ ∃ previous missing, found = some previous ∧ missing.isNotFound = true ∧
            ⟨.file (.stat (layout.revisionedManifest previous)), .error missing⟩ ∈ behind) := by
  generalize hresult : (.ok false : Except SyncFault Bool) = result at hensuring
  cases hensuring with
  | unseen => cases hresult
  | present => cases hresult
  | unsearched => cases hresult
  | @unmatched answer search entry hpresence hsearch =>
      obtain ⟨fault, hmissing, rfl⟩ := Sync.presence_eq_false_iff.mp hpresence
      have hreads := readsOnly_of_searches (previousRevision_asks.request_of_mem hsearch)
      refine ⟨?_, fault, search, none, _, hmissing, rfl, hsearch, Or.inl rfl⟩
      simpa [FileCall.changed?] using hreads
  | @adopted answer search logs rest previous _ hpresence hsearch hlogs hadopting =>
      obtain ⟨fault, hmissing, rfl⟩ := Sync.presence_eq_false_iff.mp hpresence
      have hreads := readsOnly_of_searches (previousRevision_asks.request_of_mem hsearch)
      cases hadopting with
      | unseen => cases hresult
      | @linked _ _ linked =>
          cases linked <;> cases hresult
      | missing habsent =>
          obtain ⟨missing, hnone, rfl⟩ := Sync.presence_eq_false_iff.mp habsent
          refine ⟨?_, fault, search, some previous, _, hmissing, rfl, hsearch,
            Or.inr ⟨previous, missing, rfl, hnone, by simp⟩⟩
          simpa [FileCall.changed?] using ⟨hreads, readsOnly_of_isLog hlogs⟩

/-! ## The replacement -/

/-- What a write of the active manifest is counted as. -/
private theorem fileCalls_write (layout : Layout) (text : String)
    (written : Except FileFault Unit) :
    fileCalls [⟨.file (writeCall layout text), written⟩] = [writeCall layout text] := rfl

/-- Publishing removes and writes the active manifest at most once each. -/
theorem Published.counts {pod : Pod} {outcome : Except SyncFault Unit}
    (hpublished : Published layout pod trace outcome) :
    (fileCalls trace).countP (FileCall.removes layout.activeManifest) ≤ 1 ∧
      (fileCalls trace).countP (FileCall.writes layout.activeManifest) ≤ 1 := by
  cases hpublished with
  | stuck =>
      rw [fileCalls_file, fileCalls_nil]
      simp
  | unwritable _ hlogs =>
      rw [fileCalls_file, fileCalls_of_isLog hlogs]
      simp
  | wrote _ hlogs htext written =>
      rw [List.cons_append, fileCalls_file, fileCalls_append, fileCalls_of_isLog hlogs,
        fileCalls_write]
      simp [writeCall]

/-- A write of the active manifest comes last, right behind its removal. -/
theorem Published.removal_of_write {pod : Pod} {outcome : Except SyncFault Unit} {call : FileCall}
    {answer : call.Answer} (hpublished : Published layout pod trace outcome)
    (htrace : trace = front ++ ⟨.file call, answer⟩ :: back)
    (hwrites : call.writes layout.activeManifest = true) :
    ∃ removal logs, front = ⟨.file (.remove layout.activeManifest), removal⟩ :: logs ∧
      fileCalls logs = [] ∧
      (removal = .ok () ∨
        ∃ fault : FileFault, fault.isNotFound = true ∧ removal = .error fault) := by
  have hmem : call ∈ fileCalls trace := mem_fileCalls_iff.mpr ⟨answer, by simp [htrace]⟩
  cases hpublished with
  | stuck =>
      obtain rfl : call = .remove layout.activeManifest := by simpa using hmem
      cases hwrites
  | unwritable _ hlogs =>
      rw [fileCalls_file, fileCalls_of_isLog hlogs] at hmem
      obtain rfl : call = .remove layout.activeManifest := by simpa using hmem
      cases hwrites
  | @wrote removal removed logs text hremoval hlogs htext written =>
      -- neither the removal nor a log entry is a write
      have hfirst : ∀ other ∈ fileCalls (⟨.file (.remove layout.activeManifest), removal⟩ :: logs),
          other.writes layout.activeManifest = false := by
        rw [fileCalls_file, fileCalls_of_isLog hlogs]
        simp
      obtain ⟨middle, rfl, hlast⟩ :=
        behind_of_split (FileCall.writes layout.activeManifest) htrace hfirst hwrites
      obtain ⟨rfl, -⟩ : middle = [] ∧ back = [] := by
        cases middle with
        | nil => exact ⟨rfl, (List.cons.inj hlast).2.symm⟩
        | cons other middle => simp at hlast
      refine ⟨removal, logs, by simp, fileCalls_of_isLog hlogs, ?_⟩
      exact Sync.removal_eq_ok_iff.mp ⟨removed, hremoval⟩

/-! ## The two halves -/

/-- Behind what spares the active manifest there is nothing, or a replacement that has
been read. -/
theorem Course.halves (hcourse : Course layout failed trace result) :
    ∃ first second, trace = first ++ second ∧ Spares layout.activeManifest first ∧
      (second = [] ∨
        (∃ contents pod, ⟨.file (.read layout.lastKnownGood), .ok contents⟩ ∈ first ∧
          Pod.ofBytes contents = .ok pod) ∧
        ∃ pod outcome, Published layout pod second outcome) := by
  cases hcourse with
  | unprepared hprepares =>
      exact ⟨trace, [], (List.append_nil _).symm, spares_of_prepares hprepares, Or.inl rfl⟩
  | noCandidate hprepares =>
      exact ⟨trace, [], (List.append_nil _).symm, spares_of_prepares hprepares, Or.inl rfl⟩
  | @published front back contents pod uid outcome hensures hpod hpublished =>
      refine ⟨front ++ [⟨.file (.read layout.lastKnownGood), .ok contents⟩, ⟨.freshUid, uid⟩], back,
        by simp, ?_, Or.inr ⟨⟨contents, pod, by simp, hpod⟩, _, outcome, hpublished⟩⟩
      intro call hcall
      rw [fileCalls_append] at hcall
      rcases List.mem_append.mp hcall with hcall | hcall
      · exact spares_of_prepares (fun exchange hmem => (hensures exchange hmem).prepares) call hcall
      · obtain rfl : call = .read layout.lastKnownGood := by simpa [fileCalls] using hcall
        simp [FileCall.changed?]

theorem Course.counts (hcourse : Course layout failed trace result) :
    (fileCalls trace).countP (FileCall.removes layout.activeManifest) ≤ 1 ∧
      (fileCalls trace).countP (FileCall.writes layout.activeManifest) ≤ 1 := by
  obtain ⟨first, second, rfl, hspares, hsecond⟩ := hcourse.halves
  have hremoves : (fileCalls first).countP (FileCall.removes layout.activeManifest) = 0 :=
    List.countP_eq_zero.mpr fun call hmem => by simp [hspares.not_removes hmem]
  have hwrites : (fileCalls first).countP (FileCall.writes layout.activeManifest) = 0 :=
    List.countP_eq_zero.mpr fun call hmem => by simp [hspares.not_writes hmem]
  rw [fileCalls_append, List.countP_append, List.countP_append, hremoves, hwrites, Nat.zero_add,
    Nat.zero_add]
  rcases hsecond with rfl | ⟨-, pod, outcome, hpublished⟩
  · simp
  · exact hpublished.counts

theorem Course.restored_iff (hcourse : Course layout failed trace result) :
    (∃ other, result = .ok (.restored other)) ↔
      ∃ contents mode, ⟨.file (.write layout.activeManifest contents mode), .ok ()⟩ ∈ trace := by
  rcases hcourse.unwritten_or with ⟨hunwritten, hother⟩ | ⟨front, text, rfl, -, rfl⟩
  · constructor
    · rintro ⟨other, hrestored⟩
      exact absurd hrestored (hother other)
    · rintro ⟨contents, mode, hmem⟩
      cases hunwritten _ hmem
  · exact ⟨fun _ => ⟨Utf8.ofText text, manifestMode, by simp [writeCall]⟩, fun _ => ⟨failed, rfl⟩⟩

/-- A fallback gives the active manifest up only for a replacement that it has read. -/
theorem orderly_of_runs (hruns : Runs (run layout failed).run trace result) :
    Orderly layout trace result := by
  have hcourse := course_of_runs hruns
  obtain ⟨first, second, htrace, hspares, hsecond⟩ := hcourse.halves
  refine ⟨hcourse.counts.1, hcourse.counts.2, ?_, ?_, hcourse.restored_iff, ?_, ?_⟩
  · intro front call answer back hsplit hremoves
    rw [htrace] at hsplit
    obtain ⟨middle, rfl, hbehind⟩ := behind_of_split (FileCall.removes layout.activeManifest) hsplit
      (fun other => hspares.not_removes) hremoves
    rcases hsecond with rfl | ⟨⟨contents, pod, hread, hpod⟩, -⟩
    · simp at hbehind
    · exact ⟨contents, pod, List.mem_append_left _ hread, hpod⟩
  · intro front call answer back hsplit hwrites
    rw [htrace] at hsplit
    obtain ⟨middle, rfl, hbehind⟩ := behind_of_split (FileCall.writes layout.activeManifest) hsplit
      (fun other => hspares.not_writes) hwrites
    rcases hsecond with rfl | ⟨-, pod, outcome, hpublished⟩
    · simp at hbehind
    · obtain ⟨removal, logs, rfl, hlogs, hgone⟩ := hpublished.removal_of_write hbehind hwrites
      exact ⟨first, removal, logs, rfl, hlogs, hgone⟩
  · intro hunread
    rcases hsecond with rfl | ⟨⟨contents, pod, hread, hpod⟩, -⟩
    · rwa [htrace, List.append_nil]
    · obtain ⟨fault, hfault⟩ := hunread contents
        (by rw [htrace]; exact List.mem_append_left _ hread)
      rw [hpod] at hfault
      cases hfault
  · rintro rfl
    exact (ensuring_of_noCandidate hruns).of_false

end Fallback

/-- The pointer leads to revision 7, and the active manifest is missing. -/
def Rehearsed.bare : World :=
  World.new (.scripted ⟨[
    ⟨.stat, some Rehearsed.layout.lastKnownGood, [.kind false]⟩,
    ⟨.read, some Rehearsed.layout.lastKnownGood, [.contents (Rehearsed.manifest 7)]⟩,
    ⟨.remove, some Rehearsed.layout.activeManifest, [.failure .noSuchEntry]⟩,
    ⟨.write, some Rehearsed.layout.activeManifest, [.done]⟩]⟩) .origin

theorem Fallback.orderly_rehearsed :
    ∃ trace, Runs (Fallback.run Rehearsed.layout 8).run trace (.ok (.restored 8)) ∧
      Fallback.Orderly Rehearsed.layout trace (.ok (.restored 8)) ∧
      (fileCalls trace).map FileCall.operation = [.stat, .read, .remove, .write] := by
  have hruns := runs_traceOf World.answer (Fallback.run Rehearsed.layout 8).run Rehearsed.bare
  have hrestored : ((Fallback.run Rehearsed.layout 8).run.run World.answer Rehearsed.bare).1 =
      .ok (.restored 8) := by decide +kernel
  rw [hrestored] at hruns
  exact ⟨_, hruns, Fallback.orderly_of_runs hruns, by decide +kernel⟩

end RevisionGuard
