import RevisionGuard.Proofs.Sync.Requests
import Mathlib.Tactic.Common

/-!
# The courses of a fallback

What a fallback and the world can exchange, as a list of cases.  Up to the
moment at which the republished manifest is known, a fallback only prepares
(`Fallback.Prepares`); from there on `Fallback.Published` gives every exchange in
its order.  A successful write ends a fallback, and it is the only one.
-/

namespace RevisionGuard

open Program

variable {layout : Layout} {trace : List Exchange}

/-- Whether an exchange only makes a log entry. -/
def Exchange.IsLog (exchange : Exchange) : Prop := exchange.request.IsLog

/-- Whether an exchange is a write that succeeded. -/
def Exchange.isWritten : Exchange → Bool
  | ⟨.file (.write _ _ _), .ok ()⟩ => true
  | _ => false

theorem Exchange.IsLog.not_isWritten {exchange : Exchange} (hlog : exchange.IsLog) :
    exchange.isWritten = false := by
  obtain ⟨request, answer⟩ := exchange
  obtain ⟨entry, rfl⟩ := hlog
  rfl

/-- Nothing in a trace is a write that succeeded. -/
def Unwritten (trace : List Exchange) : Prop := ∀ exchange ∈ trace, exchange.isWritten = false

theorem unwritten_of_isLog (hlogs : ∀ exchange ∈ trace, exchange.IsLog) : Unwritten trace :=
  fun exchange hmem => (hlogs exchange hmem).not_isWritten

theorem Unwritten.cons {exchange : Exchange} (hfirst : exchange.isWritten = false)
    (hrest : Unwritten trace) : Unwritten (exchange :: trace) :=
  List.forall_mem_cons.mpr ⟨hfirst, hrest⟩

theorem Unwritten.append {other : List Exchange} (hfirst : Unwritten trace)
    (hsecond : Unwritten other) : Unwritten (trace ++ other) := by
  intro exchange hmem
  rcases List.mem_append.mp hmem with hmem | hmem
  exacts [hfirst exchange hmem, hsecond exchange hmem]

namespace Fallback

theorem Prepares.not_isWritten {exchange : Exchange}
    (hprepares : Prepares layout exchange.request) : exchange.isWritten = false := by
  obtain ⟨request, answer⟩ := exchange
  cases hprepares with
  | links revision hlinks => cases hlinks <;> rfl
  | list => rfl
  | look revision => rfl
  | read => rfl

theorem unwritten_of_prepares
    (hprepares : ∀ exchange ∈ trace, Prepares layout exchange.request) : Unwritten trace :=
  fun exchange hmem => (hprepares exchange hmem).not_isWritten

/-- The write of a manifest in place of the active one. -/
def writeCall (layout : Layout) (text : String) : FileCall :=
  .write layout.activeManifest (Utf8.ofText text) manifestMode

/-- What publishing a manifest can exchange, with the result. -/
inductive Published (layout : Layout) (pod : Pod) :
    List Exchange → Except SyncFault Unit → Prop where
  /-- The active manifest cannot be removed. -/
  | stuck {answer : Except FileFault Unit} {fault : SyncFault}
      (hremoval : Sync.removal layout.activeManifest answer = .error fault) :
      Published layout pod [⟨.file (.remove layout.activeManifest), answer⟩] (.error fault)
  /-- The new manifest has no written form. -/
  | unwritable {answer : Except FileFault Unit} {removed : Bool} {logs : List Exchange}
      {fault : Pod.Fault}
      (hremoval : Sync.removal layout.activeManifest answer = .ok removed)
      (hlogs : ∀ exchange ∈ logs, exchange.IsLog) (htext : pod.toText = .error fault) :
      Published layout pod (⟨.file (.remove layout.activeManifest), answer⟩ :: logs)
        (.error (.manifest layout.activeManifest fault))
  /-- The new manifest is written, or the write fails. -/
  | wrote {answer : Except FileFault Unit} {removed : Bool} {logs : List Exchange} {text : String}
      (hremoval : Sync.removal layout.activeManifest answer = .ok removed)
      (hlogs : ∀ exchange ∈ logs, exchange.IsLog) (htext : pod.toText = .ok text)
      (written : Except FileFault Unit) :
      Published layout pod
        (⟨.file (.remove layout.activeManifest), answer⟩ :: logs ++
          [⟨.file (writeCall layout text), written⟩])
        (written.mapError (.file layout.activeManifest))

private theorem runs_writeActive {text : String} {result : Except SyncFault Unit}
    (hruns : Runs (writeActive layout text).run trace result) :
    ∃ logs written, (∀ exchange ∈ logs, exchange.IsLog) ∧
      trace = logs ++ [⟨.file (writeCall layout text), written⟩] ∧
      result = written.mapError (.file layout.activeManifest) := by
  obtain ⟨_, rfl, hdebug⟩ := Sync.runs_log_bind_iff.mp hruns
  obtain ⟨_, rfl, hwrite⟩ := Sync.runs_log_bind_iff.mp hdebug
  rw [Sync.file_eq_answered] at hwrite
  obtain ⟨written, rfl, rfl⟩ := Sync.runs_answered_iff.mp hwrite
  refine ⟨[_, _], written, ?_, rfl, rfl⟩
  rintro exchange (_ | ⟨_, _ | ⟨_, ⟨⟩⟩⟩)
  exacts [⟨_, rfl⟩, ⟨_, rfl⟩]

/-- What publishing exchanges once the active manifest is out of the way. -/
private theorem published_of_removed {pod : Pod} {answer : Except FileFault Unit} {removed : Bool}
    {rest : List Exchange} {result : Except SyncFault Unit} (logs : List Exchange)
    (hremoval : Sync.removal layout.activeManifest answer = .ok removed)
    (hlogs : ∀ exchange ∈ logs, exchange.IsLog)
    (hruns : Runs (Sync.manifest layout.activeManifest pod.toText >>= writeActive layout).run
      rest result) :
    Published layout pod (⟨.file (.remove layout.activeManifest), answer⟩ :: logs ++ rest)
      result := by
  cases htext : pod.toText with
  | error fault =>
      rw [htext] at hruns
      obtain ⟨rfl, rfl⟩ : rest = [] ∧ result = .error (.manifest layout.activeManifest fault) :=
        Program.runs_pure_iff.mp hruns
      rw [List.append_nil]
      exact .unwritable hremoval hlogs htext
  | ok text =>
      rw [htext] at hruns
      obtain ⟨others, written, hothers, rfl, rfl⟩ := runs_writeActive hruns
      rw [List.cons_append, ← List.append_assoc]
      refine .wrote hremoval (fun exchange hmem => ?_) htext written
      rcases List.mem_append.mp hmem with hmem | hmem
      exacts [hlogs exchange hmem, hothers exchange hmem]

theorem published_of_runs {pod : Pod} {result : Except SyncFault Unit}
    (hruns : Runs (publish layout pod).run trace result) : Published layout pod trace result := by
  simp only [publish, Sync.removeIfExists_eq_answered] at hruns
  obtain ⟨answer, rest, rfl, hrest⟩ := Sync.runs_answered_bind_iff.mp hruns
  cases hremoval : Sync.removal layout.activeManifest answer with
  | error fault =>
      rw [hremoval] at hrest
      obtain ⟨rfl, rfl⟩ := hrest
      exact .stuck hremoval
  | ok removed =>
      rw [hremoval] at hrest
      cases removed with
      | false => exact published_of_removed [] hremoval (by simp) hrest
      | true =>
          obtain ⟨back, rfl, hback⟩ := Sync.runs_log_bind_iff.mp hrest
          exact published_of_removed [_] hremoval (List.forall_mem_singleton.mpr ⟨_, rfl⟩) hback

/-- What a fallback can exchange, with the result. -/
inductive Course (layout : Layout) (failed : Revision) :
    List Exchange → Except SyncFault Outcome → Prop where
  /-- The preparations fail. -/
  | unprepared {trace : List Exchange} {fault : SyncFault}
      (hprepares : ∀ exchange ∈ trace, Prepares layout exchange.request) :
      Course layout failed trace (.error fault)
  /-- There is nothing to fall back to. -/
  | noCandidate {trace : List Exchange}
      (hprepares : ∀ exchange ∈ trace, Prepares layout exchange.request) :
      Course layout failed trace (.ok .noCandidate)
  /-- A manifest is read through the pointer and published under an identity. -/
  | published {front back : List Exchange} {contents : Bytes} {pod : Pod} {uid : String}
      {result : Except SyncFault Unit}
      (hensures : ∀ exchange ∈ front, Ensures layout exchange.request)
      (hpod : Pod.ofBytes contents = .ok pod)
      (hpublished : Published layout (pod.republished failed uid) back result) :
      Course layout failed
        (front ++ ⟨.file (.read layout.lastKnownGood), .ok contents⟩ ::
          ⟨.freshUid, uid⟩ :: back)
        (result.map fun _ => .restored failed)

private theorem runs_readCandidate {result : Except SyncFault Pod}
    (hruns : Runs (readCandidate layout).run trace result) :
    (∃ fault, result = .error fault) ∨
      ∃ contents pod, Pod.ofBytes contents = .ok pod ∧ result = .ok pod ∧
        trace = [⟨.file (.read layout.lastKnownGood), .ok contents⟩] := by
  simp only [readCandidate, Sync.file_eq_answered] at hruns
  obtain ⟨answer, rest, rfl, hrest⟩ := Sync.runs_answered_bind_iff.mp hruns
  cases answer with
  | error fault => exact Or.inl ⟨_, hrest.2⟩
  | ok contents =>
      cases hpod : Pod.ofBytes contents with
      | error fault =>
          change Runs (Sync.manifest layout.lastKnownGood (Pod.ofBytes contents)).run rest result
            at hrest
          rw [hpod] at hrest
          exact Or.inl ⟨_, (Sync.runs_throw_iff.mp hrest).2⟩
      | ok pod =>
          change Runs (Sync.manifest layout.lastKnownGood (Pod.ofBytes contents)).run rest result
            at hrest
          rw [hpod] at hrest
          obtain ⟨rfl, rfl⟩ := Sync.runs_pure_iff.mp hrest
          exact Or.inr ⟨contents, pod, hpod, rfl, rfl⟩

theorem course_of_runs {failed : Revision} {result : Except SyncFault Outcome}
    (hruns : Runs (run layout failed).run trace result) : Course layout failed trace result := by
  rcases Sync.runs_bind_iff.mp hruns with
    ⟨fault, hpointer, rfl⟩ | ⟨ready, front, back, rfl, hpointer, hnext⟩
  · exact .unprepared ((ensurePointer_asks failed).request_of_mem hpointer)
  have hensures := (ensurePointer_asks_ensures failed).request_of_mem hpointer
  have hfront : ∀ exchange ∈ front, Prepares layout exchange.request :=
    fun exchange hmem => (hensures exchange hmem).prepares
  cases ready with
  | false =>
      obtain ⟨rfl, rfl⟩ := Sync.runs_pure_iff.mp hnext
      rw [List.append_nil]
      exact .noCandidate hfront
  | true =>
      rcases Sync.runs_bind_iff.mp hnext with
        ⟨fault, hcandidate, rfl⟩ | ⟨pod, read, rest, rfl, hcandidate, hpublish⟩
      · refine .unprepared fun exchange hmem => ?_
        rcases List.mem_append.mp hmem with hmem | hmem
        exacts [hfront exchange hmem, readCandidate_asks.request_of_mem hcandidate exchange hmem]
      rcases runs_readCandidate hcandidate with
        ⟨fault, hfault⟩ | ⟨contents, found, hpod, hfound, rfl⟩
      · cases hfault
      cases hfound
      -- behind the read of the candidate only its identity is open
      obtain ⟨uid, back, rfl, hback⟩ := runs_ask_iff.mp hpublish
      have hresult : ∃ published, Runs (publish layout (pod.republished failed uid)).run back
          published ∧ result = published.map fun _ => .restored failed := by
        rcases Sync.runs_bind_iff.mp hback with
          ⟨fault, hstuck, rfl⟩ | ⟨_, _, _, rfl, hdone, hpure⟩
        · exact ⟨.error fault, hstuck, rfl⟩
        · obtain ⟨rfl, rfl⟩ := Sync.runs_pure_iff.mp hpure
          exact ⟨.ok (), by simpa using hdone, rfl⟩
      obtain ⟨published, hpublished, rfl⟩ := hresult
      exact .published hensures hpod (published_of_runs hpublished)

/-- A fallback looks for the pointer before anything else. -/
theorem look_of_runs {failed : Revision} {result : Except SyncFault Outcome}
    (hruns : Runs (run layout failed).run trace result) :
    ∃ answer rest, trace = ⟨.file (.stat layout.lastKnownGood), answer⟩ :: rest := by
  have hask : ∃ resume,
      (run layout failed).run = .ask (.file (.stat layout.lastKnownGood)) resume := ⟨_, rfl⟩
  obtain ⟨resume, hask⟩ := hask
  rw [hask] at hruns
  obtain ⟨answer, rest, htrace, -⟩ := runs_ask_iff.mp hruns
  exact ⟨answer, rest, htrace⟩

/-! ## Where the write stands -/

theorem Published.unwritten_or {pod : Pod} {result : Except SyncFault Unit}
    (hpublished : Published layout pod trace result) :
    (Unwritten trace ∧ ∃ fault, result = .error fault) ∨
      ∃ front text, trace = front ++ [⟨.file (writeCall layout text), .ok ()⟩] ∧
        Unwritten front ∧ result = .ok () := by
  cases hpublished with
  | stuck hremoval => exact Or.inl ⟨by simp [Unwritten, Exchange.isWritten], _, rfl⟩
  | @unwritable answer removed logs fault hremoval hlogs htext =>
      exact Or.inl ⟨.cons rfl (unwritten_of_isLog hlogs), _, rfl⟩
  | @wrote answer removed logs text hremoval hlogs htext written =>
      have hfront : Unwritten (⟨.file (.remove layout.activeManifest), answer⟩ :: logs) :=
        .cons rfl (unwritten_of_isLog hlogs)
      cases written with
      | ok value => exact Or.inr ⟨_, text, rfl, hfront, rfl⟩
      | error fault =>
          refine Or.inl ⟨hfront.append ?_, _, rfl⟩
          simp [Unwritten, Exchange.isWritten, writeCall]

/-- A fallback writes with success exactly if it restores a manifest, and then
the write is its last exchange. -/
theorem Course.unwritten_or {failed : Revision} {result : Except SyncFault Outcome}
    (hcourse : Course layout failed trace result) :
    (Unwritten trace ∧ ∀ other, result ≠ .ok (.restored other)) ∨
      ∃ front text, trace = front ++ [⟨.file (writeCall layout text), .ok ()⟩] ∧
        Unwritten front ∧ result = .ok (.restored failed) := by
  cases hcourse with
  | unprepared hprepares => exact Or.inl ⟨unwritten_of_prepares hprepares, by simp⟩
  | noCandidate hprepares => exact Or.inl ⟨unwritten_of_prepares hprepares, by simp⟩
  | @published front back contents pod uid result hensures hpod hpublished =>
      have hread : Unwritten [⟨.file (.read layout.lastKnownGood), .ok contents⟩,
          ⟨.freshUid, uid⟩] := by simp [Unwritten, Exchange.isWritten]
      have hprepares : ∀ exchange ∈ front, Prepares layout exchange.request :=
        fun exchange hmem => (hensures exchange hmem).prepares
      have hfront := (unwritten_of_prepares hprepares).append hread
      rcases hpublished.unwritten_or with
        ⟨hback, fault, rfl⟩ | ⟨others, text, rfl, hothers, rfl⟩
      · refine Or.inl ⟨?_, by simp [Except.map]⟩
        simpa using hfront.append hback
      · exact Or.inr ⟨_, text, by simp, hfront.append hothers, rfl⟩

end Fallback

end RevisionGuard
