import RevisionGuard.Proofs.Program.Asks
import Mathlib.Tactic.Common

/-!
# The calls of a trace

The file operations and the probes of a trace, in order.  What a program may ask for
bounds them: a program that asks for no probe has none in any trace, and so on.
-/

namespace RevisionGuard

/-- The file operations of a trace. -/
def fileCalls (trace : List Exchange) : List FileCall :=
  trace.filterMap fun exchange =>
    match exchange.request with
    | .file call => some call
    | _ => none

/-- The answers to the probes of a trace. -/
def probes (trace : List Exchange) : List Bool :=
  trace.filterMap fun exchange =>
    match exchange with
    | ⟨.probe, healthy⟩ => some healthy
    | _ => none

/-- The answers to the reads of files in a trace, with the paths. -/
def readings (trace : List Exchange) : List (Path × Except FileFault Bytes) :=
  trace.filterMap fun exchange =>
    match exchange with
    | ⟨.file (.read path), answer⟩ => some (path, answer)
    | _ => none

/-- The answers to the looks at a path in a trace. -/
def looks (path : Path) (trace : List Exchange) : List (Except FileFault Bool) :=
  trace.filterMap fun exchange =>
    match exchange with
    | ⟨.file (.stat other), answer⟩ => if other.same path then some answer else none
    | _ => none

/-- The new identities in a trace. -/
def identities (trace : List Exchange) : List String :=
  trace.filterMap fun exchange =>
    match exchange with
    | ⟨.freshUid, uid⟩ => some uid
    | _ => none

/-- The path at which an operation changes files, if it can. -/
def FileCall.changed? : FileCall → Option Path
  | .write path _ _ | .remove path | .symlink _ path => some path
  | .stat _ | .read _ | .list _ => none

/-- Whether an operation removes what is at a path. -/
def FileCall.removes (path : Path) : FileCall → Bool
  | .remove other => other.same path
  | _ => false

/-- Whether an operation writes the file at a path. -/
def FileCall.writes (path : Path) : FileCall → Bool
  | .write other _ _ => other.same path
  | _ => false

@[simp] theorem Path.same_self (path : Path) : path.same path = true := decide_eq_true rfl

@[simp] theorem FileCall.removes_remove {path other : Path} :
    FileCall.removes path (.remove other) = other.same path := rfl

@[simp] theorem FileCall.removes_write {path other : Path} {contents : Bytes} {mode : Nat} :
    FileCall.removes path (.write other contents mode) = false := rfl

@[simp] theorem FileCall.writes_remove {path other : Path} :
    FileCall.writes path (.remove other) = false := rfl

@[simp] theorem FileCall.writes_write {path other : Path} {contents : Bytes} {mode : Nat} :
    FileCall.writes path (.write other contents mode) = other.same path := rfl

/-- Nothing in a trace changes files at a path. -/
def Spares (path : Path) (trace : List Exchange) : Prop :=
  ∀ call ∈ fileCalls trace, ∀ changed ∈ call.changed?, changed.same path = false

/-- Nothing in a trace changes files. -/
def ReadsOnly (trace : List Exchange) : Prop := ∀ call ∈ fileCalls trace, call.changed? = none

variable {trace front back : List Exchange} {call : FileCall} {healthy : Bool} {entry : LogEntry}
  {path : Path}

theorem fileCalls_append : fileCalls (front ++ back) = fileCalls front ++ fileCalls back :=
  List.filterMap_append

@[simp] theorem fileCalls_nil : fileCalls [] = [] := rfl

@[simp] theorem fileCalls_file {answer : call.Answer} :
    fileCalls (⟨.file call, answer⟩ :: trace) = call :: fileCalls trace := rfl

@[simp] theorem fileCalls_log {answer : Unit} :
    fileCalls (⟨.log entry, answer⟩ :: trace) = fileCalls trace := rfl

theorem probes_append : probes (front ++ back) = probes front ++ probes back :=
  List.filterMap_append

@[simp] theorem probes_log {answer : Unit} :
    probes (⟨.log entry, answer⟩ :: trace) = probes trace := rfl

@[simp] theorem probes_file {answer : call.Answer} :
    probes (⟨.file call, answer⟩ :: trace) = probes trace := rfl

@[simp] theorem probes_probe :
    probes (⟨.probe, healthy⟩ :: trace) = healthy :: probes trace := rfl

theorem mem_fileCalls_iff :
    call ∈ fileCalls trace ↔ ∃ answer, ⟨.file call, answer⟩ ∈ trace := by
  rw [fileCalls, List.mem_filterMap]
  constructor
  · rintro ⟨⟨request, answer⟩, hmem, hcall⟩
    cases request with
    | file other =>
        obtain rfl : other = call := Option.some.inj hcall
        exact ⟨answer, hmem⟩
    | _ => cases hcall
  · rintro ⟨answer, hmem⟩
    exact ⟨_, hmem, rfl⟩

theorem mem_probes_iff : healthy ∈ probes trace ↔ ⟨.probe, healthy⟩ ∈ trace := by
  rw [probes, List.mem_filterMap]
  constructor
  · rintro ⟨⟨request, answer⟩, hmem, hprobe⟩
    cases request with
    | probe =>
        obtain rfl : answer = healthy := Option.some.inj hprobe
        exact hmem
    | _ => cases hprobe
  · intro hmem
    exact ⟨_, hmem, rfl⟩

theorem probes_eq_nil (hnever : ∀ exchange ∈ trace, exchange.request ≠ .probe) :
    probes trace = [] := by
  refine List.eq_nil_iff_forall_not_mem.mpr fun healthy hmem => ?_
  exact hnever _ (mem_probes_iff.mp hmem) rfl

theorem fileCalls_of_isLog (hlogs : ∀ exchange ∈ trace, exchange.request.IsLog) :
    fileCalls trace = [] := by
  refine List.filterMap_eq_nil_iff.mpr fun exchange hmem => ?_
  obtain ⟨entry, hentry⟩ := hlogs exchange hmem
  rw [hentry]

theorem probes_of_isLog (hlogs : ∀ exchange ∈ trace, exchange.request.IsLog) :
    probes trace = [] := by
  refine probes_eq_nil fun exchange hmem hprobe => ?_
  obtain ⟨entry, hentry⟩ := hlogs exchange hmem
  rw [hprobe] at hentry
  cases hentry

@[simp] theorem fileCalls_freshUid {uid : String} :
    fileCalls (⟨.freshUid, uid⟩ :: trace) = fileCalls trace := rfl

@[simp] theorem readings_read {answer : Except FileFault Bytes} :
    readings (⟨.file (.read path), answer⟩ :: trace) = (path, answer) :: readings trace := rfl

@[simp] theorem readings_remove {answer : Except FileFault Unit} :
    readings (⟨.file (.remove path), answer⟩ :: trace) = readings trace := rfl

@[simp] theorem readings_freshUid {uid : String} :
    readings (⟨.freshUid, uid⟩ :: trace) = readings trace := rfl

theorem readings_append : readings (front ++ back) = readings front ++ readings back :=
  List.filterMap_append

theorem readings_eq_nil
    (hnever : ∀ exchange ∈ trace, ∀ path, exchange.request ≠ .file (.read path)) :
    readings trace = [] := by
  refine List.filterMap_eq_nil_iff.mpr fun exchange hmem => ?_
  obtain ⟨request, answer⟩ := exchange
  match request with
  | .file (.read path) => exact (hnever _ hmem path rfl).elim
  | .file (.stat _) | .file (.write _ _ _) | .file (.remove _) | .file (.symlink _ _)
  | .file (.list _) | .watch _ _ | .probe | .freshUid | .clock | .pause _ | .log _ => rfl

theorem looks_append : looks path (front ++ back) = looks path front ++ looks path back :=
  List.filterMap_append

@[simp] theorem looks_nil : looks path [] = [] := rfl

@[simp] theorem looks_stat_self {answer : Except FileFault Bool} :
    looks path (⟨.file (.stat path), answer⟩ :: trace) = answer :: looks path trace := by
  simp [looks]

theorem looks_eq_nil (hnever : ∀ exchange ∈ trace, ∀ other, other.same path = true →
    exchange.request ≠ .file (.stat other)) : looks path trace = [] := by
  refine List.filterMap_eq_nil_iff.mpr fun exchange hmem => ?_
  split
  · rename_i other answer
    split
    · rename_i hsame
      exact absurd rfl (hnever _ hmem other hsame)
    · rfl
  · rfl

@[simp] theorem identities_file {answer : call.Answer} :
    identities (⟨.file call, answer⟩ :: trace) = identities trace := rfl

@[simp] theorem identities_freshUid {uid : String} :
    identities (⟨.freshUid, uid⟩ :: trace) = uid :: identities trace := rfl

theorem identities_append : identities (front ++ back) = identities front ++ identities back :=
  List.filterMap_append

theorem identities_eq_nil (hnever : ∀ exchange ∈ trace, exchange.request ≠ .freshUid) :
    identities trace = [] := by
  refine List.filterMap_eq_nil_iff.mpr fun exchange hmem => ?_
  obtain ⟨request, answer⟩ := exchange
  cases request with
  | freshUid => exact (hnever _ hmem rfl).elim
  | _ => rfl

/-- A file operation of a kind that the first part of a trace has none of stands in the
second part. -/
theorem behind_of_split (kind : FileCall → Bool) {first second : List Exchange}
    {answer : call.Answer} (hsplit : first ++ second = front ++ ⟨.file call, answer⟩ :: back)
    (hfirst : ∀ other ∈ fileCalls first, kind other = false) (hkind : kind call = true) :
    ∃ middle, front = first ++ middle ∧ second = middle ++ ⟨.file call, answer⟩ :: back := by
  rcases List.append_eq_append_iff.mp hsplit with ⟨middle, hfront, hsecond⟩ | ⟨rest, rfl, hrest⟩
  · exact ⟨middle, hfront, hsecond⟩
  · cases rest with
    | nil => exact ⟨[], by simp, hrest.symm⟩
    | cons other rest =>
        obtain ⟨rfl, -⟩ := List.cons.inj hrest
        have hmem : call ∈ fileCalls (front ++ ⟨.file call, answer⟩ :: rest) :=
          mem_fileCalls_iff.mpr ⟨answer, by simp⟩
        rw [hfirst call hmem] at hkind
        cases hkind

/-! ## Traces that change nothing -/

@[simp] theorem readsOnly_nil : ReadsOnly [] := by simp [ReadsOnly, fileCalls]

@[simp] theorem readsOnly_file_iff {answer : call.Answer} :
    ReadsOnly (⟨.file call, answer⟩ :: trace) ↔ call.changed? = none ∧ ReadsOnly trace := by
  simp [ReadsOnly]

@[simp] theorem readsOnly_log_iff {answer : Unit} :
    ReadsOnly (⟨.log entry, answer⟩ :: trace) ↔ ReadsOnly trace := by
  simp [ReadsOnly]

@[simp] theorem readsOnly_append_iff :
    ReadsOnly (front ++ back) ↔ ReadsOnly front ∧ ReadsOnly back := by
  simp only [ReadsOnly, fileCalls_append, List.forall_mem_append]

/-! ## Paths that are spared -/

theorem spares_of_fileCalls_nil (hcalls : fileCalls trace = []) : Spares path trace := by
  intro call hcall
  rw [hcalls] at hcall
  cases hcall

@[simp] theorem spares_nil : Spares path [] := spares_of_fileCalls_nil rfl

@[simp] theorem spares_file_iff {answer : call.Answer} :
    Spares path (⟨.file call, answer⟩ :: trace) ↔
      (∀ changed ∈ call.changed?, changed.same path = false) ∧ Spares path trace := by
  simp only [Spares, fileCalls_file, List.forall_mem_cons]

@[simp] theorem spares_probe_iff :
    Spares path (⟨.probe, healthy⟩ :: trace) ↔ Spares path trace := Iff.rfl

theorem Spares.not_removes (hspares : Spares path trace) (hmem : call ∈ fileCalls trace) :
    call.removes path = false := by
  cases call with
  | remove other => exact hspares _ hmem other rfl
  | _ => rfl

theorem Spares.not_writes (hspares : Spares path trace) (hmem : call ∈ fileCalls trace) :
    call.writes path = false := by
  cases call with
  | write other contents mode => exact hspares _ hmem other rfl
  | _ => rfl

end RevisionGuard
