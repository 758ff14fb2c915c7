import RevisionGuard.Proofs.Program.Hosts
import RevisionGuard.Proofs.Sync.Traces
import Mathlib.Tactic.Common

/-!
# Computations that may fail, on a host

Laws of `Tree.Does` and `Tree.Breaks` for the computations of `Sync`.  What a
computation comes to is read off the answers of the host one operation after the
other.  When an operation fails in a way that is no answer to it, the computation
ends there (`breaks_answered_bind_iff`).
-/

namespace RevisionGuard

namespace Sync

open Program RevisionGuard.Tree

variable {α β : Type} {tree after : Tree} {healthy : Bool} {call other : FileCall}
  {fault : FileFault}

theorem does_pure_iff {value : α} {result : Except SyncFault α} :
    Does healthy tree (pure value : Sync α).run result after ↔
      result = .ok value ∧ after = tree := by
  rw [ExceptT.run_pure, Tree.does_pure_iff]

theorem does_throw_iff {failure : SyncFault} {result : Except SyncFault α} :
    Does healthy tree (throw failure : Sync α).run result after ↔
      result = .error failure ∧ after = tree := by
  rw [ExceptT.run_throw, Tree.does_pure_iff]

theorem does_bind_iff {first : Sync α} {next : α → Sync β} {result : Except SyncFault β} :
    Does healthy tree (first >>= next).run result after ↔
      (∃ failure, Does healthy tree first.run (.error failure) after ∧ result = .error failure) ∨
        ∃ value between, Does healthy tree first.run (.ok value) between ∧
          Does healthy between (next value).run result after := by
  rw [ExceptT.run_bind, Tree.does_bind_iff]
  constructor
  · rintro ⟨middle, between, hfirst, hnext⟩
    cases middle with
    | ok value => exact Or.inr ⟨value, between, hfirst, hnext⟩
    | error failure =>
        obtain ⟨rfl, rfl⟩ := Tree.does_pure_iff.mp hnext
        exact Or.inl ⟨failure, hfirst, rfl⟩
  · rintro (⟨failure, hfirst, rfl⟩ | ⟨value, between, hfirst, hnext⟩)
    · exact ⟨.error failure, after, hfirst, Tree.does_pure_iff.mpr ⟨rfl, rfl⟩⟩
    · exact ⟨.ok value, between, hfirst, hnext⟩

/-- Two computations in a row succeed if both do. -/
theorem does_bind_ok_iff {first : Sync α} {next : α → Sync β} {value : β} :
    Does healthy tree (first >>= next).run (.ok value) after ↔
      ∃ middle between, Does healthy tree first.run (.ok middle) between ∧
        Does healthy between (next middle).run (.ok value) after := by
  rw [does_bind_iff]
  refine or_iff_right ?_
  rintro ⟨failure, -, hfailed⟩
  cases hfailed

theorem does_log_iff {level : LogLevel} {source : LogSource} {text : String}
    {result : Except SyncFault Unit} :
    Does healthy tree (log level source text).run result after ↔ result = .ok () ∧ after = tree :=
  Tree.does_log_iff.trans does_done_iff

theorem does_log_bind_iff {level : LogLevel} {source : LogSource} {text : String}
    {next : Unit → Sync α} {result : Except SyncFault α} :
    Does healthy tree (log level source text >>= next).run result after ↔
      Does healthy tree (next ()).run result after :=
  Tree.does_log_iff

theorem does_freshUid_bind_iff {next : String → Sync α} {result : Except SyncFault α} :
    Does healthy tree ((Program.freshUid : Sync String) >>= next).run result after ↔
      ∃ uid, Does healthy tree (next uid).run result after :=
  does_freshUid_iff

theorem does_answered_iff {read : other.Answer → Except SyncFault α}
    {result : Except SyncFault α} :
    Does healthy tree (answered other read).run result after ↔
      result = read (tree.answer other).1 ∧ after = (tree.answer other).2 :=
  does_file_iff.trans does_done_iff

/-- After an operation the result read off the answer decides how it goes on. -/
theorem does_answered_bind_iff {read : other.Answer → Except SyncFault α} {next : α → Sync β}
    {result : Except SyncFault β} :
    Does healthy tree (answered other read >>= next).run result after ↔
      match read (tree.answer other).1 with
      | .ok value => Does healthy (tree.answer other).2 (next value).run result after
      | .error failure => result = .error failure ∧ after = (tree.answer other).2 := by
  rw [does_bind_iff]
  simp only [does_answered_iff]
  cases hread : read (tree.answer other).1 with
  | ok value => simp
  | error failure => simp [and_comm]

theorem does_answered_bind_ok_iff {read : other.Answer → Except SyncFault α} {next : α → Sync β}
    {value : β} :
    Does healthy tree (answered other read >>= next).run (.ok value) after ↔
      ∃ middle, read (tree.answer other).1 = .ok middle ∧
        Does healthy (tree.answer other).2 (next middle).run (.ok value) after := by
  rw [does_answered_bind_iff]
  cases read (tree.answer other).1 with
  | ok middle => simp
  | error failure => simp

theorem does_file_bind_ok_iff {path : Path} {next : other.Result → Sync β} {value : β} :
    Does healthy tree (file path other >>= next).run (.ok value) after ↔
      ∃ result, (tree.answer other).1 = .ok result ∧
        Does healthy (tree.answer other).2 (next result).run (.ok value) after := by
  rw [file_eq_answered, does_answered_bind_ok_iff]
  cases (tree.answer other).1 with
  | ok result => simp [Except.mapError]
  | error fault => simp [Except.mapError]

/-- After an operation its answer decides how it goes on. -/
theorem does_file_bind_iff {path : Path} {next : other.Result → Sync β}
    {result : Except SyncFault β} :
    Does healthy tree (file path other >>= next).run result after ↔
      match (tree.answer other).1 with
      | .ok value => Does healthy (tree.answer other).2 (next value).run result after
      | .error fault => result = .error (.file path fault) ∧ after = (tree.answer other).2 := by
  rw [file_eq_answered, does_answered_bind_iff]
  cases (tree.answer other).1 with
  | ok value => exact Iff.rfl
  | error fault => exact Iff.rfl

/-- After a look what it says decides how it goes on. -/
theorem does_fileExists_bind_iff {path : Path} {next : Bool → Sync β}
    {result : Except SyncFault β} :
    Does healthy tree (fileExists path >>= next).run result after ↔
      match presence path (tree.answer (.stat path)).1 with
      | .ok found => Does healthy tree (next found).run result after
      | .error failure => result = .error failure ∧ after = tree := by
  rw [fileExists_eq_answered, does_answered_bind_iff]
  cases presence path (tree.answer (.stat path)).1 with
  | ok found => exact Iff.rfl
  | error failure => exact Iff.rfl

theorem does_fileExists_bind_ok_iff {path : Path} {next : Bool → Sync β} {value : β} :
    Does healthy tree (fileExists path >>= next).run (.ok value) after ↔
      ∃ found, presence path (tree.answer (.stat path)).1 = .ok found ∧
        Does healthy tree (next found).run (.ok value) after := by
  rw [fileExists_eq_answered]
  exact does_answered_bind_ok_iff

theorem not_breaks_pure {value : α} {result : Except SyncFault α} :
    ¬ Breaks healthy tree (pure value : Sync α).run call fault result after :=
  not_breaks_done

theorem not_breaks_throw {failure : SyncFault} {result : Except SyncFault α} :
    ¬ Breaks healthy tree (throw failure : Sync α).run call fault result after :=
  not_breaks_done

theorem breaks_bind_iff {first : Sync α} {next : α → Sync β} {result : Except SyncFault β} :
    Breaks healthy tree (first >>= next).run call fault result after ↔
      (∃ failure, Breaks healthy tree first.run call fault (.error failure) after ∧
        result = .error failure) ∨
      (∃ value between, Breaks healthy tree first.run call fault (.ok value) between ∧
        Does healthy between (next value).run result after) ∨
      ∃ value between, Does healthy tree first.run (.ok value) between ∧
        Breaks healthy between (next value).run call fault result after := by
  rw [ExceptT.run_bind, Tree.breaks_bind_iff]
  constructor
  · rintro (⟨middle, between, hfirst, hnext⟩ | ⟨middle, between, hfirst, hnext⟩)
    · cases middle with
      | ok value => exact Or.inr (Or.inl ⟨value, between, hfirst, hnext⟩)
      | error failure =>
          obtain ⟨rfl, rfl⟩ := Tree.does_pure_iff.mp hnext
          exact Or.inl ⟨failure, hfirst, rfl⟩
    · cases middle with
      | ok value => exact Or.inr (Or.inr ⟨value, between, hfirst, hnext⟩)
      | error failure => exact absurd hnext not_breaks_done
  · rintro (⟨failure, hfirst, rfl⟩ | ⟨value, between, hfirst, hnext⟩ |
      ⟨value, between, hfirst, hnext⟩)
    · exact Or.inl ⟨.error failure, after, hfirst, Tree.does_pure_iff.mpr ⟨rfl, rfl⟩⟩
    · exact Or.inl ⟨.ok value, between, hfirst, hnext⟩
    · exact Or.inr ⟨.ok value, between, hfirst, hnext⟩

/-- If an operation fails in two computations in a row, of which the first does not
get over it, then the first fails, or the operation is one of the second. -/
theorem breaks_bind_of_fails {first : Sync α} {next : α → Sync β} {result : Except SyncFault β}
    (hfails : ∀ {middle between}, Breaks healthy tree first.run call fault middle between →
      ∃ failure, middle = .error failure)
    (hbreaks : Breaks healthy tree (first >>= next).run call fault result after) :
    (∃ failure, Breaks healthy tree first.run call fault (.error failure) after ∧
        result = .error failure) ∨
      ∃ value between, Does healthy tree first.run (.ok value) between ∧
        Breaks healthy between (next value).run call fault result after := by
  rcases breaks_bind_iff.mp hbreaks with hfirst | ⟨value, between, hfirst, -⟩ | hnext
  · exact Or.inl hfirst
  · obtain ⟨failure, hfailed⟩ := hfails hfirst
    cases hfailed
  · exact Or.inr hnext

section Settled

variable {between : Tree} {first : Sync α} {next : α → Sync β} {value : α}
  {result : Except SyncFault β} (hasks : Asks Request.IsSettled first.run)
  (hfirst : Does healthy tree first.run (.ok value) between)
include hasks hfirst

/-- Behind a computation whose result is settled there is one way to go on. -/
theorem does_of_settled (hdoes : Does healthy tree (first >>= next).run result after) :
    Does healthy between (next value).run result after := by
  rcases does_bind_iff.mp hdoes with ⟨failure, hother, -⟩ | ⟨middle, _, hother, hnext⟩
  · cases (does_unique hasks hfirst hother).1
  · obtain ⟨hmiddle, rfl⟩ := does_unique hasks hfirst hother
    cases hmiddle
    exact hnext

theorem breaks_of_settled
    (hfails : ∀ {middle between}, Breaks healthy tree first.run call fault middle between →
      ∃ failure, middle = .error failure)
    (hbreaks : Breaks healthy tree (first >>= next).run call fault result after) :
    (∃ failure, Breaks healthy tree first.run call fault (.error failure) after ∧
        result = .error failure) ∨
      Breaks healthy between (next value).run call fault result after := by
  refine (breaks_bind_of_fails hfails hbreaks).imp_right ?_
  rintro ⟨middle, _, hother, hnext⟩
  obtain ⟨hmiddle, rfl⟩ := does_unique hasks hfirst hother
  cases hmiddle
  exact hnext

end Settled

theorem breaks_log_bind_iff {level : LogLevel} {source : LogSource} {text : String}
    {next : Unit → Sync α} {result : Except SyncFault α} :
    Breaks healthy tree (log level source text >>= next).run call fault result after ↔
      Breaks healthy tree (next ()).run call fault result after :=
  breaks_log_iff

theorem breaks_freshUid_bind_iff {next : String → Sync α} {result : Except SyncFault α} :
    Breaks healthy tree ((Program.freshUid : Sync String) >>= next).run call fault result after ↔
      ∃ uid, Breaks healthy tree (next uid).run call fault result after :=
  breaks_freshUid_iff

theorem breaks_answered_iff {read : other.Answer → Except SyncFault α}
    {result : Except SyncFault α} :
    Breaks healthy tree (answered other read).run call fault result after ↔
      call = other ∧ result = read (.error fault) ∧ after = tree := by
  refine breaks_file_iff.trans ?_
  simp [not_breaks_done]

/-- An operation that fails in a way that is no answer ends a computation. -/
theorem breaks_answered_bind_iff {read : other.Answer → Except SyncFault α} {next : α → Sync β}
    {result : Except SyncFault β} {failure : SyncFault}
    (hfailure : read (.error fault) = .error failure) :
    Breaks healthy tree (answered other read >>= next).run call fault result after ↔
      (call = other ∧ result = .error failure ∧ after = tree) ∨
        ∃ value, read (tree.answer other).1 = .ok value ∧
          Breaks healthy (tree.answer other).2 (next value).run call fault result after := by
  rw [breaks_bind_iff]
  simp only [breaks_answered_iff, does_answered_iff, hfailure]
  constructor
  · rintro (⟨_, ⟨rfl, hfailed, rfl⟩, rfl⟩ | ⟨value, between, ⟨-, hok, -⟩, -⟩ |
      ⟨value, _, ⟨hvalue, rfl⟩, hnext⟩)
    · cases hfailed
      exact Or.inl ⟨rfl, rfl, rfl⟩
    · cases hok
    · exact Or.inr ⟨value, hvalue.symm, hnext⟩
  · rintro (⟨rfl, rfl, rfl⟩ | ⟨value, hvalue, hnext⟩)
    · exact Or.inl ⟨failure, ⟨rfl, rfl, rfl⟩, rfl⟩
    · exact Or.inr (Or.inr ⟨value, _, ⟨hvalue.symm, rfl⟩, hnext⟩)

/-! ## Operations of one kind -/

theorem breaks_file_bind_iff {path : Path} {next : other.Result → Sync β}
    {result : Except SyncFault β} :
    Breaks healthy tree (file path other >>= next).run call fault result after ↔
      (call = other ∧ result = .error (.file path fault) ∧ after = tree) ∨
        ∃ value, (tree.answer other).1 = .ok value ∧
          Breaks healthy (tree.answer other).2 (next value).run call fault result after := by
  have hfailure : Except.mapError (SyncFault.file path) (.error fault : other.Answer) =
      .error (.file path fault) := rfl
  rw [file_eq_answered, breaks_answered_bind_iff hfailure]
  cases (tree.answer other).1 <;> simp [Except.mapError]

theorem breaks_fileExists_bind_iff {path : Path} {next : Bool → Sync β}
    {result : Except SyncFault β} (hforeign : fault.isNotFound = false) :
    Breaks healthy tree (fileExists path >>= next).run call fault result after ↔
      (call = .stat path ∧ result = .error (.file path fault) ∧ after = tree) ∨
        ∃ found, presence path (tree.answer (.stat path)).1 = .ok found ∧
          Breaks healthy tree (next found).run call fault result after := by
  have hfailure : presence path (.error fault) = .error (.file path fault) := by
    simp [presence, hforeign]
  rw [fileExists_eq_answered]
  exact breaks_answered_bind_iff hfailure

theorem breaks_removeIfExists_bind_iff {path : Path} {next : Bool → Sync β}
    {result : Except SyncFault β} (hforeign : fault.isNotFound = false) :
    Breaks healthy tree (removeIfExists path >>= next).run call fault result after ↔
      (call = .remove path ∧ result = .error (.file path fault) ∧ after = tree) ∨
        ∃ removed, removal path (tree.answer (.remove path)).1 = .ok removed ∧
          Breaks healthy (tree.answer (.remove path)).2 (next removed).run call fault result
            after := by
  have hfailure : removal path (.error fault) = .error (.file path fault) := by
    simp [removal, hforeign]
  rw [removeIfExists_eq_answered]
  exact breaks_answered_bind_iff hfailure

end Sync

end RevisionGuard
