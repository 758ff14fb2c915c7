import RevisionGuard.Proofs.Program.Asks
import RevisionGuard.Sync.Fault
import Mathlib.Tactic.Common

/-!
# Traces of programs that may fail

Laws of `Program.Runs` and `Program.Asks` for the computations of `Sync`.  The
file operations of a sync all have one shape, `Sync.answered`: one request, and
a result that is read off the answer.  `presence` and `removal` are what is read
off the answers to a look and to a removal, so that a statement about a trace
can speak of answers alone.
-/

namespace RevisionGuard

open Program

namespace Sync

variable {α β : Type} {trace : List Exchange} {allowed : Request → Prop}

/-! ## Sequences -/

theorem runs_pure_iff {value : α} {result : Except SyncFault α} :
    Runs (pure value : Sync α).run trace result ↔ trace = [] ∧ result = .ok value := by
  rw [ExceptT.run_pure, Program.runs_pure_iff]

theorem runs_throw_iff {fault : SyncFault} {result : Except SyncFault α} :
    Runs (throw fault : Sync α).run trace result ↔ trace = [] ∧ result = .error fault := by
  rw [ExceptT.run_throw, Program.runs_pure_iff]

/-- Two computations in a row end with the fault of the first, or the second
goes on from its result. -/
theorem runs_bind_iff {first : Sync α} {next : α → Sync β} {result : Except SyncFault β} :
    Runs (first >>= next).run trace result ↔
      (∃ fault, Runs first.run trace (.error fault) ∧ result = .error fault) ∨
        ∃ middle front back, trace = front ++ back ∧ Runs first.run front (.ok middle) ∧
          Runs (next middle).run back result := by
  rw [ExceptT.run_bind, Program.runs_bind_iff]
  constructor
  · rintro ⟨middle, front, back, rfl, hfirst, hnext⟩
    cases middle with
    | ok middle => exact Or.inr ⟨middle, front, back, rfl, hfirst, hnext⟩
    | error fault =>
        obtain ⟨rfl, rfl⟩ := Program.runs_pure_iff.mp hnext
        exact Or.inl ⟨fault, by simpa using hfirst, rfl⟩
  · rintro (⟨fault, hfirst, rfl⟩ | ⟨middle, front, back, rfl, hfirst, hnext⟩)
    · exact ⟨.error fault, trace, [], by simp, hfirst, Program.runs_pure_iff.mpr ⟨rfl, rfl⟩⟩
    · exact ⟨.ok middle, front, back, rfl, hfirst, hnext⟩

/-- A program that cannot fail, with what follows it. -/
theorem runs_lift_bind_iff {program : Program α} {next : α → Sync β}
    {result : Except SyncFault β} :
    Runs ((liftM program : Sync α) >>= next).run trace result ↔
      ∃ value front back, trace = front ++ back ∧ Runs program front value ∧
        Runs (next value).run back result := by
  change Runs ((program >>= fun value => pure (.ok value)) >>= ExceptT.bindCont next) trace
    result ↔ _
  rw [Program.bind_assoc, Program.runs_bind_iff]
  rfl

theorem asks_pure (value : α) : Asks allowed (pure value : Sync α).run := trivial

theorem asks_throw (fault : SyncFault) : Asks allowed (throw fault : Sync α).run := trivial

theorem asks_bind {first : Sync α} {next : α → Sync β} (hfirst : Asks allowed first.run)
    (hnext : ∀ middle, Asks allowed (next middle).run) : Asks allowed (first >>= next).run := by
  rw [ExceptT.run_bind]
  refine hfirst.bind fun middle => ?_
  cases middle with
  | ok middle => exact hnext middle
  | error fault => exact Program.asks_pure _

theorem asks_lift {program : Program α} (hasks : Asks allowed program) :
    Asks allowed (liftM program : Sync α).run := by
  change Asks allowed (Except.ok <$> program)
  rw [map_eq_pure_bind]
  exact hasks.bind fun value => Program.asks_pure _

/-! ## Log entries -/

theorem runs_log_bind_iff {level : LogLevel} {source : LogSource} {text : String}
    {next : Unit → Sync α} {result : Except SyncFault α} :
    Runs (log level source text >>= next).run trace result ↔
      ∃ rest, trace = ⟨.log ⟨level, source, text⟩, ()⟩ :: rest ∧
        Runs (next ()).run rest result := by
  change Runs (Program.ask (.log ⟨level, source, text⟩) fun _ => (next ()).run) trace result ↔ _
  rw [runs_ask_iff]
  exact ⟨fun ⟨(), rest, htrace, hrest⟩ => ⟨rest, htrace, hrest⟩,
    fun ⟨rest, htrace, hrest⟩ => ⟨(), rest, htrace, hrest⟩⟩

theorem asks_log {level : LogLevel} {source : LogSource} {text : String}
    (hallowed : allowed (.log ⟨level, source, text⟩)) :
    Asks allowed (log level source text).run :=
  asks_lift (asks_request hallowed)

/-! ## Operations -/

/-- Perform a file operation and read the result off the answer. -/
def answered (call : FileCall) (read : call.Answer → Except SyncFault α) : Sync α :=
  ExceptT.mk (.ask (.file call) fun answer => .done (read answer))

theorem runs_answered_iff {call : FileCall} {read : call.Answer → Except SyncFault α}
    {result : Except SyncFault α} :
    Runs (answered call read).run trace result ↔
      ∃ answer, trace = [⟨.file call, answer⟩] ∧ result = read answer := by
  rw [answered, ExceptT.run_mk, runs_ask_iff]
  constructor
  · rintro ⟨answer, rest, rfl, hrest⟩
    obtain ⟨rfl, rfl⟩ := runs_done_iff.mp hrest
    exact ⟨answer, rfl, rfl⟩
  · rintro ⟨answer, rfl, rfl⟩
    exact ⟨answer, [], rfl, .done _⟩

theorem asks_answered {call : FileCall} {read : call.Answer → Except SyncFault α}
    (hallowed : allowed (.file call)) : Asks allowed (answered call read).run :=
  ⟨hallowed, fun _ => trivial⟩

/-- After an operation the result read off the answer decides how it goes on. -/
theorem runs_answered_bind_iff {call : FileCall} {read : call.Answer → Except SyncFault α}
    {next : α → Sync β} {result : Except SyncFault β} :
    Runs (answered call read >>= next).run trace result ↔
      ∃ answer rest, trace = ⟨.file call, answer⟩ :: rest ∧
        match read answer with
        | .ok value => Runs (next value).run rest result
        | .error fault => rest = [] ∧ result = .error fault := by
  rw [runs_bind_iff]
  simp only [runs_answered_iff]
  constructor
  · rintro (⟨fault, ⟨answer, rfl, hread⟩, rfl⟩ | ⟨value, _, back, rfl, ⟨answer, rfl, hread⟩, hnext⟩)
    · exact ⟨answer, [], rfl, by rw [← hread]; exact ⟨rfl, rfl⟩⟩
    · exact ⟨answer, back, rfl, by rw [← hread]; exact hnext⟩
  · rintro ⟨answer, rest, rfl, hrest⟩
    cases hread : read answer with
    | ok value =>
        rw [hread] at hrest
        exact Or.inr ⟨value, _, rest, rfl, ⟨answer, rfl, hread.symm⟩, hrest⟩
    | error fault =>
        rw [hread] at hrest
        obtain ⟨rfl, rfl⟩ := hrest
        exact Or.inl ⟨fault, ⟨answer, rfl, hread.symm⟩, rfl⟩

/-- What the answer to a look at a path says: whether something other than a
directory is there. -/
def presence (path : Path) : Except FileFault Bool → Except SyncFault Bool
  | .ok true => .error (.notAPointer path)
  | .ok false => .ok true
  | .error fault => if fault.isNotFound then .ok false else .error (.file path fault)

/-- What the answer to a removal says: whether anything was there. -/
def removal (path : Path) : Except FileFault Unit → Except SyncFault Bool
  | .ok () => .ok true
  | .error fault => if fault.isNotFound then .ok false else .error (.file path fault)

theorem presence_eq_false_iff {path : Path} {answer : Except FileFault Bool} :
    presence path answer = .ok false ↔
      ∃ fault : FileFault, fault.isNotFound = true ∧ answer = .error fault := by
  rcases answer with fault | (_ | _)
  · by_cases hmissing : fault.isNotFound = true <;> simp [presence, hmissing]
  · simp [presence]
  · simp [presence]

theorem presence_eq_true_iff {path : Path} {answer : Except FileFault Bool} :
    presence path answer = .ok true ↔ answer = .ok false := by
  rcases answer with fault | (_ | _)
  · by_cases hmissing : fault.isNotFound = true <;> simp [presence, hmissing]
  · simp [presence]
  · simp [presence]

/-- A removal that does not fail leaves nothing at the path. -/
theorem removal_eq_ok_iff {path : Path} {answer : Except FileFault Unit} :
    (∃ removed, removal path answer = .ok removed) ↔
      answer = .ok () ∨ ∃ fault : FileFault, fault.isNotFound = true ∧ answer = .error fault := by
  rcases answer with fault | value
  · by_cases hmissing : fault.isNotFound = true <;> simp [removal, hmissing]
  · simp [removal]

theorem file_eq_answered (path : Path) (call : FileCall) :
    file path call = answered call (Except.mapError (.file path)) := by
  refine congrArg (Program.ask (.file call)) (funext fun answer => ?_)
  cases answer with
  | ok result => rfl
  | error fault => rfl

theorem fileExists_eq_answered (path : Path) :
    fileExists path = answered (.stat path) (presence path) := by
  refine congrArg (Program.ask (.file (.stat path))) (funext fun answer => ?_)
  match answer with
  | .ok true => rfl
  | .ok false => rfl
  | .error fault =>
      change (if fault.isNotFound = true then pure false else throw (.file path fault) :
        Sync Bool).run = .done (presence path (.error fault))
      by_cases hfound : fault.isNotFound = true
      · rw [if_pos hfound, presence, if_pos hfound]
        rfl
      · rw [if_neg hfound, presence, if_neg hfound]
        rfl

theorem removeIfExists_eq_answered (path : Path) :
    removeIfExists path = answered (.remove path) (removal path) := by
  refine congrArg (Program.ask (.file (.remove path))) (funext fun answer => ?_)
  match answer with
  | .ok () => rfl
  | .error fault =>
      change (if fault.isNotFound = true then pure false else throw (.file path fault) :
        Sync Bool).run = .done (removal path (.error fault))
      by_cases hfound : fault.isNotFound = true
      · rw [if_pos hfound, removal, if_pos hfound]
        rfl
      · rw [if_neg hfound, removal, if_neg hfound]
        rfl

theorem asks_file {path : Path} {call : FileCall} (hallowed : allowed (.file call)) :
    Asks allowed (file path call).run := by
  rw [file_eq_answered]
  exact asks_answered hallowed

theorem asks_fileExists {path : Path} (hallowed : allowed (.file (.stat path))) :
    Asks allowed (fileExists path).run := by
  rw [fileExists_eq_answered]
  exact asks_answered hallowed

theorem asks_removeIfExists {path : Path} (hallowed : allowed (.file (.remove path))) :
    Asks allowed (removeIfExists path).run := by
  rw [removeIfExists_eq_answered]
  exact asks_answered hallowed

theorem asks_manifest (path : Path) (read : Except Pod.Fault α) :
    Asks allowed (manifest path read).run := by
  cases read with
  | ok value => exact asks_pure value
  | error fault => exact asks_throw _

theorem asks_ite {condition : Prop} [Decidable condition] {first second : Sync α}
    (hfirst : Asks allowed first.run) (hsecond : Asks allowed second.run) :
    Asks allowed (if condition then first else second).run := by
  split
  exacts [hfirst, hsecond]

end Sync

end RevisionGuard
