import RevisionGuard.Files.Tree.Answer
import RevisionGuard.Proofs.Program.Asks
import Mathlib.Tactic.Common

/-!
# Programs on a host

A host has files and a target that is healthy or not.  `Tree.Hosts` says that the
answers of a trace are those of a host, `Tree.Does` what a program comes to on it,
and `Tree.Breaks` what it comes to when one file operation fails that the host
would have answered otherwise, and without a change to the files.  The identities,
the times and the pauses of a host are left open.

Each of the relations follows the shape of the program: there is one law for each
way to put programs together.  On every host every program comes to a result
(`exists_does`), for instance the one that `host` computes (`does_run`).
-/

namespace RevisionGuard

open Program

/-- A request to which every host has one answer. -/
def Request.IsSettled : Request → Prop
  | .freshUid | .clock | .pause _ => False
  | _ => True

namespace Tree

variable {α β : Type} {tree after between : Tree} {healthy : Bool}
  {trace front back : List Exchange} {call other : FileCall} {fault : FileFault}

/-- The answers of a trace are those of a host with these files and a target of
this health, and leave these files. -/
def Hosts (healthy : Bool) : Tree → List Exchange → Tree → Prop
  | tree, [], after => after = tree
  | tree, ⟨.file call, answer⟩ :: rest, after =>
    answer = (tree.answer call).1 ∧ Hosts healthy (tree.answer call).2 rest after
  | tree, ⟨.probe, answer⟩ :: rest, after => answer = healthy ∧ Hosts healthy tree rest after
  | tree, _ :: rest, after => Hosts healthy tree rest after

/-- On a host a program comes to a result and leaves these files. -/
def Does (healthy : Bool) (tree : Tree) (program : Program α) (result : α) (after : Tree) : Prop :=
  ∃ trace, Runs program trace result ∧ Hosts healthy tree trace after

/-- On a host on which one file operation of a program fails, without a change to
the files, the program comes to a result and leaves these files. -/
def Breaks (healthy : Bool) (tree : Tree) (program : Program α) (call : FileCall)
    (fault : FileFault) (result : α) (after : Tree) : Prop :=
  ∃ front back between, Runs program (front ++ ⟨.file call, .error fault⟩ :: back) result ∧
    Hosts healthy tree front between ∧ Hosts healthy between back after

/-! ## Traces in a row -/

theorem hosts_nil_iff : Hosts healthy tree [] after ↔ after = tree := Iff.rfl

theorem hosts_file_iff {answer : call.Answer} :
    Hosts healthy tree (⟨.file call, answer⟩ :: back) after ↔
      answer = (tree.answer call).1 ∧ Hosts healthy (tree.answer call).2 back after := Iff.rfl

theorem hosts_probe_iff {answer : Bool} :
    Hosts healthy tree (⟨.probe, answer⟩ :: back) after ↔
      answer = healthy ∧ Hosts healthy tree back after := Iff.rfl

theorem hosts_freshUid_iff {uid : String} :
    Hosts healthy tree (⟨.freshUid, uid⟩ :: back) after ↔ Hosts healthy tree back after := Iff.rfl

theorem hosts_log_iff {entry : LogEntry} {answer : Unit} :
    Hosts healthy tree (⟨.log entry, answer⟩ :: back) after ↔ Hosts healthy tree back after :=
  Iff.rfl

theorem hosts_append_iff :
    Hosts healthy tree (front ++ back) after ↔
      ∃ between, Hosts healthy tree front between ∧ Hosts healthy between back after := by
  induction front generalizing tree with
  | nil =>
      constructor
      · intro hback
        exact ⟨tree, rfl, hback⟩
      · rintro ⟨_, rfl, hback⟩
        exact hback
  | cons exchange front ih =>
      obtain ⟨request, answer⟩ := exchange
      cases request with
      | file call => simp only [List.cons_append, hosts_file_iff, ih, and_assoc, exists_and_left]
      | probe => simp only [List.cons_append, hosts_probe_iff, ih, and_assoc, exists_and_left]
      | watch readyFile interval => exact ih
      | freshUid => exact ih
      | clock => exact ih
      | pause span => exact ih
      | log entry => exact ih

/-! ## What a program comes to -/

@[simp] theorem does_done_iff {value result : α} :
    Does healthy tree (.done value) result after ↔ result = value ∧ after = tree := by
  constructor
  · rintro ⟨trace, hruns, hhosts⟩
    obtain ⟨rfl, rfl⟩ := runs_done_iff.mp hruns
    exact ⟨rfl, hhosts⟩
  · rintro ⟨rfl, rfl⟩
    exact ⟨[], .done _, rfl⟩

@[simp] theorem does_pure_iff {value result : α} :
    Does healthy tree (pure value) result after ↔ result = value ∧ after = tree :=
  does_done_iff

theorem does_bind_iff {program : Program α} {next : α → Program β} {result : β} :
    Does healthy tree (program >>= next) result after ↔
      ∃ middle between, Does healthy tree program middle between ∧
        Does healthy between (next middle) result after := by
  constructor
  · rintro ⟨trace, hruns, hhosts⟩
    obtain ⟨middle, front, back, rfl, hfront, hback⟩ := Program.runs_bind_iff.mp hruns
    obtain ⟨between, hfirst, hsecond⟩ := hosts_append_iff.mp hhosts
    exact ⟨middle, between, ⟨front, hfront, hfirst⟩, ⟨back, hback, hsecond⟩⟩
  · rintro ⟨middle, between, ⟨front, hfront, hfirst⟩, ⟨back, hback, hsecond⟩⟩
    exact ⟨front ++ back, Program.runs_bind_iff.mpr ⟨middle, front, back, rfl, hfront, hback⟩,
      hosts_append_iff.mpr ⟨between, hfirst, hsecond⟩⟩

/-- A program that begins with a request goes on from the answer of the host. -/
theorem does_ask_iff {request : Request} {resume : request.Answer → Program α} {result : α} :
    Does healthy tree (.ask request resume) result after ↔
      ∃ answer between, Hosts healthy tree [⟨request, answer⟩] between ∧
        Does healthy between (resume answer) result after := by
  constructor
  · rintro ⟨trace, hruns, hhosts⟩
    obtain ⟨answer, rest, rfl, hrest⟩ := runs_ask_iff.mp hruns
    rw [← List.singleton_append, hosts_append_iff] at hhosts
    obtain ⟨between, hfirst, hhosts⟩ := hhosts
    exact ⟨answer, between, hfirst, rest, hrest, hhosts⟩
  · rintro ⟨answer, between, hfirst, rest, hrest, hhosts⟩
    exact ⟨⟨request, answer⟩ :: rest, .ask answer hrest,
      (List.singleton_append ▸ hosts_append_iff.mpr ⟨between, hfirst, hhosts⟩ : _)⟩

theorem does_file_iff {resume : call.Answer → Program α} {result : α} :
    Does healthy tree (.ask (.file call) resume) result after ↔
      Does healthy (tree.answer call).2 (resume (tree.answer call).1) result after := by
  simp [does_ask_iff, hosts_file_iff, hosts_nil_iff]

theorem does_probe_iff {resume : Bool → Program α} {result : α} :
    Does healthy tree (.ask .probe resume) result after ↔
      Does healthy tree (resume healthy) result after := by
  simp [does_ask_iff, hosts_probe_iff, hosts_nil_iff]

theorem does_log_iff {entry : LogEntry} {resume : Unit → Program α} {result : α} :
    Does healthy tree (.ask (.log entry) resume) result after ↔
      Does healthy tree (resume ()) result after := by
  simp only [does_ask_iff, hosts_log_iff, hosts_nil_iff, exists_eq_left]
  exact ⟨fun ⟨(), hdoes⟩ => hdoes, fun hdoes => ⟨(), hdoes⟩⟩

theorem does_freshUid_iff {resume : String → Program α} {result : α} :
    Does healthy tree (.ask .freshUid resume) result after ↔
      ∃ uid, Does healthy tree (resume uid) result after := by
  simp [does_ask_iff, hosts_freshUid_iff, hosts_nil_iff]

/-- The answers of a host on which every identity and every time is the same. -/
def host (healthy : Bool) (uid : String) (request : Request) (tree : Tree) :
    request.Answer × Tree :=
  match request with
  | .file call => tree.answer call
  | .watch _ _ => ((), tree)
  | .probe => (healthy, tree)
  | .freshUid => (uid, tree)
  | .clock => (Instant.origin, tree)
  | .pause _ => (true, tree)
  | .log _ => ((), tree)

theorem hosts_host (healthy : Bool) (uid : String) (request : Request) (tree : Tree) :
    Hosts healthy tree [⟨request, (host healthy uid request tree).1⟩]
      (host healthy uid request tree).2 := by
  cases request with
  | file call => exact ⟨rfl, rfl⟩
  | watch readyFile interval => rfl
  | probe => exact ⟨rfl, rfl⟩
  | freshUid => rfl
  | clock => rfl
  | pause span => rfl
  | log entry => rfl

/-- A program that is run on a host comes to its result. -/
theorem does_run (healthy : Bool) (uid : String) (tree : Tree) (program : Program α) :
    Does healthy tree program (program.run (host healthy uid) tree).1
      (program.run (host healthy uid) tree).2 := by
  induction program generalizing tree with
  | done result => exact does_done_iff.mpr ⟨rfl, rfl⟩
  | ask request resume ih =>
      exact does_ask_iff.mpr ⟨_, _, hosts_host healthy uid request tree, ih _ _⟩

/-- On every host a program comes to a result. -/
theorem exists_does (healthy : Bool) (tree : Tree) (program : Program α) :
    ∃ result after, Does healthy tree program result after :=
  ⟨_, _, does_run healthy "" tree program⟩

/-- What a program comes to on a host is settled if the program asks for nothing
that the host leaves open. -/
theorem does_unique {program : Program α} {first second : α} {others : Tree}
    (hasks : Asks Request.IsSettled program) (hfirst : Does healthy tree program first after)
    (hsecond : Does healthy tree program second others) : second = first ∧ others = after := by
  induction program generalizing tree with
  | done value =>
      obtain ⟨rfl, rfl⟩ := does_done_iff.mp hfirst
      exact does_done_iff.mp hsecond
  | ask request resume ih =>
      obtain ⟨answer, between, hanswer, hrest⟩ := does_ask_iff.mp hfirst
      obtain ⟨other, elsewhere, hother, hothers⟩ := does_ask_iff.mp hsecond
      have hsame : other = answer ∧ elsewhere = between := by
        cases request with
        | file call =>
            obtain ⟨rfl, rfl⟩ := hanswer
            exact hother
        | probe =>
            obtain ⟨rfl, rfl⟩ := hanswer
            exact hother
        | watch readyFile interval => exact ⟨rfl, hother.trans hanswer.symm⟩
        | log entry => exact ⟨rfl, hother.trans hanswer.symm⟩
        | freshUid => exact hasks.1.elim
        | clock => exact hasks.1.elim
        | pause span => exact hasks.1.elim
      obtain ⟨rfl, rfl⟩ := hsame
      exact ih _ (hasks.2 _) hrest hothers

theorem does_iff_of_does {program : Program α} {settled : α}
    (hasks : Asks Request.IsSettled program) (hdoes : Does healthy tree program settled after)
    (result : α) (final : Tree) :
    Does healthy tree program result final ↔ result = settled ∧ final = after := by
  constructor
  · exact does_unique hasks hdoes
  · rintro ⟨rfl, rfl⟩
    exact hdoes

/-- A program that only makes log entries comes to the same on every host, and
leaves the files. -/
theorem does_of_isLog {program : Program α} {result : α} (hasks : Asks Request.IsLog program)
    (hdoes : Does healthy tree program result after) :
    after = tree ∧ ∀ other, Does healthy other program result other := by
  induction program with
  | done value =>
      obtain ⟨rfl, rfl⟩ := does_done_iff.mp hdoes
      exact ⟨rfl, fun other => does_done_iff.mpr ⟨rfl, rfl⟩⟩
  | ask request resume ih =>
      obtain ⟨⟨entry, rfl⟩, hrest⟩ := hasks
      obtain ⟨rfl, hothers⟩ := ih () (hrest ()) (does_log_iff.mp hdoes)
      exact ⟨rfl, fun other => does_log_iff.mpr (hothers other)⟩

/-! ## What becomes of a program when an operation fails -/

theorem not_breaks_done {value result : α} :
    ¬ Breaks healthy tree (.done value) call fault result after := by
  rintro ⟨front, back, between, hruns, -⟩
  obtain ⟨hnil, -⟩ := runs_done_iff.mp hruns
  simp at hnil

/-- Of two programs in a row one is whole, and in the other the operation
fails. -/
theorem breaks_bind_iff {program : Program α} {next : α → Program β} {result : β} :
    Breaks healthy tree (program >>= next) call fault result after ↔
      (∃ middle between, Breaks healthy tree program call fault middle between ∧
        Does healthy between (next middle) result after) ∨
      ∃ middle between, Does healthy tree program middle between ∧
        Breaks healthy between (next middle) call fault result after := by
  constructor
  · rintro ⟨front, back, broken, hruns, hfront, hback⟩
    obtain ⟨middle, first, second, htrace, hfirst, hsecond⟩ := Program.runs_bind_iff.mp hruns
    rcases List.append_eq_append_iff.mp htrace with ⟨others, rfl, hrest⟩ | ⟨others, rfl, rfl⟩
    · cases others with
      | nil =>
          -- The operation that fails is the first one of the second program.
          subst hrest
          refine Or.inr ⟨middle, broken, ⟨front, by simpa using hfirst, hfront⟩, ?_⟩
          exact ⟨[], back, broken, hsecond, rfl, hback⟩
      | cons failed others =>
          obtain ⟨rfl, rfl⟩ := List.cons.inj hrest
          obtain ⟨between, hothers, hback⟩ := hosts_append_iff.mp hback
          exact Or.inl ⟨middle, between, ⟨front, others, broken, hfirst, hfront, hothers⟩,
            ⟨second, hsecond, hback⟩⟩
    · obtain ⟨between, hwhole, hothers⟩ := hosts_append_iff.mp hfront
      exact Or.inr ⟨middle, between, ⟨first, hfirst, hwhole⟩,
        ⟨others, back, broken, hsecond, hothers, hback⟩⟩
  · rintro (⟨middle, between, ⟨front, others, broken, hfirst, hfront, hothers⟩, second, hsecond,
      hback⟩ | ⟨middle, between, ⟨first, hfirst, hwhole⟩, others, back, broken, hsecond, hothers,
      hback⟩)
    · refine ⟨front, others ++ second, broken, ?_, hfront,
        hosts_append_iff.mpr ⟨between, hothers, hback⟩⟩
      exact Program.runs_bind_iff.mpr ⟨middle, _, second, by simp, hfirst, hsecond⟩
    · refine ⟨first ++ others, back, broken, ?_,
        hosts_append_iff.mpr ⟨between, hwhole, hothers⟩, hback⟩
      exact Program.runs_bind_iff.mpr ⟨middle, first, _, by simp, hfirst, hsecond⟩

/-- The operation that fails is the first request of a program, or comes behind
it. -/
theorem breaks_ask_iff {request : Request} {resume : request.Answer → Program α} {result : α} :
    Breaks healthy tree (.ask request resume) call fault result after ↔
      (∃ (hrequest : .file call = request) (back : List Exchange),
        Runs (resume (hrequest ▸ (.error fault : call.Answer))) back result ∧
          Hosts healthy tree back after) ∨
      ∃ answer between, Hosts healthy tree [⟨request, answer⟩] between ∧
        Breaks healthy between (resume answer) call fault result after := by
  constructor
  · rintro ⟨front, back, broken, hruns, hfront, hback⟩
    obtain ⟨answer, rest, htrace, hrest⟩ := runs_ask_iff.mp hruns
    cases front with
    | nil =>
        obtain ⟨hfailed, rfl⟩ := List.cons.inj htrace
        cases hfailed
        cases hfront
        exact Or.inl ⟨rfl, _, hrest, hback⟩
    | cons exchange front =>
        obtain ⟨rfl, rfl⟩ := List.cons.inj htrace
        rw [← List.singleton_append, hosts_append_iff] at hfront
        obtain ⟨between, hanswer, hfront⟩ := hfront
        exact Or.inr ⟨answer, between, hanswer, front, back, broken, hrest, hfront, hback⟩
  · rintro (⟨rfl, back, hruns, hback⟩ | ⟨answer, between, hanswer, front, back, broken, hrest,
      hfront, hback⟩)
    · exact ⟨[], back, tree, .ask _ hruns, rfl, hback⟩
    · refine ⟨⟨request, answer⟩ :: front, back, broken, .ask answer hrest, ?_, hback⟩
      rw [← List.singleton_append, hosts_append_iff]
      exact ⟨between, hanswer, hfront⟩

/-- The operation that fails is one that the program may ask for. -/
theorem allowed_of_breaks {allowed : Request → Prop} {program : Program α} {result : α}
    (hasks : Asks allowed program) (hbreaks : Breaks healthy tree program call fault result after) :
    allowed (.file call) := by
  obtain ⟨front, back, between, hruns, -, -⟩ := hbreaks
  exact hasks.request_of_mem hruns ⟨.file call, .error fault⟩ (by simp)

theorem breaks_file_iff {resume : other.Answer → Program α} {result : α} :
    Breaks healthy tree (.ask (.file other) resume) call fault result after ↔
      (call = other ∧ Does healthy tree (resume (.error fault)) result after) ∨
        Breaks healthy (tree.answer other).2 (resume (tree.answer other).1) call fault result
          after := by
  rw [breaks_ask_iff]
  refine or_congr ?_ (by simp [hosts_file_iff, hosts_nil_iff])
  constructor
  · rintro ⟨hrequest, back, hruns, hback⟩
    cases hrequest
    exact ⟨rfl, back, hruns, hback⟩
  · rintro ⟨rfl, back, hruns, hback⟩
    exact ⟨rfl, back, hruns, hback⟩

theorem breaks_probe_iff {resume : Bool → Program α} {result : α} :
    Breaks healthy tree (.ask .probe resume) call fault result after ↔
      Breaks healthy tree (resume healthy) call fault result after := by
  simp [breaks_ask_iff, hosts_probe_iff, hosts_nil_iff]

theorem breaks_log_iff {entry : LogEntry} {resume : Unit → Program α} {result : α} :
    Breaks healthy tree (.ask (.log entry) resume) call fault result after ↔
      Breaks healthy tree (resume ()) call fault result after := by
  simp only [breaks_ask_iff, hosts_log_iff, hosts_nil_iff, exists_eq_left, reduceCtorEq,
    IsEmpty.exists_iff, false_or]
  exact ⟨fun ⟨(), hbreaks⟩ => hbreaks, fun hbreaks => ⟨(), hbreaks⟩⟩

theorem breaks_freshUid_iff {resume : String → Program α} {result : α} :
    Breaks healthy tree (.ask .freshUid resume) call fault result after ↔
      ∃ uid, Breaks healthy tree (resume uid) call fault result after := by
  simp [breaks_ask_iff, hosts_freshUid_iff, hosts_nil_iff]

/-- The answer to the operation that is to fail. -/
def failing? (call : FileCall) (fault : FileFault) (request : Request) : Option request.Answer :=
  match request with
  | .file other => if other = call then some (.error fault) else none
  | _ => none

/-- Run a program on a host on which an operation fails when it is first asked for;
there is no result if it is not asked for. -/
def runFailing (healthy : Bool) (uid : String) (call : FileCall) (fault : FileFault) :
    Program α → Tree → Option (α × Tree)
  | .done _, _ => none
  | .ask request resume, tree =>
    match failing? call fault request with
    | some answer => some ((resume answer).run (host healthy uid) tree)
    | none =>
      let (answer, after) := host healthy uid request tree
      runFailing healthy uid call fault (resume answer) after

/-- What a program that is run so comes to is what becomes of it when the operation
fails. -/
theorem breaks_of_runFailing {uid : String} {program : Program α} {result : α}
    (hrun : runFailing healthy uid call fault program tree = some (result, after)) :
    Breaks healthy tree program call fault result after := by
  induction program generalizing tree with
  | done value => cases hrun
  | ask request resume ih =>
      unfold runFailing at hrun
      split at hrun
      · next answer hanswer =>
          cases request with
          | file other =>
              by_cases hcall : other = call
              · subst hcall
                simp only [failing?, if_true] at hanswer
                cases hanswer
                have hdoes := does_run healthy uid tree (resume (.error fault))
                rw [Option.some.inj hrun] at hdoes
                exact breaks_file_iff.mpr (Or.inl ⟨rfl, hdoes⟩)
              · simp only [failing?, hcall, if_false] at hanswer
                cases hanswer
          | _ => cases hanswer
      · exact breaks_ask_iff.mpr
          (Or.inr ⟨_, _, hosts_host healthy uid request tree, ih _ hrun⟩)

end Tree

end RevisionGuard
