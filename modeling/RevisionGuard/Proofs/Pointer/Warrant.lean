import RevisionGuard.Proofs.Layout.Steps
import RevisionGuard.Proofs.Monitor.GracePeriod
import RevisionGuard.Proofs.Pointer.Placed
import RevisionGuard.Proofs.Program.Warrants
import Mathlib.Tactic.Common

/-!
# Why the pointer may be moved

The pointer is moved for one of two reasons (`LinkReason`), each of them in what a sync
has exchanged so far.  The watched revision was seen and the target was found healthy;
or it was found unhealthy behind the grace period, every look at the pointer found
nothing, and the revision before the newest has a manifest.  With such a reason the
link is made, and what is in its place is removed if the last look at it found
something healthy to replace, or a link that leads nowhere (`PointerWarrant`).

`place` is shared by both ways, and its repair of a dangling link looks again: the
reason has to survive that look, which is `LinkReason.append`.
-/

namespace RevisionGuard

open Program

/-- A look found nothing. -/
def IsMissing (look : Except FileFault Bool) : Prop :=
  ∃ fault : FileFault, fault.isNotFound = true ∧ look = .error fault

variable {layout : Layout} {revision previous : Revision} {late : Prop}
  {past more trace : List Exchange} {call : FileCall} {request : Request} {path : Path}

/-! ## Reasons -/

/-- A search for a revision to fall back to has found one: every look at the pointer
found nothing, and the revision is the one before the newest of the listing. -/
structure Searched (layout : Layout) (past : List Exchange) (previous : Revision) : Prop where
  looked : looks layout.lastKnownGood past ≠ []
  missing : ∀ look ∈ looks layout.lastKnownGood past, IsMissing look
  listed : ∃ entries found logs, ⟨.file (.list layout.resourcesDir), .ok entries⟩ ∈ past ∧
    Runs (Archive.revisions layout entries).run logs (.ok found) ∧
    Archive.secondGreatest found = some previous

/-- A revision can become the last known good one in place of none: it has been found,
and a look at its manifest found a file. -/
structure Adoptable (layout : Layout) (past : List Exchange) (previous : Revision) : Prop
    extends Searched layout past previous where
  manifest : ⟨.file (.stat (layout.revisionedManifest previous)), .ok false⟩ ∈ past

/-- Why the pointer may be made to lead to a revision, by what a sync has exchanged.
`late` says that the grace period has passed. -/
inductive LinkReason (layout : Layout) (revision : Revision) (late : Prop)
    (past : List Exchange) : Revision → Prop where
  /-- The target of the watched revision is healthy. -/
  | promoted (hshows : ShowsRevision layout revision past) (hprobes : probes past = [true]) :
      LinkReason layout revision late past revision
  /-- The target is not, and there is no pointer but a revision to adopt. -/
  | adopted {previous : Revision} (hshows : ShowsRevision layout revision past)
      (hprobes : probes past = [false]) (hlate : late)
      (hadoptable : Adoptable layout past previous) :
      LinkReason layout revision late past previous

/-- What was in the place of the pointer when it is removed: something that was seen
there, in a tick that promotes, or a link that leads nowhere and keeps another from
being made. -/
def MayClear (layout : Layout) (past : List Exchange) : Prop :=
  ∃ front seen back,
    past = front ++ ⟨.file (.stat layout.lastKnownGood), seen⟩ :: back ∧
      looks layout.lastKnownGood back = [] ∧
      ((seen = .ok false ∧ probes past = [true]) ∨
        (IsMissing seen ∧ ∃ earlier target taken,
          front = earlier ++ [⟨.file (.symlink target layout.lastKnownGood), .error taken⟩] ∧
            taken.isAlreadyExists = true))

/-- What has to stand before an operation that makes a link or removes the pointer. -/
structure PointerWarrant (layout : Layout) (revision : Revision) (late : Prop)
    (past : List Exchange) (call : FileCall) : Prop where
  link : ∀ target pointer, call = .symlink target pointer → pointer = layout.lastKnownGood ∧
    ∃ chosen, target = layout.revisionedManifest chosen ∧
      LinkReason layout revision late past chosen
  clear : call.removes layout.lastKnownGood = true →
    MayClear layout past ∧ ∃ chosen, LinkReason layout revision late past chosen

/-- The warrant of a request: only file operations need one. -/
def pointerWarrant (layout : Layout) (revision : Revision) (late : Prop)
    (past : List Exchange) (request : Request) : Prop :=
  ∀ call, request = .file call → PointerWarrant layout revision late past call

/-- Operations that leave the place of the pointer alone. -/
def FileCall.sparesPointer (layout : Layout) : FileCall → Prop
  | .symlink _ _ => False
  | .remove path => path.same layout.lastKnownGood = false
  | .stat _ | .read _ | .write _ _ _ | .list _ => True

theorem pointerWarrant_of_not_file (hother : ∀ call, request ≠ .file call) :
    pointerWarrant layout revision late past request :=
  fun call hcall => absurd hcall (hother call)

theorem pointerWarrant_log {entry : LogEntry} :
    pointerWarrant layout revision late past (.log entry) :=
  pointerWarrant_of_not_file (by simp)

theorem pointerWarrant_of_spares (hspares : call.sparesPointer layout) :
    pointerWarrant layout revision late past (.file call) := by
  rintro _ ⟨⟩
  cases call with
  | symlink target link => exact hspares.elim
  | remove path =>
      refine ⟨by simp, fun hremoves => ?_⟩
      rw [FileCall.removes_remove, show path.same layout.lastKnownGood = false from hspares]
        at hremoves
      cases hremoves
  | stat path => exact ⟨by simp, by simp [FileCall.removes]⟩
  | read path => exact ⟨by simp, by simp [FileCall.removes]⟩
  | write path contents mode => exact ⟨by simp, by simp [FileCall.removes]⟩
  | list path => exact ⟨by simp, by simp [FileCall.removes]⟩

/-! ## Reasons last -/

/-- What may be exchanged without taking a reason away: no probe, and no look at the
pointer that finds something. -/
structure Quiet (layout : Layout) (more : List Exchange) : Prop where
  probes : probes more = []
  missing : ∀ look ∈ looks layout.lastKnownGood more, IsMissing look

theorem Quiet.append {front back : List Exchange} (hfront : Quiet layout front)
    (hback : Quiet layout back) : Quiet layout (front ++ back) := by
  refine ⟨?_, ?_⟩
  · rw [probes_append, hfront.probes, hback.probes, List.append_nil]
  · rw [looks_append]
    exact List.forall_mem_append.mpr ⟨hfront.missing, hback.missing⟩

theorem quiet_of_isLog (hlogs : ∀ exchange ∈ more, exchange.IsLog) : Quiet layout more := by
  refine ⟨probes_of_isLog hlogs, ?_⟩
  rw [looks_eq_nil]
  · simp
  · intro exchange hmem other _ hlook
    obtain ⟨entry, hentry⟩ := hlogs exchange hmem
    rw [hlook] at hentry
    cases hentry

theorem quiet_log {entry : LogEntry} : Quiet layout [⟨.log entry, ()⟩] :=
  quiet_of_isLog (List.forall_mem_singleton.mpr ⟨entry, rfl⟩)

theorem quiet_look {seen : Except FileFault Bool} (hmissing : IsMissing seen) :
    Quiet layout [⟨.file (.stat layout.lastKnownGood), seen⟩] :=
  ⟨rfl, by simpa using hmissing⟩

/-- An operation that is no look at the pointer. -/
theorem quiet_file {answer : call.Answer}
    (hcall : ∀ other, call = .stat other → other.same layout.lastKnownGood = false) :
    Quiet layout [⟨.file call, answer⟩] := by
  refine ⟨rfl, ?_⟩
  rw [looks_eq_nil]
  · simp
  · intro exchange hmem other hsame hlook
    obtain rfl := List.mem_singleton.mp hmem
    rw [hcall other (Request.file.inj hlook)] at hsame
    cases hsame

theorem Searched.append (hsearched : Searched layout past previous)
    (hquiet : Quiet layout more) : Searched layout (past ++ more) previous := by
  obtain ⟨entries, found, logs, hlist, hruns, hsecond⟩ := hsearched.listed
  refine ⟨?_, ?_, entries, found, logs, List.mem_append_left _ hlist, hruns, hsecond⟩
  · rw [looks_append]
    exact List.append_ne_nil_of_left_ne_nil hsearched.looked _
  · rw [looks_append]
    exact List.forall_mem_append.mpr ⟨hsearched.missing, hquiet.missing⟩

theorem Adoptable.append (hadoptable : Adoptable layout past previous)
    (hquiet : Quiet layout more) : Adoptable layout (past ++ more) previous :=
  ⟨hadoptable.toSearched.append hquiet, List.mem_append_left _ hadoptable.manifest⟩

/-- A promotion has its reason as long as nothing probes again. -/
theorem LinkReason.promoted_append (hshows : ShowsRevision layout revision past)
    (hprobes : RevisionGuard.probes past = [true]) (hmore : RevisionGuard.probes more = []) :
    LinkReason layout revision late (past ++ more) revision := by
  refine .promoted (hshows.append more) ?_
  rw [probes_append, hprobes, hmore, List.append_nil]

theorem LinkReason.append (hreason : LinkReason layout revision late past previous)
    (hquiet : Quiet layout more) : LinkReason layout revision late (past ++ more) previous := by
  cases hreason with
  | promoted hshows hprobes => exact .promoted_append hshows hprobes hquiet.probes
  | adopted hshows hprobes hlate hadoptable =>
      refine .adopted (hshows.append more) ?_ hlate (hadoptable.append hquiet)
      rw [probes_append, hprobes, hquiet.probes, List.append_nil]

/-- What the grace period says may be said otherwise. -/
theorem LinkReason.imp {later : Prop} (hreason : LinkReason layout revision late past previous)
    (himp : ShowsRevision layout revision past → late → later) :
    LinkReason layout revision later past previous := by
  cases hreason with
  | promoted hshows hprobes => exact .promoted hshows hprobes
  | adopted hshows hprobes hlate hadoptable =>
      exact .adopted hshows hprobes (himp hshows hlate) hadoptable

/-- Time alone moves the pointer only if every look at it found nothing. -/
theorem LinkReason.missing (hreason : LinkReason layout revision late past previous)
    (hprobes : RevisionGuard.probes past = [false]) :
    ∀ look ∈ looks layout.lastKnownGood past, IsMissing look := by
  cases hreason with
  | promoted _ hhealthy =>
      rw [hprobes] at hhealthy
      cases hhealthy
  | adopted _ _ _ hadoptable => exact hadoptable.missing

/-- The last look at what is removed found no directory. -/
theorem MayClear.not_directory (hmayClear : MayClear layout past) :
    (looks layout.lastKnownGood past).getLast? ≠ some (.ok true) := by
  obtain ⟨front, seen, back, rfl, hback, hseen⟩ := hmayClear
  rw [looks_append, looks_stat_self, hback, List.getLast?_concat]
  rintro ⟨⟩
  rcases hseen with ⟨hfile, -⟩ | ⟨⟨fault, -, hmissing⟩, -⟩
  · cases hfile
  · cases hmissing

theorem PointerWarrant.imp {later : Prop} (hwarrant : PointerWarrant layout revision late past call)
    (himp : ShowsRevision layout revision past → late → later) :
    PointerWarrant layout revision later past call := by
  refine ⟨fun target pointer hcall => ?_, fun hremoves => ?_⟩
  · obtain ⟨hpointer, chosen, htarget, hreason⟩ := hwarrant.link target pointer hcall
    exact ⟨hpointer, chosen, htarget, hreason.imp himp⟩
  · obtain ⟨hmayClear, chosen, hreason⟩ := hwarrant.clear hremoves
    exact ⟨hmayClear, chosen, hreason.imp himp⟩

/-- Whatever moves the pointer has a reason. -/
theorem PointerWarrant.reason (hwarrant : PointerWarrant layout revision late past call)
    (hmoves : call.removes layout.lastKnownGood = true ∨ ∃ target pointer,
      call = .symlink target pointer) :
    ∃ chosen, LinkReason layout revision late past chosen := by
  rcases hmoves with hremoves | ⟨target, pointer, hlink⟩
  · exact (hwarrant.clear hremoves).2
  · obtain ⟨-, chosen, -, hreason⟩ := hwarrant.link target pointer hlink
    exact ⟨chosen, hreason⟩

/-! ## Making the link -/

theorem LinkReason.warrant_link (hreason : LinkReason layout revision late past previous) :
    pointerWarrant layout revision late past
      (.file (.symlink (layout.revisionedManifest previous) layout.lastKnownGood)) := by
  rintro _ ⟨⟩
  refine ⟨?_, by simp [FileCall.removes]⟩
  rintro _ _ ⟨⟩
  exact ⟨rfl, previous, rfl, hreason⟩

theorem LinkReason.warrant_clear (hreason : LinkReason layout revision late past previous)
    (hmayClear : MayClear layout past) :
    pointerWarrant layout revision late past (.file (.remove layout.lastKnownGood)) := by
  rintro _ ⟨⟩
  exact ⟨by simp, fun _ => ⟨hmayClear, previous, hreason⟩⟩

namespace Promotion

theorem warranted_makeLink (hreason : LinkReason layout revision late past previous) :
    Warranted (pointerWarrant layout revision late) past (makeLink layout previous).run := by
  rw [makeLink_eq_answered]
  exact ⟨hreason.warrant_link, fun _ => trivial⟩

theorem warranted_replaceDangling {taken : FileFault}
    (hreason : LinkReason layout revision late past previous)
    (htaken : taken.isAlreadyExists = true) :
    Warranted (pointerWarrant layout revision late)
      (past ++ [⟨.file (linkCall layout previous), .error taken⟩])
      (replaceDangling layout previous taken).run := by
  have hlinked : LinkReason layout revision late
      (past ++ [⟨.file (linkCall layout previous), .error taken⟩]) previous :=
    hreason.append (quiet_file (by simp [linkCall]))
  simp only [replaceDangling, Sync.fileExists_eq_answered, Sync.file_eq_answered]
  refine Sync.warranted_answered_bind (pointerWarrant_of_spares trivial) fun seen found hseen => ?_
  cases found with
  | true => exact Sync.warranted_throw _
  | false =>
      have hmissing : IsMissing seen := Sync.presence_eq_false_iff.mp hseen
      have hlooked := hlinked.append (quiet_look hmissing)
      -- the look that found nothing follows the failed link at once
      have hmayClear : MayClear layout
          (past ++ [⟨.file (linkCall layout previous), .error taken⟩] ++
            [⟨.file (.stat layout.lastKnownGood), seen⟩]) :=
        ⟨_, seen, [], rfl, rfl, Or.inr ⟨hmissing, past, _, taken, rfl, htaken⟩⟩
      refine Sync.warranted_answered_bind (hlooked.warrant_clear hmayClear) fun _ _ _ => ?_
      refine Sync.warranted_log_bind pointerWarrant_log ?_
      exact warranted_makeLink ((hlooked.append (quiet_file (by simp))).append quiet_log)

theorem warranted_place (hreason : LinkReason layout revision late past previous) :
    Warranted (pointerWarrant layout revision late) past (place layout previous).run := by
  rw [place_eq]
  refine ⟨hreason.warrant_link, fun answer => ?_⟩
  match answer with
  | .ok () => exact Program.warranted_pure _
  | .error taken =>
      simp only [afterLink]
      split
      next htaken => exact warranted_replaceDangling hreason htaken
      next => exact Sync.warranted_throw _

theorem warranted_clear (hshows : ShowsRevision layout revision past)
    (hprobes : probes past = [true]) :
    Warranted (pointerWarrant layout revision late) past (clear layout).run := by
  simp only [clear, Sync.fileExists_eq_answered, Sync.file_eq_answered]
  refine Sync.warranted_answered_bind (pointerWarrant_of_spares trivial) fun seen found hseen => ?_
  cases found with
  | false => exact Program.warranted_pure _
  | true =>
      have hlooked : LinkReason layout revision late
          (past ++ [⟨.file (.stat layout.lastKnownGood), seen⟩]) revision :=
        .promoted_append hshows hprobes rfl
      have hmayClear : MayClear layout
          (past ++ [⟨.file (.stat layout.lastKnownGood), seen⟩]) := by
        refine ⟨past, seen, [], rfl, rfl, Or.inl ⟨Sync.presence_eq_true_iff.mp hseen, ?_⟩⟩
        rw [probes_append, hprobes]
        rfl
      refine Sync.warranted_answered_bind (hlooked.warrant_clear hmayClear) fun _ _ _ => ?_
      exact ⟨pointerWarrant_log, fun _ => trivial⟩

/-- Promoting a revision that was found healthy moves the pointer for that reason. -/
theorem warranted_promote (hshows : ShowsRevision layout revision past)
    (hprobes : probes past = [true]) :
    Warranted (pointerWarrant layout revision late) past (promote layout revision).run := by
  refine Sync.warranted_bind ?_ fun trace _ _ => ?_
  · refine Sync.warranted_bind (warranted_clear hshows hprobes) fun cleared _ hclear => ?_
    have hasks : Asks (Links layout revision) (clear layout).run := clear_asks
    have hquiet : RevisionGuard.probes cleared = [] := probes_eq_nil fun exchange hmem hprobe => by
      have hlinks := hasks.request_of_mem hclear exchange hmem
      rw [hprobe] at hlinks
      cases hlinks
    refine Sync.warranted_bind (warranted_place (.promoted_append hshows hprobes hquiet)) ?_
    exact fun _ _ _ => ⟨pointerWarrant_log, fun _ => trivial⟩
  · rw [Sync.removeIfExists_eq_answered]
    refine Sync.warranted_answered_bind (pointerWarrant_of_spares ?_) fun _ removed _ => ?_
    · exact layout.selfMarker_same_lastKnownGood
    · cases removed with
      | false => exact Program.warranted_pure _
      | true => exact ⟨pointerWarrant_log, fun _ => trivial⟩

end Promotion

end RevisionGuard
