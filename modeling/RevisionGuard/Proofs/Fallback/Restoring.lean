import RevisionGuard.Files.Script
import RevisionGuard.Proofs.Layout.Marker
import RevisionGuard.Proofs.Pod.Writable
import RevisionGuard.Proofs.Pointer.Ensured
import RevisionGuard.Proofs.Sync.Courses
import Mathlib.Tactic.Common

/-!
# Restoring a manifest on a host, with and without a failure

A fallback restores a manifest if the files are `Fallback.Restorable`.  Until it
writes the manifest they stay so, whatever operation fails; when the write fails,
the active manifest is missing (`Restorable.breaks`).  The reason is the order of
the last two steps: the active manifest is removed first, and nothing puts it back.
-/

namespace RevisionGuard

open Program RevisionGuard.Tree

namespace Fallback

variable {tree ready after : Tree} {healthy : Bool} {layout : Layout} {failed : Revision}
  {call : FileCall} {fault : FileFault} {left : Nat} {directory : Location} {name : EntryName}
  {pod candidate : Pod} {seen : Bytes} {text : String}

/-! ## The place of the active manifest -/

/-- The active manifest is in this place, from where it can be removed. -/
structure Replaceable (layout : Layout) (tree : Tree) (left : Nat) (directory : Location)
    (name : EntryName) : Prop where
  spot : tree.Spot layout.activeManifest left directory name
  deadEnd : tree.DeadEnd IsDirectory directory name
  remove_eq : tree.remove layout.activeManifest = .ok (tree.erase (name :: directory))

theorem replaceable_of_read (hread : tree.read layout.activeManifest = .ok seen) :
    ∃ left directory name, Replaceable layout tree left directory name := by
  obtain ⟨before, tip, hsteps, -⟩ := layout.steps_manifests
  obtain ⟨hcheck, links, ending, bits, hleads, hentry⟩ := read_eq_ok_iff.mp hread
  obtain ⟨left, directory, hspot, -⟩ := spot_of_leads hcheck hsteps hleads
  have hsees : tree.Sees layout.activeManifest true := sees_iff.mpr (stat_eq_of_read hread)
  have hdead := hspot.deadEnd_of_sees hsees
  refine ⟨left, directory, _, hspot, hdead, ?_⟩
  rw [hspot.remove_eq]
  -- a missing file cannot be read, and neither can a directory
  cases hheld : tree.at? ((tip ++ Layout.manifestEnd) :: directory) with
  | none =>
      have hmissing := hspot.read_eq_of_missing hheld
      rw [hread] at hmissing
      cases hmissing
  | some entry =>
      cases entry with
      | file contents mode => rfl
      | link target => rfl
      | directory =>
          unfold DeadEnd at hdead
          rw [hheld] at hdead
          exact absurd rfl hdead

/-- What is written once the active manifest has been removed takes its place. -/
theorem Replaceable.write_eq {contents : Bytes}
    (hactive : Replaceable layout tree left directory name) :
    (tree.erase (name :: directory)).write layout.activeManifest contents manifestMode =
      .ok (tree.set (name :: directory) (.file contents manifestMode)) := by
  have hopen := hactive.spot.frame (sameBut_erase tree name directory) hactive.deadEnd
  rw [hopen.write_eq_of_missing (at?_erase_self tree name directory), set_erase]
  rfl

/-! ## Publishing -/

theorem does_writeActive_iff {result : Except SyncFault Unit} :
    Does healthy tree (writeActive layout text).run result after ↔
      result = ((tree.answer (writeCall layout text)).1).mapError (.file layout.activeManifest) ∧
        after = (tree.answer (writeCall layout text)).2 := by
  refine Sync.does_log_bind_iff.trans (Sync.does_log_bind_iff.trans ?_)
  rw [Sync.file_eq_answered]
  exact Sync.does_answered_iff

theorem breaks_writeActive_iff {result : Except SyncFault Unit} :
    Breaks healthy tree (writeActive layout text).run call fault result after ↔
      call = writeCall layout text ∧ result = .error (.file layout.activeManifest fault) ∧
        after = tree := by
  refine Sync.breaks_log_bind_iff.trans (Sync.breaks_log_bind_iff.trans ?_)
  rw [Sync.file_eq_answered]
  exact Sync.breaks_answered_iff

section Publish

variable {result : Except SyncFault Unit} (hactive : Replaceable layout tree left directory name)
  (htext : pod.toText = .ok text)
include hactive htext

theorem does_publish_iff :
    Does healthy tree (publish layout pod).run result after ↔
      result = .ok () ∧
        after = tree.set (name :: directory) (.file (Utf8.ofText text) manifestMode) := by
  simp only [publish, Sync.removeIfExists_eq_answered, htext]
  rw [Sync.does_answered_bind_iff]
  simp only [answer, hactive.remove_eq, settle, Sync.removal]
  refine Sync.does_log_bind_iff.trans (does_writeActive_iff.trans ?_)
  simp only [writeCall, answer, hactive.write_eq, settle]
  rfl

/-- When an operation fails in publishing, the files are as before if it was the
removal, and the active manifest is missing if it was the write. -/
theorem broken_of_breaks_publish (hforeign : fault.IsForeign)
    (hbreaks : Breaks healthy tree (publish layout pod).run call fault result after) :
    (∃ failure, result = .error failure) ∧
      if call.operation = .write then after = tree.erase (name :: directory) else after = tree := by
  simp only [publish, htext] at hbreaks
  rcases (Sync.breaks_removeIfExists_bind_iff hforeign.notMissing).mp hbreaks with
    ⟨rfl, rfl, rfl⟩ | ⟨removed, hremoved, hrest⟩
  · exact ⟨⟨_, rfl⟩, rfl⟩
  · simp only [answer, hactive.remove_eq, settle, Sync.removal] at hremoved hrest
    cases hremoved
    obtain ⟨rfl, rfl, rfl⟩ := breaks_writeActive_iff.mp (Sync.breaks_log_bind_iff.mp hrest)
    exact ⟨⟨_, rfl⟩, rfl⟩

end Publish

/-- A manifest that has been published has a written form. -/
theorem written_of_does_publish
    (hdoes : Does healthy tree (publish layout pod).run (.ok ()) after) :
    ∃ text, pod.toText = .ok text := by
  cases htext : pod.toText with
  | ok text => exact ⟨text, rfl⟩
  | error reason =>
      simp only [publish, htext, Sync.removeIfExists_eq_answered] at hdoes
      obtain ⟨removed, -, hrest⟩ := Sync.does_answered_bind_ok_iff.mp hdoes
      cases removed with
      | false => cases (Sync.does_throw_iff.mp hrest).1
      | true => cases (Sync.does_throw_iff.mp (Sync.does_log_bind_iff.mp hrest)).1

/-! ## The candidate -/

theorem does_readCandidate_iff :
    Does healthy tree (readCandidate layout).run (.ok pod) after ↔
      after = tree ∧
        ∃ contents, tree.read layout.lastKnownGood = .ok contents ∧
          Pod.ofBytes contents = .ok pod := by
  refine Sync.does_file_bind_ok_iff.trans ?_
  constructor
  · rintro ⟨contents, hread, hmanifest⟩
    cases hpod : Pod.ofBytes contents with
    | error reason =>
        rw [hpod] at hmanifest
        cases (Sync.does_throw_iff.mp hmanifest).1
    | ok found =>
        rw [hpod] at hmanifest
        obtain ⟨hfound, rfl⟩ := Sync.does_pure_iff.mp hmanifest
        cases hfound
        exact ⟨rfl, contents, hread, hpod⟩
  · rintro ⟨rfl, contents, hread, hpod⟩
    refine ⟨contents, hread, ?_⟩
    rw [hpod]
    exact Sync.does_pure_iff.mpr ⟨rfl, rfl⟩

theorem failed_of_breaks_readCandidate {result : Except SyncFault Pod}
    (hbreaks : Breaks healthy tree (readCandidate layout).run call fault result after) :
    (∃ failure, result = .error failure) ∧ after = tree := by
  rcases Sync.breaks_file_bind_iff.mp hbreaks with ⟨-, rfl, rfl⟩ | ⟨contents, -, hmanifest⟩
  · exact ⟨⟨_, rfl⟩, rfl⟩
  · cases hpod : Pod.ofBytes contents with
    | error reason =>
        rw [hpod] at hmanifest
        exact absurd hmanifest Sync.not_breaks_throw
    | ok found =>
        rw [hpod] at hmanifest
        exact absurd hmanifest Sync.not_breaks_pure

/-! ## The fallback -/

/-- What a fallback that restores a manifest finds on a host: a pointer, or a way to
make one, a candidate behind it that can be written, and an active manifest. -/
structure Restorable (healthy : Bool) (layout : Layout) (failed : Revision) (tree ready : Tree)
    (seen : Bytes) (candidate : Pod) : Prop where
  ensured : Ensured healthy layout tree ready
  pointed : ∃ contents, ready.read layout.lastKnownGood = .ok contents ∧
    Pod.ofBytes contents = .ok candidate
  writable : ∀ uid, ∃ text, (candidate.republished failed uid).toText = .ok text
  active : tree.read layout.activeManifest = .ok seen

theorem Restorable.read_ready
    (hrestorable : Restorable healthy layout failed tree ready seen candidate) :
    ready.read layout.activeManifest = .ok seen :=
  hrestorable.ensured.read_eq hrestorable.active

/-- A tree at which making sure of the pointer stopped is as good as before. -/
theorem Restorable.of_stalled
    (hrestorable : Restorable healthy layout failed tree ready seen candidate)
    (hstalled : Stalled layout tree after) :
    Restorable healthy layout failed after ready seen candidate where
  ensured := hrestorable.ensured.of_stalled hstalled
  pointed := hrestorable.pointed
  writable := hrestorable.writable
  active := hstalled.read_eq hrestorable.active

/-- So is a tree in which the pointer has been made. -/
theorem Restorable.of_ready
    (hrestorable : Restorable healthy layout failed tree ready seen candidate) :
    Restorable healthy layout failed ready ready seen candidate where
  ensured := by
    obtain ⟨contents, hread, -⟩ := hrestorable.pointed
    exact .of_ready hread
  pointed := hrestorable.pointed
  writable := hrestorable.writable
  active := hrestorable.read_ready

/-- The republished candidate is in the place of the active manifest, under some
identity, and nothing else has changed. -/
def Republished (failed : Revision) (candidate : Pod) (ready after : Tree) (directory : Location)
    (name : EntryName) : Prop :=
  ∃ uid text, (candidate.republished failed uid).toText = .ok text ∧
    after = ready.set (name :: directory) (.file (Utf8.ofText text) manifestMode)

namespace Republished

variable (hrepublished : Republished failed candidate ready after directory name)
include hrepublished

theorem at?_eq : ∃ uid text, (candidate.republished failed uid).toText = .ok text ∧
    after.at? (name :: directory) = some (.file (Utf8.ofText text) manifestMode) := by
  obtain ⟨uid, text, htext, rfl⟩ := hrepublished
  exact ⟨uid, text, htext, at?_set_self _ _ _ _⟩

theorem sameBut : SameBut (name :: directory) ready after := by
  obtain ⟨uid, text, -, rfl⟩ := hrepublished
  exact sameBut_set ready name directory _

theorem deadEnd : after.DeadEnd IsDirectory directory name := by
  obtain ⟨uid, text, -, hentry⟩ := hrepublished.at?_eq
  unfold DeadEnd
  rw [hentry]
  simp

/-- The marker can be removed if it could be before. -/
theorem clearable_iff {label : EntryName} (hactive : Replaceable layout ready left directory name) :
    Clearable layout after left directory label ↔ Clearable layout ready left directory label := by
  obtain ⟨before, tip, hsteps, -⟩ := layout.steps_manifests
  have hname : name = tip ++ Layout.manifestEnd := hactive.spot.name_eq hsteps
  have hne : ∀ {tree}, Clearable layout tree left directory label → label ≠ name := by
    intro tree hclearable
    obtain ⟨other, hlabel⟩ := hclearable.name_eq
    rw [hlabel, hname]
    exact (Layout.manifestEnd_ne_markerEnd tip other).symm
  constructor
  · intro hclearable
    exact hclearable.frame hrepublished.sameBut.symm hrepublished.deadEnd (hne hclearable)
  · intro hclearable
    exact hclearable.frame hrepublished.sameBut hactive.deadEnd (hne hclearable)

end Republished

/-- What is behind the preparations of a fallback. -/
private def finish (layout : Layout) (failed : Revision) (pod : Pod) : Sync Outcome := do
  let uid ← (Program.freshUid : Sync String)
  publish layout (pod.republished failed uid)
  return .restored failed

section Finish

variable {result : Except SyncFault Outcome} (hactive : Replaceable layout tree left directory name)
  (hwritable : ∀ uid, ∃ text, (candidate.republished failed uid).toText = .ok text)
include hactive hwritable

private theorem republished_of_does_finish
    (hdoes : Does healthy tree (finish layout failed candidate).run result after) :
    result = .ok (.restored failed) ∧ Republished failed candidate tree after directory name := by
  obtain ⟨uid, hrest⟩ := Sync.does_freshUid_bind_iff.mp hdoes
  obtain ⟨text, htext⟩ := hwritable uid
  rcases Sync.does_bind_iff.mp hrest with ⟨failure, hpublish, -⟩ | ⟨_, between, hpublish, hpure⟩
  · cases ((does_publish_iff hactive htext).mp hpublish).1
  · obtain ⟨-, rfl⟩ := (does_publish_iff hactive htext).mp hpublish
    obtain ⟨rfl, rfl⟩ := Sync.does_pure_iff.mp hpure
    exact ⟨rfl, uid, text, htext, rfl⟩

private theorem broken_of_breaks_finish (hforeign : fault.IsForeign)
    (hbreaks : Breaks healthy tree (finish layout failed candidate).run call fault result after) :
    (∃ failure, result = .error failure) ∧
      if call.operation = .write then after = tree.erase (name :: directory) else after = tree := by
  obtain ⟨uid, hrest⟩ := Sync.breaks_freshUid_bind_iff.mp hbreaks
  obtain ⟨text, htext⟩ := hwritable uid
  rcases Sync.breaks_bind_of_fails
    (fun hpublish => (broken_of_breaks_publish hactive htext hforeign hpublish).1) hrest with
    ⟨failure, hpublish, rfl⟩ | ⟨_, between, -, hpure⟩
  · exact ⟨⟨failure, rfl⟩, (broken_of_breaks_publish hactive htext hforeign hpublish).2⟩
  · exact absurd hpure Sync.not_breaks_pure

end Finish

/-- What prepares a fallback asks for nothing that a host leaves open. -/
theorem Prepares.isSettled {request : Request} (hprepares : Prepares layout request) :
    request.IsSettled := by
  cases hprepares with
  | links revision hlinks => exact hlinks.isSettled
  | list => trivial
  | look revision => trivial
  | read => trivial

theorem Prepares.operation_ne (hprepares : Prepares layout (.file call)) :
    call.operation ≠ .write := by
  cases hprepares with
  | links revision hlinks => cases hlinks <;> simp [FileCall.operation]
  | list => simp [FileCall.operation]
  | look revision => simp [FileCall.operation]
  | read => simp [FileCall.operation]

namespace Restorable

variable {result : Except SyncFault Outcome}
  (hrestorable : Restorable healthy layout failed tree ready seen candidate)
include hrestorable

theorem does_ensurePointer :
    Does healthy tree (ensurePointer layout failed).run (.ok true) ready :=
  ensured_iff.mpr hrestorable.ensured

theorem does_readCandidate :
    Does healthy ready (readCandidate layout).run (.ok candidate) ready := by
  obtain ⟨contents, hread, hpod⟩ := hrestorable.pointed
  exact does_readCandidate_iff.mpr ⟨rfl, contents, hread, hpod⟩

variable (hactive : Replaceable layout ready left directory name)
include hactive

/-- If the files are restorable, a fallback restores the candidate. -/
theorem republished_of_does (hdoes : Does healthy tree (run layout failed).run result after) :
    result = .ok (.restored failed) ∧ Republished failed candidate ready after directory name := by
  have hrest := Sync.does_of_settled ((ensurePointer_asks failed).mono fun _ => Prepares.isSettled)
    hrestorable.does_ensurePointer hdoes
  have hfinish := Sync.does_of_settled (readCandidate_asks.mono fun _ => Prepares.isSettled)
    hrestorable.does_readCandidate hrest
  exact republished_of_does_finish hactive hrestorable.writable hfinish

/-- When an operation of a fallback fails, the fallback fails.  If it is the write,
the active manifest is missing; otherwise the files are as restorable as before. -/
theorem broken_of_breaks (hforeign : fault.IsForeign)
    (hbreaks : Breaks healthy tree (run layout failed).run call fault result after) :
    (∃ failure, result = .error failure) ∧
      if call.operation = .write then after = ready.erase (name :: directory)
      else Restorable healthy layout failed after ready seen candidate := by
  rcases Sync.breaks_of_settled ((ensurePointer_asks failed).mono fun _ => Prepares.isSettled)
    hrestorable.does_ensurePointer (fun hstall => (stalls_of_breaks hforeign hstall).1) hbreaks with
    ⟨failure, hstall, rfl⟩ | hrest
  · have hcall := (allowed_of_breaks (ensurePointer_asks failed) hstall).operation_ne
    rw [if_neg hcall]
    exact ⟨⟨failure, rfl⟩, hrestorable.of_stalled (stalls_of_breaks hforeign hstall).2⟩
  -- From here on the pointer is there, so the files are restorable as they are.
  rcases Sync.breaks_of_settled (readCandidate_asks.mono fun _ => Prepares.isSettled)
    hrestorable.does_readCandidate (fun hfail => (failed_of_breaks_readCandidate hfail).1) hrest
    with ⟨failure, hfail, rfl⟩ | hfinish
  · have hcall := (allowed_of_breaks readCandidate_asks hfail).operation_ne
    obtain ⟨-, rfl⟩ := failed_of_breaks_readCandidate hfail
    rw [if_neg hcall]
    exact ⟨⟨failure, rfl⟩, hrestorable.of_ready⟩
  obtain ⟨hfailed, hbroken⟩ :=
    broken_of_breaks_finish hactive hrestorable.writable hforeign hfinish
  refine ⟨hfailed, ?_⟩
  by_cases hwrite : call.operation = .write
  · rw [if_pos hwrite] at hbroken ⊢
    exact hbroken
  · rw [if_neg hwrite] at hbroken ⊢
    rw [hbroken]
    exact hrestorable.of_ready

end Restorable

/-- A fallback that has restored a manifest has found restorable files. -/
theorem restorable_of_does {restored : Revision}
    (hread : tree.read layout.activeManifest = .ok seen)
    (hdoes : Does healthy tree (run layout failed).run (.ok (.restored restored)) after) :
    ∃ ready candidate, Restorable healthy layout failed tree ready seen candidate := by
  obtain ⟨found, ready, hensure, hrest⟩ := Sync.does_bind_ok_iff.mp hdoes
  cases found with
  | false => cases (Sync.does_pure_iff.mp hrest).1
  | true =>
      obtain ⟨candidate, between, hcandidate, hfinish⟩ := Sync.does_bind_ok_iff.mp hrest
      obtain ⟨rfl, hpointed⟩ := does_readCandidate_iff.mp hcandidate
      obtain ⟨uid, hpublish⟩ := Sync.does_freshUid_bind_iff.mp hfinish
      obtain ⟨_, _, hpublished, -⟩ := Sync.does_bind_ok_iff.mp hpublish
      -- the manifest has been written under one identity
      refine ⟨between, candidate, ensured_iff.mp hensure, hpointed, fun other => ?_, hread⟩
      obtain ⟨text, htext⟩ := written_of_does_publish hpublished
      exact Pod.exists_toText_withUid htext other

end Fallback

end RevisionGuard
