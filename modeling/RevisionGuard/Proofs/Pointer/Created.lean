import RevisionGuard.Proofs.Files.Place
import RevisionGuard.Proofs.Pointer.Ensured
import RevisionGuard.Proofs.Pointer.Reading
import RevisionGuard.Proofs.Pointer.Underway
import Mathlib.Tactic.Common

/-!
# The pointer is made, or nothing is changed

Making the pointer removes what is in its place before the link is made, in a strict call
because it leads somewhere, and in any call because it leads nowhere.  What was removed is
never missed: by way of it no directory was reached, so the link can be made where it was
(`Promotion.does_create_of_sees`).  In every other case the files stay as they are
(`Promotion.exists_does_create_error`).

So the pointer can be made exactly where its path names an entry of a directory and there
is nothing, or a link that leads nowhere, or in a strict call something that is no
directory (`Promotion.Makeable`).  For a target whose name is no path the directory is the
resources directory (`Promotion.isSome_place?_of_stat`); nothing makes the directories
that the name of another target leads through (`Promotion.not_created_rehearsed`).
-/

namespace RevisionGuard

open Program RevisionGuard.Tree

variable {tree after : Tree} {path : Path} {left : Nat} {directory : Location}
  {name : EntryName} {healthy strict : Bool} {layout : Layout} {revision : Revision}

/-! ## What is in the place of the pointer -/

/-- There is nothing at a path, or a link that leads nowhere. -/
def Tree.IsVacant (tree : Tree) (path : Path) : Prop :=
  tree.held? path = none ∨
    (∃ target, tree.held? path = some (.link target)) ∧
      ∃ fault, tree.stat path = .error fault ∧ fault.isNotFound = true

/-- Nothing is seen at a path to an entry exactly if nothing is there or a link that leads
nowhere. -/
theorem Tree.Spot.sees_false_iff (hspot : tree.Spot path left directory name) :
    tree.Sees path false ↔ tree.IsVacant path := by
  rw [sees_iff, if_neg Bool.false_ne_true, IsVacant, held?_eq_of_place? hspot.place?_eq]
  constructor
  · rintro ⟨fault, hstat, hmissing⟩
    cases hentry : tree.at? (name :: directory) with
    | none => exact Or.inl rfl
    | some entry =>
        refine Or.inr ⟨?_, fault, hstat, hmissing⟩
        by_contra hnolink
        -- a file or a directory would have been found
        have hend : IsEnd entry := fun target heq => hnolink ⟨target, by rw [heq]⟩
        have hleads := hspot.leads fun target htarget =>
          hend target (Option.some.inj (hentry.symm.trans htarget))
        have hfound := stat_eq_ok_iff.mpr ⟨hspot.check, left, _, entry, hleads, hentry, hend, rfl⟩
        rw [hstat] at hfound
        cases hfound
  · rintro (hnone | ⟨-, hfault⟩)
    · exact ⟨_, hspot.stat_eq_of_missing hnone, rfl⟩
    · exact hfault

/-- The path to a name in a directory names an entry of it, whatever is there. -/
theorem Tree.exists_spot_of_stat {parent : Path} {label : String}
    (hparent : tree.stat parent = .ok true) (hslash : '/' ∉ label.toList)
    (hdash : '-' ∈ label.toList) (hcheck : (parent.join ⟨label⟩).check = .ok ())
    (hnames : ∀ name, .into name ∈ (parent.join ⟨label⟩).steps → isTooLong name = false) :
    ∃ left directory, tree.Spot (parent.join ⟨label⟩) left directory label.toList := by
  obtain ⟨hvalid, left, ending, entry, hleads, hentry, -, hdirectory⟩ := stat_eq_ok_iff.mp hparent
  have hinside : tree.at? ending = some .directory := by
    cases entry with
    | directory => exact hentry
    | file contents mode => cases hdirectory
    | link target => cases hdirectory
  have hne : parent.text.toList ≠ [] := by
    intro hempty
    have hnone : parent.check = .error .noSuchEntry := by
      simp [Path.check, String.toList_eq_nil_iff.mp hempty]
    rw [hnone] at hvalid
    cases hvalid
  obtain ⟨before, hsteps, hjoined⟩ := Path.steps_join_entry hne hslash hdash
  have hway : tree.Leads maxLinks (parent.start tree.workingDirectory) before left ending := by
    rcases hsteps with hsteps | hsteps
    · rwa [hsteps] at hleads
    · -- a separator at the end leads nowhere else
      rw [hsteps] at hleads
      obtain ⟨between, middle, hfront, hback⟩ := Leads.append_iff.mp hleads
      cases hback with
      | around _ hstep hrest =>
          cases hstep
          obtain ⟨rfl, rfl⟩ := Leads.nil_iff.mp hrest
          exact hfront
  have hshort := hnames label.toList (by rw [hjoined]; exact List.mem_append_right _ (by simp))
  refine ⟨left, ending, hcheck, ⟨before, hjoined, ?_⟩, hinside, hshort⟩
  rw [Path.start, Path.isAbsolute_join_entry hne hslash]
  exact hway

namespace Promotion

/-- The paths of the pointer and of the manifest are no reason for an operation to fail,
whatever is in the tree. -/
structure WithinLimits (layout : Layout) (revision : Revision) : Prop where
  manifest : (layout.revisionedManifest revision).check = .ok ()
  pointer : layout.lastKnownGood.check = .ok ()
  names : ∀ name, .into name ∈ layout.lastKnownGood.steps → isTooLong name = false

/-- The pointer can be made: its path names an entry of a directory, and there is nothing
or a link that leads nowhere, or in a strict call something that is no directory. -/
def Makeable (layout : Layout) (strict : Bool) (tree : Tree) : Prop :=
  (tree.place? layout.lastKnownGood).isSome = true ∧ tree.IsVacant layout.lastKnownGood ∨
    strict = true ∧ tree.stat layout.lastKnownGood = .ok false

/-- For a target whose name is no path the pointer is an entry of the resources
directory. -/
theorem isSome_place?_of_stat (hlimits : WithinLimits layout revision)
    (htarget : '/' ∉ layout.target.toList) (hstat : tree.stat layout.resourcesDir = .ok true) :
    (tree.place? layout.lastKnownGood).isSome = true := by
  have hslash : '/' ∉ (layout.target ++ "-last-known-good").toList := by
    rw [String.toList_append, List.mem_append, not_or]
    exact ⟨htarget, by decide⟩
  have hdash : '-' ∈ (layout.target ++ "-last-known-good").toList := by
    rw [String.toList_append]
    exact List.mem_append_right _ (by decide)
  obtain ⟨left, directory, hspot⟩ :=
    exists_spot_of_stat hstat hslash hdash hlimits.pointer hlimits.names
  rw [Layout.lastKnownGood, hspot.place?_eq]
  rfl

theorem exists_spot_of_isSome (hplace : (tree.place? layout.lastKnownGood).isSome = true) :
    ∃ left directory name, tree.Spot layout.lastKnownGood left directory name := by
  obtain ⟨before, tip, hsteps⟩ := layout.steps_lastKnownGood
  obtain ⟨place, hplace⟩ := Option.isSome_iff_exists.mp hplace
  obtain ⟨left, directory, -, hspot⟩ := spot_of_place? hsteps hplace
  exact ⟨left, directory, _, hspot⟩

/-- Where something is found, the path names its entry or a link that leads there. -/
theorem exists_entry_of_stat {isDir : Bool} (hstat : tree.stat layout.lastKnownGood = .ok isDir) :
    ∃ left directory name entry, tree.Spot layout.lastKnownGood left directory name ∧
      tree.at? (name :: directory) = some entry := by
  obtain ⟨before, tip, hsteps⟩ := layout.steps_lastKnownGood
  obtain ⟨hcheck, links, ending, found, hleads, -, -, -⟩ := stat_eq_ok_iff.mp hstat
  obtain ⟨left, directory, hspot, -⟩ := spot_of_leads hcheck hsteps hleads
  cases hentry : tree.at? ((tip ++ Layout.pointerEnd) :: directory) with
  | none =>
      rw [hspot.stat_eq_of_missing hentry] at hstat
      cases hstat
  | some entry => exact ⟨left, directory, _, entry, hspot, hentry⟩

theorem makeable_iff :
    Makeable layout strict tree ↔
      ∃ left directory name, tree.Spot layout.lastKnownGood left directory name ∧
        (tree.Sees layout.lastKnownGood false ∨
          strict = true ∧ tree.Sees layout.lastKnownGood true) := by
  constructor
  · rintro (⟨hplace, hvacant⟩ | ⟨hstrict, hstat⟩)
    · obtain ⟨left, directory, name, hspot⟩ := exists_spot_of_isSome hplace
      exact ⟨left, directory, name, hspot, Or.inl (hspot.sees_false_iff.mpr hvacant)⟩
    · obtain ⟨left, directory, name, -, hspot, -⟩ := exists_entry_of_stat hstat
      refine ⟨left, directory, name, hspot, Or.inr ⟨hstrict, ?_⟩⟩
      rw [sees_iff, if_pos rfl]
      exact hstat
  · rintro ⟨left, directory, name, hspot, hsees | ⟨hstrict, hsees⟩⟩
    · refine Or.inl ⟨?_, hspot.sees_false_iff.mp hsees⟩
      rw [hspot.place?_eq]
      rfl
    · rw [sees_iff, if_pos rfl] at hsees
      exact Or.inr ⟨hstrict, hsees⟩

/-! ## Making it where it can be made -/

theorem does_create_of_sees (hspot : tree.Spot layout.lastKnownGood left directory name)
    (hcheck : (layout.revisionedManifest revision).check = .ok ())
    (hsees : tree.Sees layout.lastKnownGood false ∨
      strict = true ∧ tree.Sees layout.lastKnownGood true) :
    Does healthy tree (createLastKnownGood layout revision strict).run (.ok ())
      (tree.set (name :: directory) (.link (layout.revisionedManifest revision))) := by
  cases strict with
  | true =>
      refine does_createLastKnownGood hspot hcheck ?_
      rcases hsees with hsees | ⟨-, hsees⟩
      · exact ⟨false, hsees⟩
      · exact ⟨true, hsees⟩
  | false =>
      rw [Fallback.does_createLastKnownGood_iff]
      apply does_place_of_sees hspot hcheck
      rcases hsees with hsees | ⟨hstrict, -⟩
      · exact hsees
      · cases hstrict

/-! ## Failing where it cannot -/

theorem does_strict_iff {result : Except SyncFault Unit} :
    Does healthy tree (createLastKnownGood layout revision true).run result after ↔
      Does healthy tree (clear layout >>= fun _ =>
        createLastKnownGood layout revision false).run result after := Iff.rfl

theorem does_replaceDangling_of_unseen {failure : SyncFault} {fault : FileFault}
    (hlook : Sync.presence layout.lastKnownGood (tree.stat layout.lastKnownGood) =
      .error failure) :
    Does healthy tree (replaceDangling layout revision fault).run (.error failure) tree := by
  rw [replaceDangling, Sync.does_fileExists_bind_iff]
  simp only [answer, hlook, and_self]

theorem does_replaceDangling_of_sees {fault : FileFault}
    (hsees : tree.Sees layout.lastKnownGood true) :
    Does healthy tree (replaceDangling layout revision fault).run
      (.error (linkFault layout revision fault)) tree := by
  rw [replaceDangling, Sync.does_fileExists_bind_iff, hsees]
  exact Sync.does_throw_iff.mpr ⟨rfl, rfl⟩

/-- Where the path is taken, the link is made in place of what leads nowhere, or not. -/
theorem does_place_iff_of_taken {entry : Entry} {result : Except SyncFault Unit}
    (hspot : tree.Spot layout.lastKnownGood left directory name)
    (hcheck : (layout.revisionedManifest revision).check = .ok ())
    (hentry : tree.at? (name :: directory) = some entry) :
    Does healthy tree (place layout revision).run result after ↔
      Does healthy tree (replaceDangling layout revision .entryExists).run result after := by
  rw [does_place_iff]
  simp only [linkCall, answer, hspot.symlink_eq_of_taken hcheck hentry]
  exact Iff.rfl

section Shut

variable (hshut : ∀ left directory name, tree.Spot layout.lastKnownGood left directory name →
  ¬ tree.Sees layout.lastKnownGood false)
include hshut

/-- Nothing is removed where the path names no entry, or something is found. -/
theorem exists_does_replaceDangling_error (fault : FileFault) :
    ∃ failure, Does healthy tree (replaceDangling layout revision fault).run
      (.error failure) tree := by
  obtain ⟨before, tip, hsteps⟩ := layout.steps_lastKnownGood
  cases hlook : Sync.presence layout.lastKnownGood (tree.stat layout.lastKnownGood) with
  | error failure => exact ⟨failure, does_replaceDangling_of_unseen hlook⟩
  | ok found =>
      cases found with
      | true => exact ⟨_, does_replaceDangling_of_sees hlook⟩
      | false =>
          cases hremove : tree.remove layout.lastKnownGood with
          | ok changed =>
              obtain ⟨_, _, _, hspot, -⟩ := spot_of_remove hsteps hremove
              exact absurd hlook (hshut _ _ _ hspot)
          | error other =>
              refine ⟨.file layout.lastKnownGood other, ?_⟩
              rw [replaceDangling, Sync.does_fileExists_bind_iff]
              simp only [answer, hlook]
              rw [if_neg Bool.false_ne_true, Sync.does_file_bind_iff]
              simp only [answer, hremove, settle, and_self]

/-- Then no link is made either. -/
theorem exists_does_place_error :
    ∃ failure, Does healthy tree (place layout revision).run (.error failure) tree := by
  obtain ⟨before, tip, hsteps⟩ := layout.steps_lastKnownGood
  simp only [does_place_iff, linkCall, answer]
  cases hsymlink : tree.symlink (layout.revisionedManifest revision) layout.lastKnownGood with
  | ok changed =>
      -- the link was made where nothing was, and nothing is seen there
      obtain ⟨left, directory, -, hspot, hmissing, -⟩ := spot_of_symlink hsteps hsymlink
      have hstat := hspot.stat_eq_of_missing hmissing
      exact absurd (Sync.presence_eq_false_iff.mpr ⟨_, rfl, hstat⟩) (hshut _ _ _ hspot)
  | error fault =>
      cases htaken : fault.isAlreadyExists with
      | false =>
          refine ⟨linkFault layout revision fault, ?_⟩
          simp only [settle, afterLink, htaken]
          exact Sync.does_throw_iff.mpr ⟨rfl, rfl⟩
      | true =>
          simp only [settle, afterLink, htaken, if_true]
          exact exists_does_replaceDangling_error hshut fault

end Shut

theorem exists_does_create_error (hshut : ¬ Makeable layout strict tree) :
    ∃ failure, Does healthy tree (createLastKnownGood layout revision strict).run
      (.error failure) tree := by
  rw [makeable_iff] at hshut
  have hplace : ∃ failure, Does healthy tree (createLastKnownGood layout revision false).run
      (.error failure) tree := by
    simp only [Fallback.does_createLastKnownGood_iff]
    apply exists_does_place_error
    intro left directory name hspot hsees
    exact hshut ⟨left, directory, name, hspot, Or.inl hsees⟩
  cases strict with
  | false => exact hplace
  | true =>
      cases hlook : Sync.presence layout.lastKnownGood (tree.stat layout.lastKnownGood) with
      | error failure => exact ⟨failure, does_createLastKnownGood_of_unseen hlook⟩
      | ok found =>
          cases found with
          | true =>
              obtain ⟨left, directory, name, _, hspot, -⟩ :=
                exists_entry_of_stat (Sync.presence_eq_true_iff.mp hlook)
              exact absurd ⟨left, directory, name, hspot, Or.inr ⟨rfl, hlook⟩⟩ hshut
          | false =>
              -- nothing is in the way
              have hclear : Does healthy tree (clear layout).run (.ok ()) tree := by
                rw [clear, Sync.does_fileExists_bind_iff]
                simp only [answer, hlook]
                exact Sync.does_pure_iff.mpr ⟨rfl, rfl⟩
              obtain ⟨failure, hfailure⟩ := hplace
              refine ⟨failure, ?_⟩
              rw [does_strict_iff, Sync.does_bind_iff]
              exact Or.inr ⟨(), tree, hclear, hfailure⟩

/-! ## The kinds of failure -/

/-- A directory is never taken for a pointer. -/
theorem does_create_of_directory (hcheck : (layout.revisionedManifest revision).check = .ok ())
    (hstat : tree.stat layout.lastKnownGood = .ok true) :
    Does healthy tree (createLastKnownGood layout revision strict).run
      (.error (.notAPointer layout.lastKnownGood)) tree := by
  have hlook : Sync.presence layout.lastKnownGood (tree.stat layout.lastKnownGood) =
      .error (.notAPointer layout.lastKnownGood) := by
    rw [hstat]
    rfl
  cases strict with
  | true => exact does_createLastKnownGood_of_unseen hlook
  | false =>
      obtain ⟨left, directory, name, entry, hspot, hentry⟩ := exists_entry_of_stat hstat
      rw [Fallback.does_createLastKnownGood_iff, does_place_iff_of_taken hspot hcheck hentry]
      exact does_replaceDangling_of_unseen hlook

/-- A pointer that leads somewhere stays where the call is not strict. -/
theorem does_create_of_present (hcheck : (layout.revisionedManifest revision).check = .ok ())
    (hstat : tree.stat layout.lastKnownGood = .ok false) :
    Does healthy tree (createLastKnownGood layout revision false).run
      (.error (linkFault layout revision .entryExists)) tree := by
  obtain ⟨left, directory, name, entry, hspot, hentry⟩ := exists_entry_of_stat hstat
  rw [Fallback.does_createLastKnownGood_iff, does_place_iff_of_taken hspot hcheck hentry]
  exact does_replaceDangling_of_sees (Sync.presence_eq_true_iff.mpr hstat)

/-! ## All or nothing -/

theorem create_isSettled (strict : Bool) :
    Asks Request.IsSettled (createLastKnownGood layout revision strict).run :=
  (createLastKnownGood_asks strict).mono fun _ hlinks => hlinks.isSettled

/-- The pointer's entry is a link to the manifest of the revision, and every other entry is
as before. -/
structure Repointed (layout : Layout) (revision : Revision) (tree after : Tree) : Prop where
  held?_eq :
    after.held? layout.lastKnownGood = some (.link (layout.revisionedManifest revision))
  sameBesides : SameBesides ([layout.lastKnownGood].filterMap tree.place?) tree after

theorem repointed_of_does (hdoes : Does healthy tree
    (createLastKnownGood layout revision strict).run (.ok ()) after) :
    Repointed layout revision tree after := by
  obtain ⟨left, directory, name, hplaced, hdead⟩ := created_of_does hdoes
  refine ⟨?_, ?_⟩
  · rw [held?_eq_of_place? (hplaced.spot_pointer hdead).place?_eq, hplaced.at?_pointer]
  · have hsame : SameBut (name :: directory) tree after := by
      rw [hplaced.after_eq]
      exact sameBut_set tree name directory _
    have hmem : name :: directory ∈ [layout.lastKnownGood].filterMap tree.place? :=
      List.mem_filterMap.mpr ⟨_, List.mem_singleton_self _, hplaced.spot.place?_eq⟩
    exact hsame.sameBesides hmem

/-- Making the pointer comes to one result on every host: the link is in the place of the
pointer and nothing else has changed, or it fails and nothing has changed at all.  It fails
at a directory, and if it is not strict at a pointer that leads somewhere; and it succeeds
exactly where the pointer can be made.  The directory that this takes is the resources
directory, unless the name of the target is a path. -/
theorem created_or_unchanged (healthy strict : Bool) (tree : Tree)
    (hlimits : WithinLimits layout revision) :
    ∃ result after,
      (∀ other final, Does healthy tree (createLastKnownGood layout revision strict).run
          other final ↔ other = result ∧ final = after) ∧
      (result = .ok () ∧ Repointed layout revision tree after ∨
        (∃ failure, result = .error failure) ∧ after = tree) ∧
      (tree.stat layout.lastKnownGood = .ok true →
        result = .error (.notAPointer layout.lastKnownGood)) ∧
      (strict = false → tree.stat layout.lastKnownGood = .ok false →
        ∃ fault, result =
          .error (.link layout.lastKnownGood (layout.revisionedManifest revision) fault)) ∧
      (result = .ok () ↔ Makeable layout strict tree) ∧
      ('/' ∉ layout.target.toList → tree.stat layout.resourcesDir = .ok true →
        (tree.place? layout.lastKnownGood).isSome = true) := by
  obtain ⟨result, after, hdoes, hshape, hmade⟩ : ∃ result after,
      Does healthy tree (createLastKnownGood layout revision strict).run result after ∧
      (result = .ok () ∧ Repointed layout revision tree after ∨
        (∃ failure, result = .error failure) ∧ after = tree) ∧
      (result = .ok () ↔ Makeable layout strict tree) := by
    by_cases hopen : Makeable layout strict tree
    · obtain ⟨left, directory, name, hspot, hsees⟩ := makeable_iff.mp hopen
      have hdoes : Does healthy tree (createLastKnownGood layout revision strict).run (.ok ()) _ :=
        does_create_of_sees hspot hlimits.manifest hsees
      exact ⟨_, _, hdoes, Or.inl ⟨rfl, repointed_of_does hdoes⟩, iff_of_true rfl hopen⟩
    · obtain ⟨failure, hdoes⟩ : ∃ failure, Does healthy tree
          (createLastKnownGood layout revision strict).run (.error failure) tree :=
        exists_does_create_error hopen
      exact ⟨_, _, hdoes, Or.inr ⟨⟨failure, rfl⟩, rfl⟩, iff_of_false nofun hopen⟩
  have hiff := does_iff_of_does (create_isSettled strict) hdoes
  refine ⟨result, after, hiff, hshape, ?_, ?_, hmade, isSome_place?_of_stat hlimits⟩
  · intro hstat
    exact ((hiff _ _).mp (does_create_of_directory hlimits.manifest hstat)).1.symm
  · rintro rfl hstat
    exact ⟨_, ((hiff _ _).mp (does_create_of_present hlimits.manifest hstat)).1.symm⟩

end Promotion

namespace Rehearsed

/-- A host with a pointer to a manifest that was pruned. -/
def pruned : Tree :=
  ⟨[(["resources".toList], .directory),
    (["kube-last-known-good".toList, "resources".toList],
      .link ⟨"/resources/kube-pod-7/kube-pod.yaml"⟩)], []⟩

/-- A host with an empty archive. -/
def unfilled : Tree := ⟨[(["resources".toList], .directory)], []⟩

/-- A target whose name is a path. -/
def nestedLayout : Layout := ⟨"sub/kube", ⟨"/manifests"⟩, ⟨"/resources"⟩⟩

end Rehearsed

/-- A link that leads nowhere is replaced. -/
theorem Promotion.created_or_unchanged_rehearsed :
    WithinLimits Rehearsed.absoluteLayout 8 ∧
      ∃ after, Does false Rehearsed.pruned
          (createLastKnownGood Rehearsed.absoluteLayout 8 false).run (.ok ()) after ∧
        after.held? Rehearsed.absoluteLayout.lastKnownGood =
          some (.link ⟨"/resources/kube-pod-8/kube-pod.yaml"⟩) := by
  have hlimits : WithinLimits Rehearsed.absoluteLayout 8 := by
    refine ⟨by decide +kernel, by decide +kernel, ?_⟩
    have hsteps : Rehearsed.absoluteLayout.lastKnownGood.steps =
        [.into "resources".toList, .into "kube-last-known-good".toList] := by decide +kernel
    intro name hname
    simp only [hsteps, List.mem_cons, WalkStep.into.injEq, List.not_mem_nil, or_false] at hname
    rcases hname with rfl | rfl
    · decide +kernel
    · decide +kernel
  obtain ⟨result, after, hiff, hshape, -, -, hmade, -⟩ :=
    created_or_unchanged false false Rehearsed.pruned hlimits
  have hopen : Makeable Rehearsed.absoluteLayout false Rehearsed.pruned :=
    Or.inl ⟨by decide +kernel, Or.inr ⟨⟨⟨"/resources/kube-pod-7/kube-pod.yaml"⟩,
      by decide +kernel⟩, .noSuchEntry, by decide +kernel, by decide +kernel⟩⟩
  obtain rfl := hmade.mpr hopen
  refine ⟨hlimits, after, (hiff _ _).mpr ⟨rfl, rfl⟩, ?_⟩
  rcases hshape with ⟨-, hrepointed⟩ | ⟨⟨failure, hfailure⟩, -⟩
  · exact hrepointed.held?_eq.trans (by decide +kernel)
  · cases hfailure

/-- With nothing in the way in the resources directory the pointer of a target whose name is
a path is not made, since the directory that the name leads through is missing. -/
theorem Promotion.not_created_rehearsed :
    Rehearsed.unfilled.stat Rehearsed.nestedLayout.resourcesDir = .ok true ∧
      Rehearsed.unfilled.held? Rehearsed.nestedLayout.lastKnownGood = none ∧
      ∀ strict result after, Does false Rehearsed.unfilled
        (createLastKnownGood Rehearsed.nestedLayout 8 strict).run result after →
        result ≠ .ok () := by
  refine ⟨by decide +kernel, by decide +kernel, ?_⟩
  rintro strict result after hdoes rfl
  have hplace : Rehearsed.unfilled.place? Rehearsed.nestedLayout.lastKnownGood = none := by
    decide +kernel
  obtain ⟨left, directory, name, hplaced, -⟩ := created_of_does hdoes
  rw [hplaced.spot.place?_eq] at hplace
  cases hplace

end RevisionGuard
