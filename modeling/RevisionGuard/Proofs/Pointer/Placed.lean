import RevisionGuard.Proofs.Files.Spot
import RevisionGuard.Proofs.Layout.Steps
import RevisionGuard.Proofs.Sync.Hosts
import RevisionGuard.Proofs.Sync.Requests
import Mathlib.Tactic.Common

/-!
# Making the pointer on a host

What the files of a host are when the pointer has been made: as they were, but
for the link in the place of the pointer.  Whatever was there before, a file, a
link or nothing, no directory was reached by way of it, so every path that leads
through directories only leads where it did.
-/

namespace RevisionGuard

open RevisionGuard.Tree

variable {tree other after : Tree} {path : Path} {left : Nat} {directory : Location}
  {name : EntryName} {healthy : Bool} {layout : Layout} {revision : Revision}

/-! ## Looks at a host -/

/-- What a look at a path says on a host: whether something other than a directory
is there. -/
abbrev Tree.Sees (tree : Tree) (path : Path) (found : Bool) : Prop :=
  Sync.presence path (tree.answer (.stat path)).1 = .ok found

/-- A look at a path finds something other than a directory, or finds nothing, and is
not kept from either. -/
def Tree.Seen (tree : Tree) (path : Path) : Prop := ∃ found, tree.Sees path found

theorem Tree.sees_iff {found : Bool} :
    tree.Sees path found ↔
      if found then tree.stat path = .ok false
      else ∃ fault, tree.stat path = .error fault ∧ fault.isNotFound = true := by
  change Sync.presence path (tree.stat path) = .ok found ↔ _
  rcases tree.stat path with fault | (_ | _)
  · cases hfault : fault.isNotFound <;> cases found <;> simp [Sync.presence, hfault]
  · cases found <;> simp [Sync.presence]
  · cases found <;> simp [Sync.presence]

/-- A path that leads to something other than a directory comes by no entry by
way of which a directory is reached. -/
theorem Tree.Spot.deadEnd_of_sees {found : Bool}
    (hspot : tree.Spot path left directory name)
    (hsees : tree.Sees path found) :
    tree.DeadEnd IsDirectory directory name := by
  have hstat : tree.stat path ≠ .error .tooManyLinks ∧ tree.stat path ≠ .ok true := by
    rw [sees_iff] at hsees
    cases found with
    | true =>
        simp only [if_true] at hsees
        simp [hsees]
    | false =>
        obtain ⟨fault, hfault, hmissing⟩ := hsees
        rw [hfault]
        refine ⟨?_, by simp⟩
        rintro ⟨⟩
        cases hmissing
  refine hspot.deadEnd hstat.1 fun links ending entry hleads hentry hdirectory => hstat.2 ?_
  exact stat_eq_ok_iff.mpr ⟨hspot.check, links, ending, entry, hleads, hentry,
    isEnd_directory hdirectory, by rw [hdirectory]; rfl⟩

/-- Where nothing is, nothing is seen. -/
theorem Tree.Spot.exists_of_sees (hspot : tree.Spot path left directory name)
    (hsees : tree.Sees path true) : ∃ entry, tree.at? (name :: directory) = some entry := by
  refine Option.ne_none_iff_exists'.mp fun hmissing => ?_
  have hstat := sees_iff.mp hsees
  rw [if_pos rfl, hspot.stat_eq_of_missing hmissing] at hstat
  cases hstat

/-- By way of an entry nothing is reached if the path to it leads nowhere. -/
theorem Tree.Spot.deadEnd_of_missing (hspot : tree.Spot path left directory name)
    (hsees : tree.Sees path false) :
    tree.DeadEnd IsEnd directory name := by
  obtain ⟨fault, hfault, hmissing⟩ := sees_iff.mp hsees
  refine hspot.deadEnd ?_ fun links ending entry hleads hentry hend => ?_
  · rw [hfault]
    rintro ⟨⟩
    cases hmissing
  · have hstat := stat_eq_ok_iff.mpr ⟨hspot.check, links, ending, entry, hleads, hentry, hend,
      rfl⟩
    rw [hfault] at hstat
    cases hstat

namespace Promotion

/-- What makes the pointer asks for nothing that a host leaves open. -/
theorem Links.isSettled {request : Request} (hlinks : Links layout revision request) :
    request.IsSettled := by
  cases hlinks <;> trivial

/-- The operation that makes the link. -/
def linkCall (layout : Layout) (revision : Revision) : FileCall :=
  .symlink (layout.revisionedManifest revision) layout.lastKnownGood

/-- What follows the first try to make the link. -/
def afterLink (layout : Layout) (revision : Revision) : Except FileFault Unit → Sync Unit
  | .ok () => pure ()
  | .error fault =>
    if fault.isAlreadyExists then replaceDangling layout revision fault
    else throw (linkFault layout revision fault)

theorem place_eq (layout : Layout) (revision : Revision) :
    (place layout revision).run =
      .ask (.file (linkCall layout revision)) fun answer =>
        (afterLink layout revision answer).run := by
  refine congrArg (Program.ask _) (funext fun answer => ?_)
  match answer with
  | .ok () => rfl
  | .error fault => rfl

theorem does_place_iff {result : Except SyncFault Unit} :
    Does healthy tree (place layout revision).run result after ↔
      Does healthy (tree.answer (linkCall layout revision)).2
        (afterLink layout revision (tree.answer (linkCall layout revision)).1).run
        result after := by
  rw [place_eq]
  exact does_file_iff

/-- Where nothing is, the link is made at once. -/
theorem does_place_of_missing (hspot : tree.Spot layout.lastKnownGood left directory name)
    (hcheck : (layout.revisionedManifest revision).check = .ok ())
    (hmissing : tree.at? (name :: directory) = none) :
    Does healthy tree (place layout revision).run (.ok ())
      (tree.set (name :: directory) (.link (layout.revisionedManifest revision))) := by
  rw [does_place_iff]
  simp only [linkCall, answer, hspot.symlink_eq_of_missing hcheck hmissing]
  exact Sync.does_pure_iff.mpr ⟨rfl, rfl⟩

/-- The files of a host before and after the link has been made: it is in the
place that its path names, and everything else is as before. -/
structure Placed (layout : Layout) (revision : Revision) (tree after : Tree) (left : Nat)
    (directory : Location) (name : EntryName) : Prop where
  spot : tree.Spot layout.lastKnownGood left directory name
  check : (layout.revisionedManifest revision).check = .ok ()
  after_eq :
    after = tree.set (name :: directory) (.link (layout.revisionedManifest revision))

/-- A link that is made at once is made where nothing was. -/
theorem placed_of_symlink
    (hsymlink : tree.symlink (layout.revisionedManifest revision) layout.lastKnownGood =
      .ok after) :
    ∃ left directory name, Placed layout revision tree after left directory name ∧
      tree.at? (name :: directory) = none := by
  obtain ⟨before, tip, hsteps⟩ := layout.steps_lastKnownGood
  obtain ⟨left, directory, hcheck, hspot, hmissing, rfl⟩ := spot_of_symlink hsteps hsymlink
  exact ⟨left, directory, _, ⟨hspot, hcheck, rfl⟩, hmissing⟩

/-- A link that is made once something has been removed takes the place of what
has been removed, which was no directory. -/
theorem Placed.of_removed {between : Tree} {found : Bool}
    (hplaced : Placed layout revision between after left directory name)
    (hsees : tree.Sees layout.lastKnownGood found)
    (hremove : tree.remove layout.lastKnownGood = .ok between) :
    Placed layout revision tree after left directory name ∧
      tree.DeadEnd IsDirectory directory name ∧ between = tree.erase (name :: directory) := by
  obtain ⟨before, tip, hsteps⟩ := layout.steps_lastKnownGood
  -- the removal has left the path where it was, so the link is in the same place
  obtain ⟨others, elsewhere, entry, hspot, -, -, rfl⟩ := spot_of_remove hsteps hremove
  have hdead := hspot.deadEnd_of_sees hsees
  have hkept := hspot.frame (sameBut_erase tree _ elsewhere) hdead
  obtain ⟨rfl, rfl, rfl⟩ := hkept.unique hplaced.spot
  exact ⟨⟨hspot, hplaced.check, hplaced.after_eq.trans (set_erase _ _ _)⟩, hdead, rfl⟩

theorem does_makeLink_iff :
    Does healthy tree (makeLink layout revision).run (.ok ()) after ↔
      tree.symlink (layout.revisionedManifest revision) layout.lastKnownGood = .ok after := by
  rw [makeLink_eq_answered, Sync.does_answered_iff]
  simp only [answer]
  cases tree.symlink (layout.revisionedManifest revision) layout.lastKnownGood with
  | ok changed => simp [settle, linkResult, Except.mapError, eq_comm]
  | error fault => simp [settle, linkResult, Except.mapError]

theorem answer_remove_eq_ok_iff {value : Unit} :
    (tree.answer (.remove path)).1 = .ok value ↔
      tree.remove path = .ok (tree.answer (.remove path)).2 := by
  simp only [answer]
  cases tree.remove path with
  | ok changed => simp [settle]
  | error fault => simp [settle]

/-- A link in place of another is made once what was there has been found to lead
nowhere and has been removed. -/
theorem replaced_of_does {fault : FileFault}
    (hdoes : Does healthy tree (replaceDangling layout revision fault).run (.ok ()) after) :
    tree.Sees layout.lastKnownGood false ∧
      ∃ between, tree.remove layout.lastKnownGood = .ok between ∧
        between.symlink (layout.revisionedManifest revision) layout.lastKnownGood = .ok after := by
  obtain ⟨found, hsees, hrest⟩ := Sync.does_fileExists_bind_ok_iff.mp hdoes
  cases found with
  | true =>
      obtain ⟨hfailed, -⟩ := Sync.does_throw_iff.mp hrest
      cases hfailed
  | false =>
      obtain ⟨_, hremove, hlink⟩ := Sync.does_file_bind_ok_iff.mp hrest
      exact ⟨hsees, _, answer_remove_eq_ok_iff.mp hremove,
        does_makeLink_iff.mp (Sync.does_log_bind_iff.mp hlink)⟩

/-- The link is made where nothing was, or in place of what led nowhere. -/
theorem placed_of_does (hdoes : Does healthy tree (place layout revision).run (.ok ()) after) :
    ∃ left directory name, Placed layout revision tree after left directory name ∧
      tree.DeadEnd IsEnd directory name := by
  rw [does_place_iff] at hdoes
  simp only [linkCall, answer] at hdoes
  cases hsymlink : tree.symlink (layout.revisionedManifest revision) layout.lastKnownGood with
  | ok changed =>
      rw [hsymlink] at hdoes
      obtain ⟨-, rfl⟩ := Sync.does_pure_iff.mp hdoes
      obtain ⟨left, directory, name, hplaced, hmissing⟩ := placed_of_symlink hsymlink
      exact ⟨left, directory, name, hplaced, by simp [DeadEnd, hmissing]⟩
  | error fault =>
      rw [hsymlink] at hdoes
      simp only [settle, afterLink] at hdoes
      -- the path was taken, or the link could not be made for another reason
      split at hdoes
      · obtain ⟨hsees, between, hremove, hlink⟩ := replaced_of_does hdoes
        obtain ⟨left, directory, name, hlinked, -⟩ := placed_of_symlink hlink
        have hplaced := (hlinked.of_removed hsees hremove).1
        exact ⟨left, directory, name, hplaced, hplaced.spot.deadEnd_of_missing hsees⟩
      · obtain ⟨hfailed, -⟩ := Sync.does_throw_iff.mp hdoes
        cases hfailed

/-- Clearing the way removes a pointer that leads somewhere. -/
theorem cleared_of_does (hdoes : Does healthy tree (clear layout).run (.ok ()) after) :
    ∃ found, tree.Sees layout.lastKnownGood found ∧
      if found then tree.remove layout.lastKnownGood = .ok after else after = tree := by
  obtain ⟨found, hsees, hrest⟩ := Sync.does_fileExists_bind_ok_iff.mp hdoes
  refine ⟨found, hsees, ?_⟩
  cases found with
  | false => exact (Sync.does_pure_iff.mp hrest).2
  | true =>
      obtain ⟨_, hremove, hlog⟩ := Sync.does_file_bind_ok_iff.mp hrest
      obtain ⟨-, rfl⟩ := Sync.does_log_iff.mp hlog
      exact answer_remove_eq_ok_iff.mp hremove

/-- Once the pointer has been made, the files are as before, but for the link in
a place by way of which no directory was reached. -/
theorem created_of_does {strict : Bool}
    (hdoes : Does healthy tree (createLastKnownGood layout revision strict).run (.ok ()) after) :
    ∃ left directory name, Placed layout revision tree after left directory name ∧
      tree.DeadEnd IsDirectory directory name := by
  have hplace : ∀ {tree : Tree},
      Does healthy tree (place layout revision >>= fun _ =>
        Sync.log .info .fallback (createdText layout revision)).run (.ok ()) after →
      Does healthy tree (place layout revision).run (.ok ()) after := by
    intro tree hdoes
    obtain ⟨_, between, hplace, hlog⟩ := Sync.does_bind_ok_iff.mp hdoes
    obtain ⟨-, rfl⟩ := Sync.does_log_iff.mp hlog
    exact hplace
  cases strict with
  | false =>
      obtain ⟨left, directory, name, hplaced, hdead⟩ := placed_of_does (hplace hdoes)
      exact ⟨left, directory, name, hplaced, hdead.mono isEnd_directory⟩
  | true =>
      obtain ⟨_, between, hclear, hrest⟩ := Sync.does_bind_ok_iff.mp hdoes
      obtain ⟨found, hsees, hcleared⟩ := cleared_of_does hclear
      cases found with
      | false =>
          obtain rfl : between = tree := hcleared
          obtain ⟨left, directory, name, hplaced, hdead⟩ := placed_of_does (hplace hrest)
          exact ⟨left, directory, name, hplaced, hdead.mono isEnd_directory⟩
      | true =>
          obtain ⟨left, directory, name, hlinked, -⟩ := placed_of_does (hplace hrest)
          obtain ⟨hplaced, hdead, -⟩ := hlinked.of_removed hsees hcleared
          exact ⟨left, directory, name, hplaced, hdead⟩

end Promotion

end RevisionGuard
