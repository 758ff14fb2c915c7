import RevisionGuard.Proofs.Pointer.Placed
import RevisionGuard.Proofs.Sync.Archive
import Mathlib.Tactic.Common

/-!
# Making sure of the pointer, with and without a failure

Before a fallback reads the last known good manifest it makes sure of the pointer:
either there is one, or it is made to lead to the archive's previous revision
(`Fallback.Ensured`).  When an operation fails on the way, the files are as before,
or nothing but a link that led nowhere has been removed (`Fallback.Stalled`).  From
there making sure of the pointer comes to the same (`Ensured.of_stalled`): what was
removed had no part in any path that led somewhere, and was no directory of the
archive.
-/

namespace RevisionGuard

open Program RevisionGuard.Tree

variable {tree ready after : Tree} {healthy : Bool} {layout : Layout} {failed : Revision}
  {call : FileCall} {fault : FileFault} {directory : Location} {name : EntryName}

/-- A failure that the guard does not take for an answer. -/
structure FileFault.IsForeign (fault : FileFault) : Prop where
  notMissing : fault.isNotFound = false
  notTaken : fault.isAlreadyExists = false

/-! ## The archive without the pointer -/

/-- What has the name of the pointer is not among the directories of a search that
succeeds, so the search comes to the same without it. -/
theorem Archive.does_erase {previous : Option Revision} {tip : EntryName}
    (hsearch : Does healthy tree (previousRevision layout).run (.ok previous) tree)
    (hdead : tree.DeadEnd IsEnd directory name) (hname : name = tip ++ Layout.pointerEnd) :
    Does healthy (tree.erase (name :: directory)) (previousRevision layout).run (.ok previous)
      (tree.erase (name :: directory)) := by
  obtain ⟨-, entries, found, hlist, hfound, rfl⟩ := searched_of_does hsearch
  obtain ⟨hcheck, left, ending, hleads, hentry, rfl⟩ := list_eq_ok_iff.mp hlist
  obtain ⟨hother, hkept⟩ :=
    (sameBut_erase tree name directory).leads_end hdead hleads hentry (isEnd_directory rfl)
  refine does_of_searched hfound
    (list_eq_ok_iff.mpr ⟨hcheck, left, ending, hother, hkept, rfl⟩) ?_
  rw [List.filter_map, List.filter_map, filter_children_erase]
  -- a candidate of this name would have made the search fail
  intro entry hmem
  by_contra hcandidate
  obtain ⟨revision, hrevision⟩ := named_of_revisions hfound ⟨String.ofList name, entry.isDirectory⟩
    (List.mem_map.mpr ⟨_, hmem, rfl⟩) (by simpa using hcandidate)
  obtain ⟨letter, hletter, hdigit⟩ := revisionOfName_eq_ok_last hrevision
  rw [String.toList_ofList, hname, List.getLast?_append_of_ne_nil _ (by decide)] at hletter
  obtain rfl : 'd' = letter := Option.some.inj hletter
  exact absurd hdigit (by decide)

namespace Fallback

/-! ## Without a failure -/

/-- The pointer is there, or it is made to lead to the previous revision. -/
inductive Ensured (healthy : Bool) (layout : Layout) : Tree → Tree → Prop where
  | present {tree : Tree} (hpointer : tree.Sees layout.lastKnownGood true) :
      Ensured healthy layout tree tree
  | adopted {tree ready : Tree} {previous : Revision}
      (hpointer : tree.Sees layout.lastKnownGood false)
      (hprevious : Does healthy tree (Archive.previousRevision layout).run (.ok (some previous))
        tree)
      (hmanifest : tree.Sees (layout.revisionedManifest previous) true)
      (hplace : Does healthy tree (Promotion.place layout previous).run (.ok ()) ready) :
      Ensured healthy layout tree ready

theorem does_createLastKnownGood_iff {previous : Revision} {result : Except SyncFault Unit} :
    Does healthy tree (Promotion.createLastKnownGood layout previous false).run result after ↔
      Does healthy tree (Promotion.place layout previous).run result after := by
  change Does healthy tree (Promotion.place layout previous >>= fun _ =>
    Sync.log .info .fallback (Promotion.createdText layout previous)).run result after ↔ _
  rw [Sync.does_bind_iff]
  constructor
  · rintro (⟨failure, hplace, rfl⟩ | ⟨_, between, hplace, hlog⟩)
    · exact hplace
    · obtain ⟨rfl, rfl⟩ := Sync.does_log_iff.mp hlog
      exact hplace
  · intro hplace
    cases result with
    | error failure => exact Or.inl ⟨failure, hplace, rfl⟩
    | ok value => exact Or.inr ⟨value, after, hplace, Sync.does_log_iff.mpr ⟨rfl, rfl⟩⟩

theorem does_adopt_iff {previous : Revision} :
    Does healthy tree (adopt layout previous).run (.ok true) after ↔
      tree.Sees (layout.revisionedManifest previous) true ∧
        Does healthy tree (Promotion.place layout previous).run (.ok ()) after := by
  refine Sync.does_fileExists_bind_ok_iff.trans ?_
  constructor
  · rintro ⟨found, hmanifest, hrest⟩
    cases found with
    | false =>
        obtain ⟨_, _, -, hfalse⟩ := Sync.does_bind_ok_iff.mp hrest
        cases (Sync.does_pure_iff.mp hfalse).1
    | true =>
        obtain ⟨_, between, hcreate, hpure⟩ := Sync.does_bind_ok_iff.mp hrest
        obtain ⟨-, rfl⟩ := Sync.does_pure_iff.mp hpure
        exact ⟨hmanifest, does_createLastKnownGood_iff.mp hcreate⟩
  · rintro ⟨hmanifest, hplace⟩
    exact ⟨true, hmanifest, Sync.does_bind_ok_iff.mpr
      ⟨(), after, does_createLastKnownGood_iff.mpr hplace, Sync.does_pure_iff.mpr ⟨rfl, rfl⟩⟩⟩

/-- A warning before a computation makes no difference to it. -/
private theorem does_warned_iff {α : Type} {condition : Prop} [Decidable condition] {text : String}
    {next : Sync α} {result : Except SyncFault α} :
    Does healthy tree
        (if condition then Sync.log .warn .fallback text >>= fun _ => next else next).run
        result after ↔
      Does healthy tree next.run result after := by
  split
  · exact Sync.does_log_bind_iff
  · exact Iff.rfl

private theorem breaks_warned_iff {α : Type} {condition : Prop} [Decidable condition]
    {text : String} {next : Sync α} {result : Except SyncFault α} :
    Breaks healthy tree
        (if condition then Sync.log .warn .fallback text >>= fun _ => next else next).run
        call fault result after ↔
      Breaks healthy tree next.run call fault result after := by
  split
  · exact Sync.breaks_log_bind_iff
  · exact Iff.rfl

theorem ensured_iff :
    Does healthy tree (ensurePointer layout failed).run (.ok true) ready ↔
      Ensured healthy layout tree ready := by
  refine Sync.does_fileExists_bind_ok_iff.trans ?_
  constructor
  · rintro ⟨found, hpointer, hrest⟩
    cases found with
    | true =>
        obtain ⟨-, rfl⟩ := Sync.does_pure_iff.mp hrest
        exact .present hpointer
    | false =>
        obtain ⟨previous, between, hsearch, hfound⟩ := Sync.does_bind_ok_iff.mp hrest
        obtain ⟨rfl, -⟩ := Archive.searched_of_does hsearch
        cases previous with
        | none =>
            obtain ⟨_, _, -, hfalse⟩ := Sync.does_bind_ok_iff.mp hfound
            cases (Sync.does_pure_iff.mp hfalse).1
        | some previous =>
            obtain ⟨hmanifest, hplace⟩ := does_adopt_iff.mp (does_warned_iff.mp hfound)
            exact .adopted hpointer hsearch hmanifest hplace
  · rintro (hpointer | ⟨hpointer, hsearch, hmanifest, hplace⟩)
    · exact ⟨true, hpointer, Sync.does_pure_iff.mpr ⟨rfl, rfl⟩⟩
    · exact ⟨false, hpointer, Sync.does_bind_ok_iff.mpr
        ⟨_, tree, hsearch, does_warned_iff.mpr (does_adopt_iff.mpr ⟨hmanifest, hplace⟩)⟩⟩

/-! ## With a failure -/

/-- The files at which making sure of the pointer can stop: as before, or without
what led nowhere in the place of the pointer. -/
def Stalled (layout : Layout) (tree after : Tree) : Prop :=
  after = tree ∨ tree.Sees layout.lastKnownGood false ∧ tree.remove layout.lastKnownGood = .ok after

/-- A computation does not get over the failure of an operation, and leaves files at
which making sure of the pointer can stop. -/
def Stalls (layout : Layout) (tree : Tree) {α : Type} (result : Except SyncFault α)
    (after : Tree) : Prop :=
  (∃ failure, result = .error failure) ∧ Stalled layout tree after

variable {α : Type} {result : Except SyncFault α}

theorem stalls_at_once (failure : SyncFault) (tree : Tree) :
    Stalls layout tree (.error failure : Except SyncFault α) tree :=
  ⟨⟨failure, rfl⟩, Or.inl rfl⟩

section Breaks

variable {revision : Revision} {result : Except SyncFault Unit} (hforeign : fault.IsForeign)
include hforeign

theorem stalls_of_breaks_replaceDangling {taken : FileFault}
    (hbreaks : Breaks healthy tree (Promotion.replaceDangling layout revision taken).run call
      fault result after) : Stalls layout tree result after := by
  rcases (Sync.breaks_fileExists_bind_iff hforeign.notMissing).mp hbreaks with
    ⟨-, rfl, rfl⟩ | ⟨found, hsees, hrest⟩
  · exact stalls_at_once _ _
  cases found with
  | true => exact absurd hrest Sync.not_breaks_throw
  | false =>
      rcases Sync.breaks_file_bind_iff.mp hrest with ⟨-, rfl, rfl⟩ | ⟨_, hremove, hlink⟩
      · exact stalls_at_once _ _
      -- the second try fails: by then what led nowhere is gone
      have hmake := Sync.breaks_log_bind_iff.mp hlink
      rw [Promotion.makeLink_eq_answered, Sync.breaks_answered_iff] at hmake
      obtain ⟨-, rfl, rfl⟩ := hmake
      exact ⟨⟨_, rfl⟩, Or.inr ⟨hsees, Promotion.answer_remove_eq_ok_iff.mp hremove⟩⟩

theorem stalls_of_breaks_place
    (hbreaks : Breaks healthy tree (Promotion.place layout revision).run call fault result
      after) : Stalls layout tree result after := by
  rw [Promotion.place_eq, breaks_file_iff] at hbreaks
  rcases hbreaks with ⟨-, hdoes⟩ | hbreaks
  -- the first try fails: the guard takes the failure for no taken path
  · simp only [Promotion.afterLink, hforeign.notTaken, Bool.false_eq_true, if_false] at hdoes
    obtain ⟨rfl, rfl⟩ := Sync.does_throw_iff.mp hdoes
    exact stalls_at_once _ _
  · cases hlink : (tree.answer (Promotion.linkCall layout revision)).1 with
    | ok value =>
        rw [hlink] at hbreaks
        exact absurd hbreaks Sync.not_breaks_pure
    | error taken =>
        rw [hlink, answer_error hlink] at hbreaks
        simp only [Promotion.afterLink] at hbreaks
        split at hbreaks
        · exact stalls_of_breaks_replaceDangling hforeign hbreaks
        · exact absurd hbreaks Sync.not_breaks_throw

theorem stalls_of_breaks_createLastKnownGood
    (hbreaks : Breaks healthy tree (Promotion.createLastKnownGood layout revision false).run call
      fault result after) : Stalls layout tree result after := by
  change Breaks healthy tree (Promotion.place layout revision >>= fun _ =>
    Sync.log .info .fallback (Promotion.createdText layout revision)).run call fault result after
    at hbreaks
  rcases Sync.breaks_bind_of_fails (fun hplace => (stalls_of_breaks_place hforeign hplace).1)
    hbreaks with ⟨failure, hplace, rfl⟩ | ⟨_, between, -, hlog⟩
  · exact stalls_of_breaks_place hforeign hplace
  · exact absurd (Tree.breaks_log_iff.mp hlog) not_breaks_done

end Breaks

theorem stalls_of_breaks_adopt {previous : Revision} {result : Except SyncFault Bool}
    (hforeign : fault.IsForeign)
    (hbreaks : Breaks healthy tree (adopt layout previous).run call fault result after) :
    Stalls layout tree result after := by
  rcases (Sync.breaks_fileExists_bind_iff hforeign.notMissing).mp hbreaks with
    ⟨-, rfl, rfl⟩ | ⟨found, hmanifest, hrest⟩
  · exact stalls_at_once _ _
  cases found with
  | true =>
      rcases Sync.breaks_bind_of_fails
        (fun hcreate => (stalls_of_breaks_createLastKnownGood hforeign hcreate).1) hrest with
        ⟨failure, hcreate, rfl⟩ | ⟨_, between, -, hpure⟩
      · exact ⟨⟨failure, rfl⟩, (stalls_of_breaks_createLastKnownGood hforeign hcreate).2⟩
      · exact absurd hpure Sync.not_breaks_pure
  | false =>
      have hlog := Sync.breaks_log_bind_iff.mp hrest
      exact absurd hlog Sync.not_breaks_pure

/-- When an operation fails, making sure of the pointer fails. -/
theorem stalls_of_breaks {result : Except SyncFault Bool} (hforeign : fault.IsForeign)
    (hbreaks : Breaks healthy tree (ensurePointer layout failed).run call fault result after) :
    Stalls layout tree result after := by
  rcases (Sync.breaks_fileExists_bind_iff hforeign.notMissing).mp hbreaks with
    ⟨-, rfl, rfl⟩ | ⟨found, hpointer, hrest⟩
  · exact stalls_at_once _ _
  cases found with
  | true => exact absurd hrest Sync.not_breaks_pure
  | false =>
      rcases Sync.breaks_bind_of_fails (fun hsearch => (Archive.failed_of_breaks hsearch).1) hrest
        with ⟨failure, hsearch, rfl⟩ | ⟨previous, between, hsearch, hfound⟩
      · obtain ⟨-, rfl⟩ := Archive.failed_of_breaks hsearch
        exact stalls_at_once _ _
      obtain ⟨rfl, -⟩ := Archive.searched_of_does hsearch
      cases previous with
      | none =>
          have hlog := Sync.breaks_log_bind_iff.mp hfound
          exact absurd hlog Sync.not_breaks_pure
      | some previous => exact stalls_of_breaks_adopt hforeign (breaks_warned_iff.mp hfound)

/-! ## After a failure -/

/-- Where making sure of the pointer stopped, it comes to the same as it would have
come to. -/
theorem Ensured.of_stalled (hensured : Ensured healthy layout tree ready)
    (hstalled : Stalled layout tree after) : Ensured healthy layout after ready := by
  rcases hstalled with rfl | ⟨hsees, hremove⟩
  · exact hensured
  cases hensured with
  | present hpointer =>
      have hboth := hsees.symm.trans hpointer
      cases hboth
  | @adopted _ previous hpointer hprevious hmanifest hplace =>
      obtain ⟨before, tip, hsteps⟩ := layout.steps_lastKnownGood
      obtain ⟨left, directory, entry, hspot, -, -, rfl⟩ := spot_of_remove hsteps hremove
      have hdead := hspot.deadEnd_of_missing hsees
      have hsame := sameBut_erase tree (tip ++ Layout.pointerEnd) directory
      have hopen := hspot.frame hsame (hdead.mono isEnd_directory)
      have hmissing := at?_erase_self tree (tip ++ Layout.pointerEnd) directory
      -- the link was made in this place, and is made there at once if it is empty
      obtain ⟨_, _, _, hplaced, -⟩ := Promotion.placed_of_does hplace
      obtain ⟨rfl, rfl, rfl⟩ := hspot.unique hplaced.spot
      refine .adopted ?_ (Archive.does_erase hprevious hdead rfl) ?_ ?_
      · exact sees_iff.mpr ⟨_, hopen.stat_eq_of_missing hmissing, rfl⟩
      · exact sees_iff.mpr (hsame.stat_eq hdead (sees_iff.mp hmanifest))
      · rw [hplaced.after_eq, ← set_erase tree]
        exact Promotion.does_place_of_missing hopen hplaced.check hmissing

/-- The pointer that has been made is there. -/
theorem Ensured.of_ready {contents : Bytes}
    (hread : ready.read layout.lastKnownGood = .ok contents) : Ensured healthy layout ready ready :=
  .present (sees_iff.mpr (stat_eq_of_read hread))

/-! ## What else is in the files -/

/-- Making sure of the pointer leaves what can be read. -/
theorem Ensured.read_eq {path : Path} {contents : Bytes}
    (hensured : Ensured healthy layout tree ready)
    (hread : tree.read path = .ok contents) : ready.read path = .ok contents := by
  cases hensured with
  | present => exact hread
  | adopted _ _ _ hplace =>
      obtain ⟨left, directory, name, hplaced, hdead⟩ := Promotion.placed_of_does hplace
      rw [hplaced.after_eq]
      exact (sameBut_set tree name directory _).read_eq hdead hread

/-- The files before and after making sure of the pointer differ at most in the
place of the pointer, by way of which no directory is reached before or after. -/
theorem Ensured.sameBut {contents : Bytes} (hensured : Ensured healthy layout tree ready)
    (hread : ready.read layout.lastKnownGood = .ok contents) :
    ready = tree ∨ ∃ directory name, SameBut (name :: directory) tree ready ∧
      tree.DeadEnd IsDirectory directory name ∧ ready.DeadEnd IsDirectory directory name := by
  cases hensured with
  | present => exact Or.inl rfl
  | adopted _ _ _ hplace =>
      obtain ⟨left, directory, name, hplaced, hdead⟩ := Promotion.placed_of_does hplace
      have hsame : SameBut (name :: directory) tree ready :=
        hplaced.after_eq ▸ sameBut_set tree name directory _
      have hsees : ready.Sees layout.lastKnownGood true := sees_iff.mpr (stat_eq_of_read hread)
      have hbefore := hdead.mono isEnd_directory
      have hspot := hplaced.spot.frame hsame hbefore
      exact Or.inr ⟨directory, name, hsame, hbefore, hspot.deadEnd_of_sees hsees⟩

/-- Making sure of the pointer leaves every path to an entry. -/
theorem Ensured.spot_iff {path : Path} {left : Nat} {contents : Bytes}
    (hensured : Ensured healthy layout tree ready)
    (hread : ready.read layout.lastKnownGood = .ok contents) :
    ready.Spot path left directory name ↔ tree.Spot path left directory name := by
  rcases hensured.sameBut hread with rfl | ⟨_, _, hsame, hbefore, hbehind⟩
  · exact Iff.rfl
  · exact ⟨fun hspot => hspot.frame hsame.symm hbehind, fun hspot => hspot.frame hsame hbefore⟩

theorem Ensured.leadsToDirectory {path : Path} {contents : Bytes}
    (hensured : Ensured healthy layout tree ready)
    (hread : ready.read layout.lastKnownGood = .ok contents)
    (hleads : ready.LeadsToDirectory path) : tree.LeadsToDirectory path := by
  rcases hensured.sameBut hread with rfl | ⟨_, _, hsame, -, hbehind⟩
  · exact hleads
  · exact hleads.frame hsame.symm hbehind

theorem Stalled.read_eq {path : Path} {contents : Bytes} (hstalled : Stalled layout tree after)
    (hread : tree.read path = .ok contents) : after.read path = .ok contents := by
  rcases hstalled with rfl | ⟨hsees, hremove⟩
  · exact hread
  obtain ⟨before, tip, hsteps⟩ := layout.steps_lastKnownGood
  obtain ⟨left, directory, entry, hspot, -, -, rfl⟩ := spot_of_remove hsteps hremove
  exact (sameBut_erase tree _ directory).read_eq (hspot.deadEnd_of_missing hsees) hread

end Fallback

end RevisionGuard
