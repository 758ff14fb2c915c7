import RevisionGuard.Proofs.Layout.Marker
import RevisionGuard.Proofs.Monitor.Ticks
import RevisionGuard.Proofs.Pointer.Placed
import Mathlib.Tactic.Common

/-!
# Reading through the pointer

The link holds the path of the manifest as the guard writes it, and a link is
followed from the directory that holds it, not from the working directory.  So
the pointer leads to the manifest exactly if its path, met in the directory of
the pointer, leads to a file with the same contents
(`Promotion.read_lastKnownGood_iff`).

* With an absolute path it does, up to the limit on links: the links on the way
  to the pointer, the pointer itself and the links on the way to the manifest are
  followed on one walk.
* With a relative path it does only if the same path leads to the same file from
  both directories.
-/

namespace RevisionGuard

open RevisionGuard.Tree

variable {tree after : Tree} {path : Path} {links left spare : Nat} {directory : Location}
  {name : EntryName} {contents : Bytes} {healthy : Bool} {layout : Layout} {revision : Revision}

/-- A path names a file itself, not a link, and the way there leaves so many links
to follow. -/
def Tree.HoldsFile (tree : Tree) (path : Path) (left : Nat) (contents : Bytes) : Prop :=
  ∃ directory name bits, tree.Spot path left directory name ∧
    tree.at? (name :: directory) = some (.file contents bits)

/-- A path that is met in a directory with so many links to follow leads to a file
with these contents. -/
def Tree.ReadsFrom (tree : Tree) (links : Nat) (directory : Location) (path : Path)
    (contents : Bytes) : Prop :=
  ∃ left ending bits, tree.Leads links (path.start directory) path.steps left ending ∧
    tree.at? ending = some (.file contents bits)

/-- Reading a link is reading its target from the directory of the link, with a
link less to follow. -/
theorem Tree.Spot.read_link_iff {target : Path} (hspot : tree.Spot path left directory name)
    (hlink : tree.at? (name :: directory) = some (.link target)) :
    tree.read path = .ok contents ↔
      ∃ rest, left = rest + 1 ∧ tree.ReadsFrom rest directory target contents := by
  rw [read_eq_ok_iff]
  simp only [hspot.check, true_and, Tree.leads_iff, hspot.walk_link hlink]
  constructor
  · rintro ⟨others, ending, bits, hwalk, hentry⟩
    cases left with
    | zero => cases hwalk
    | succ rest => exact ⟨rest, rfl, others, ending, bits, leads_iff.mpr hwalk, hentry⟩
  · rintro ⟨rest, rfl, others, ending, bits, hleads, hentry⟩
    exact ⟨others, ending, bits, hleads.walk_eq, hentry⟩

theorem Tree.HoldsFile.le (hfile : tree.HoldsFile path left contents) : left ≤ maxLinks := by
  obtain ⟨directory, name, bits, hspot, -⟩ := hfile
  obtain ⟨before, -, hway⟩ := hspot.way
  exact hway.le

/-- A path that leads to a file from the working directory leads there from
another directory that it starts at the same place from, as long as the links
suffice. -/
theorem Tree.HoldsFile.readsFrom_iff (hfile : tree.HoldsFile path spare contents)
    (hstart : path.start directory = path.start tree.workingDirectory) :
    tree.ReadsFrom links directory path contents ↔ maxLinks ≤ links + spare := by
  obtain ⟨place, name, bits, hspot, hentry⟩ := hfile
  have hleads := hspot.leads (by simp [hentry])
  unfold ReadsFrom
  rw [hstart]
  constructor
  · rintro ⟨others, ending, _, hother, -⟩
    by_contra hfew
    have hfault := hleads.walk_eq_tooManyLinks (Nat.lt_of_not_le hfew)
    rw [hother.walk_eq] at hfault
    cases hfault
  · intro hmore
    exact ⟨_, _, bits, hleads.with_links hmore, hentry⟩

/-- A file that a path names stays in its place when something else changes by
way of which no directory is reached. -/
theorem Tree.HoldsFile.frame {place : Location} {label : EntryName}
    (hfile : tree.HoldsFile path spare contents) (hsame : SameBut (label :: place) tree after)
    (hdead : tree.DeadEnd IsDirectory place label)
    (hapart : ∀ left directory name, tree.Spot path left directory name → name ≠ label) :
    after.HoldsFile path spare contents := by
  obtain ⟨directory, name, bits, hspot, hentry⟩ := hfile
  refine ⟨directory, name, bits, hspot.frame hsame hdead, ?_⟩
  rw [hsame.at?_eq _ fun heq => hapart _ _ _ hspot (List.cons.inj heq).1]
  exact hentry

namespace Promotion

/-- The ways to make the pointer: in either mode, and on the way to removing the
marker.  The flag says whether the marker is removed. -/
inductive MakesPointer (layout : Layout) (revision : Revision) : Bool → Sync Unit → Prop where
  | create (strict : Bool) :
      MakesPointer layout revision false (createLastKnownGood layout revision strict)
  | promote : MakesPointer layout revision true (promote layout revision)

/-- What a way to make the pointer leaves behind the link: nothing, or the removal
of the marker. -/
def Trails (layout : Layout) (marked : Bool) (tree after : Tree) : Prop :=
  if marked then Unmarked layout tree after else after = tree

theorem Trails.unmarked {marked : Bool} (htrails : Trails layout marked tree after) :
    Unmarked layout tree after := by
  cases marked with
  | false => exact Or.inl htrails
  | true => exact htrails

/-- Promoting makes the pointer and then takes the marker away. -/
theorem promoted_of_does (hdoes : Does healthy tree (promote layout revision).run (.ok ()) after) :
    ∃ left directory name linked, Placed layout revision tree linked left directory name ∧
      tree.DeadEnd IsDirectory directory name ∧
      (∃ removed, Sync.removal layout.selfMarker (linked.answer (.remove layout.selfMarker)).1 =
        .ok removed) ∧
      after = (linked.answer (.remove layout.selfMarker)).2 := by
  obtain ⟨_, linked, hcreate, hrest⟩ := Sync.does_bind_ok_iff.mp hdoes
  obtain ⟨left, directory, name, hplaced, hdead⟩ := created_of_does hcreate
  rw [Sync.removeIfExists_eq_answered, Sync.does_answered_bind_ok_iff] at hrest
  obtain ⟨removed, hremoval, hlog⟩ := hrest
  refine ⟨left, directory, name, linked, hplaced, hdead, ⟨removed, hremoval⟩, ?_⟩
  cases removed with
  | false => exact (Sync.does_pure_iff.mp hlog).2
  | true => exact (Sync.does_log_iff.mp hlog).2

/-- However the pointer is made, the link is made first, and at most the marker is
removed behind it. -/
theorem made_of_does {marked : Bool} {making : Sync Unit}
    (hmakes : MakesPointer layout revision marked making)
    (hdoes : Does healthy tree making.run (.ok ()) after) :
    ∃ left directory name linked, Placed layout revision tree linked left directory name ∧
      tree.DeadEnd IsDirectory directory name ∧
      Trails layout marked linked after := by
  cases hmakes with
  | create strict =>
      obtain ⟨left, directory, name, hplaced, hdead⟩ := created_of_does hdoes
      exact ⟨left, directory, name, after, hplaced, hdead, rfl⟩
  | promote =>
      obtain ⟨left, directory, name, linked, hplaced, hdead, -, rfl⟩ := promoted_of_does hdoes
      exact ⟨left, directory, name, linked, hplaced, hdead, unmarked_answer layout linked⟩

/-- The removal of a marker that led to no directory leaves the manifests. -/
theorem holdsFile_of_unmarked (hunmarked : Unmarked layout tree after)
    (hmarker : ¬ tree.LeadsToDirectory layout.selfMarker)
    (hfile : tree.HoldsFile (layout.revisionedManifest revision) spare contents) :
    after.HoldsFile (layout.revisionedManifest revision) spare contents := by
  obtain ⟨directory, name, bits, hspot, hentry⟩ := hfile
  obtain ⟨_, tip, hsteps⟩ := layout.steps_revisionedManifest revision
  refine ⟨directory, name, bits, hunmarked.spot hmarker hspot, ?_⟩
  rw [hunmarked.at?_eq fun other => ?_]
  · exact hentry
  · rw [hspot.name_eq hsteps]
    exact Layout.manifestEnd_ne_markerEnd tip other

namespace Placed

variable {linked : Tree}

theorem at?_pointer (hplaced : Placed layout revision tree linked left directory name) :
    linked.at? (name :: directory) = some (.link (layout.revisionedManifest revision)) := by
  rw [hplaced.after_eq, at?_set_self]

theorem spot_pointer (hplaced : Placed layout revision tree linked left directory name)
    (hdead : tree.DeadEnd IsDirectory directory name) :
    linked.Spot layout.lastKnownGood left directory name := by
  rw [hplaced.after_eq]
  exact hplaced.spot.frame (sameBut_set tree name directory _) hdead

theorem holdsFile (hplaced : Placed layout revision tree linked left directory name)
    (hdead : tree.DeadEnd IsDirectory directory name)
    (hfile : tree.HoldsFile (layout.revisionedManifest revision) spare contents) :
    linked.HoldsFile (layout.revisionedManifest revision) spare contents := by
  rw [hplaced.after_eq]
  refine hfile.frame (sameBut_set tree name directory _) hdead ?_
  intro others elsewhere label hmanifest hname
  obtain ⟨_, tip, hmanifestSteps⟩ := layout.steps_revisionedManifest revision
  obtain ⟨_, other, hpointerSteps⟩ := layout.steps_lastKnownGood
  rw [hmanifest.name_eq hmanifestSteps, hplaced.spot.name_eq hpointerSteps] at hname
  exact Layout.pointerEnd_ne_manifestEnd other tip hname.symm

end Placed

/-- The pointer is made, and everything else is as before but for the marker.
Reading the pointer then gives the contents of the manifest exactly if the path of
the manifest leads to them from the directory of the pointer.  For an absolute path
this is a matter of the number of links alone, unless the marker that is removed
led to a directory. -/
theorem read_lastKnownGood_iff {marked : Bool} {making : Sync Unit}
    (hmakes : MakesPointer layout revision marked making)
    (hfile : tree.HoldsFile (layout.revisionedManifest revision) spare contents)
    (hdoes : Does healthy tree making.run (.ok ()) after) :
    ∃ left directory name linked, Placed layout revision tree linked left directory name ∧
      Trails layout marked linked after ∧
      (after.read layout.lastKnownGood = .ok contents ↔
        after.Spot layout.lastKnownGood left directory name ∧ ∃ rest, left = rest + 1 ∧
          after.ReadsFrom rest directory (layout.revisionedManifest revision) contents) ∧
      ((marked = true → ¬ linked.LeadsToDirectory layout.selfMarker) →
        after.Spot layout.lastKnownGood left directory name ∧
          ((layout.revisionedManifest revision).isAbsolute = true →
            (after.read layout.lastKnownGood = .ok contents ↔ maxLinks < left + spare))) := by
  obtain ⟨left, directory, name, linked, hplaced, hdead, htrails⟩ := made_of_does hmakes hdoes
  have hspot := hplaced.spot_pointer hdead
  obtain ⟨before, tip, hsteps⟩ := layout.steps_lastKnownGood
  have hname : ∀ other, name ≠ other ++ Layout.markerEnd := by
    rw [hspot.name_eq hsteps]
    exact Layout.pointerEnd_ne_markerEnd tip
  have hlink := (htrails.unmarked.at?_eq hname).trans hplaced.at?_pointer
  refine ⟨left, directory, name, linked, hplaced, htrails, ⟨fun hread => ?_, ?_⟩, fun hmarker => ?_⟩
  · obtain ⟨hcheck, others, ending, bits, hleads, -⟩ := read_eq_ok_iff.mp hread
    obtain ⟨rest, elsewhere, hafter, -⟩ := spot_of_leads hcheck hsteps hleads
    obtain ⟨rfl, rfl, rfl⟩ := hspot.unique (htrails.unmarked.spot_of_spot hafter)
    exact ⟨hafter, (hafter.read_link_iff hlink).mp hread⟩
  · rintro ⟨hafter, hreads⟩
    exact (hafter.read_link_iff hlink).mpr hreads
  · have hkept : after.Spot layout.lastKnownGood left directory name ∧
        after.HoldsFile (layout.revisionedManifest revision) spare contents := by
      have hheld := hplaced.holdsFile hdead hfile
      -- only promoting goes on behind the link
      cases marked with
      | false =>
          obtain rfl : after = linked := htrails
          exact ⟨hspot, hheld⟩
      | true =>
          have hunmarked := htrails.unmarked
          exact ⟨hunmarked.spot (hmarker rfl) hspot,
            holdsFile_of_unmarked hunmarked (hmarker rfl) hheld⟩
    obtain ⟨hafter, hheld⟩ := hkept
    refine ⟨hafter, fun habsolute => ?_⟩
    have hstart : (layout.revisionedManifest revision).start directory =
        (layout.revisionedManifest revision).start after.workingDirectory := by
      simp only [Path.start, habsolute, if_true]
    rw [hafter.read_link_iff hlink]
    constructor
    · rintro ⟨rest, rfl, hreads⟩
      have hmore := (hheld.readsFrom_iff hstart).mp hreads
      omega
    · intro hmore
      have hspare := hheld.le
      exact ⟨left - 1, by omega, (hheld.readsFrom_iff hstart).mpr (by omega)⟩

end Promotion

namespace Rehearsed

/-- The text of an archived manifest. -/
def archived : Bytes := Utf8.ofText "pod"

/-- An archive with one revision, below the root, where relative paths start. -/
def archive : Tree :=
  ⟨[(["resources".toList], .directory),
    (["kube-pod-8".toList, "resources".toList], .directory),
    (["kube-pod.yaml".toList, "kube-pod-8".toList, "resources".toList], .file archived 0o644)], []⟩

/-- The layout of the archive with absolute directories. -/
def absoluteLayout : Layout := ⟨"kube", ⟨"/manifests"⟩, ⟨"/resources"⟩⟩

/-- A path to an entry of a tree without links. -/
private theorem spot_of_walk {tree : Tree} {path : Path} {before : List WalkStep}
    {directory : Location} {name : EntryName} (hcheck : path.check = .ok ())
    (hsteps : path.steps = before ++ [.into name])
    (hwalk : tree.walk false maxLinks (path.start tree.workingDirectory) before =
      .ok (maxLinks, directory))
    (hinside : tree.at? directory = some .directory) (hshort : isTooLong name = false) :
    tree.Spot path maxLinks directory name :=
  ⟨hcheck, ⟨before, hsteps, leads_iff.mpr hwalk⟩, hinside, hshort⟩

end Rehearsed

/-- With absolute directories the pointer leads to the manifest; with the same
directories written relatively it is made as well, and leads nowhere. -/
theorem Promotion.read_lastKnownGood_iff_rehearsed :
    (∃ after, Does false Rehearsed.archive
        (createLastKnownGood Rehearsed.absoluteLayout 8 true).run (.ok ()) after ∧
      after.read Rehearsed.absoluteLayout.lastKnownGood = .ok Rehearsed.archived) ∧
    ∃ after, Does false Rehearsed.archive
        (createLastKnownGood Rehearsed.layout 8 true).run (.ok ()) after ∧
      after.read Rehearsed.layout.lastKnownGood = .error .noSuchEntry := by
  have hmade (layout : Layout)
      (hok : ((createLastKnownGood layout 8 true).run.run (host false "") Rehearsed.archive).1 =
        .ok ()) :
      Does false Rehearsed.archive (createLastKnownGood layout 8 true).run (.ok ())
        ((createLastKnownGood layout 8 true).run.run (host false "") Rehearsed.archive).2 := by
    rw [← hok]
    exact does_run false "" Rehearsed.archive _
  have hmanifest : Rehearsed.archive.Spot (Rehearsed.absoluteLayout.revisionedManifest 8) maxLinks
      ["kube-pod-8".toList, "resources".toList] "kube-pod.yaml".toList :=
    Rehearsed.spot_of_walk (by decide +kernel)
      (show _ = [.into "resources".toList, .into "kube-pod-8".toList] ++ _ by decide +kernel)
      (by decide +kernel) (by decide +kernel) (by decide +kernel)
  have hfile : Rehearsed.archive.HoldsFile (Rehearsed.absoluteLayout.revisionedManifest 8) maxLinks
      Rehearsed.archived := ⟨_, _, 0o644, hmanifest, by decide +kernel⟩
  have hpointer : Rehearsed.archive.Spot Rehearsed.absoluteLayout.lastKnownGood maxLinks
      ["resources".toList] "kube-last-known-good".toList :=
    Rehearsed.spot_of_walk (by decide +kernel)
      (show _ = [.into "resources".toList] ++ _ by decide +kernel)
      (by decide +kernel) (by decide +kernel) (by decide +kernel)
  refine ⟨⟨_, hmade _ (by decide +kernel), ?_⟩, ⟨_, hmade _ (by decide +kernel), by decide +kernel⟩⟩
  obtain ⟨left, directory, name, linked, hplaced, -, -, hreads⟩ :=
    read_lastKnownGood_iff (.create true) hfile
      (hmade Rehearsed.absoluteLayout (by decide +kernel))
  obtain ⟨rfl, -, -⟩ := hpointer.unique hplaced.spot
  obtain ⟨-, hiff⟩ := hreads nofun
  exact (hiff (Layout.isAbsolute_revisionedManifest _ _ (by decide +kernel))).mpr (by decide)

end RevisionGuard
