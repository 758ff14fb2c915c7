import RevisionGuard.Proofs.Layout.Steps
import RevisionGuard.Proofs.Text.Numeral
import Mathlib.Tactic.Common

/-!
# The files of different targets

The last component of every path of a target is the name of the target and an ending of its
kind (`Layout.Role.ending`), so a path shows its target and its kind, whatever the
directories are.  No ending ends in another, so it is known where the name of the target
stops, even if that ends like a file name itself (`Layout.target_of_name`).  A revisioned
manifest also shows its revision, one component earlier: the prefix of a target is as long
as the target says, and what is left is the numeral of the revision.

Two paths are the same only if all of this agrees and the directories do; these are
equivalences, so nothing else keeps them apart (`Layout.same_file_iff`,
`Layout.same_revisionedManifest_iff`, `Layout.same_revisionedManifest_file_iff`).
-/

namespace RevisionGuard

theorem Path.same_iff {path other : Path} :
    path.same other = true ↔ path.components = other.components :=
  decide_eq_true_iff

/-- The paths of two names in directories are the same if names and directories are. -/
theorem Path.same_join_entry_iff {directory other : Path} {name label : String}
    (hslash : '/' ∉ name.toList) (hdash : '-' ∈ name.toList) (hother : '/' ∉ label.toList)
    (hlabel : '-' ∈ label.toList) :
    (directory.join ⟨name⟩).same (other.join ⟨label⟩) = true ↔
      directory.same other = true ∧ name = label := by
  rw [same_iff, same_iff, components_join_entry directory hslash hdash,
    components_join_entry other hother hlabel]
  constructor
  · intro hsame
    obtain ⟨hdirectories, hnames⟩ := List.append_inj' hsame rfl
    exact ⟨hdirectories, String.toList_inj.mp (Component.entry.inj (List.cons.inj hnames).1)⟩
  · rintro ⟨hdirectories, rfl⟩
    rw [hdirectories]

theorem Revision.text_injective {revision other : Revision}
    (htext : revision.text = other.text) : revision = other := by
  have hread := Numeral.parse_text revision
  rw [htext, Numeral.parse_text other] at hread
  exact (Except.ok.inj hread).symm

namespace Layout

/-- The files of a target that its guard changes. -/
inductive Role where
  | active
  | marker
  | pointer
  deriving DecidableEq, Repr

/-- How the names of files of a kind end. -/
def Role.ending : Role → String
  | .active => "-pod.yaml"
  | .marker => "-startup-monitor.yaml"
  | .pointer => "-last-known-good"

/-- The directory of the files of a kind. -/
def home (layout : Layout) : Role → Path
  | .active | .marker => layout.manifestsDir
  | .pointer => layout.resourcesDir

def file (layout : Layout) : Role → Path
  | .active => layout.activeManifest
  | .marker => layout.selfMarker
  | .pointer => layout.lastKnownGood

variable {layout rival : Layout} {role kind : Role} {revision other : Revision}

theorem file_eq_join (layout : Layout) (role : Role) :
    layout.file role = (layout.home role).join ⟨layout.target ++ role.ending⟩ := by
  cases role <;> rfl

/-- No ending ends in another. -/
theorem ending_inj {letters others : List Char}
    (hnames : letters ++ role.ending.toList = others ++ kind.ending.toList) : role = kind := by
  cases role with
  | active =>
      cases kind with
      | active => rfl
      | marker => exact absurd hnames (manifestEnd_ne_markerEnd letters others)
      | pointer => exact absurd hnames.symm (pointerEnd_ne_manifestEnd others letters)
  | marker =>
      cases kind with
      | active => exact absurd hnames.symm (manifestEnd_ne_markerEnd others letters)
      | marker => rfl
      | pointer => exact absurd hnames.symm (pointerEnd_ne_markerEnd others letters)
  | pointer =>
      cases kind with
      | active => exact absurd hnames (pointerEnd_ne_manifestEnd letters others)
      | marker => exact absurd hnames (pointerEnd_ne_markerEnd letters others)
      | pointer => rfl

/-- A name with an ending shows what is in front of the ending. -/
theorem target_of_name {target name : String}
    (hnames : target ++ role.ending = name ++ kind.ending) : role = kind ∧ target = name := by
  have hletters : target.toList ++ role.ending.toList = name.toList ++ kind.ending.toList := by
    rw [← String.toList_append, ← String.toList_append, hnames]
  obtain rfl := ending_inj hletters
  exact ⟨rfl, String.toList_inj.mp (List.append_cancel_right hletters)⟩

theorem slash_notMem_name (htarget : '/' ∉ layout.target.toList) (role : Role) :
    '/' ∉ (layout.target ++ role.ending).toList := by
  rw [String.toList_append, List.mem_append, not_or]
  exact ⟨htarget, by cases role <;> decide⟩

theorem dash_mem_name (target : String) (role : Role) : '-' ∈ (target ++ role.ending).toList := by
  rw [String.toList_append]
  exact List.mem_append_right _ (by cases role <;> decide)

theorem slash_notMem_revisionDirName (htarget : '/' ∉ layout.target.toList) (revision : Revision) :
    '/' ∉ (layout.revisionDirName revision).toList := by
  have hnumeral : '/' ∉ revision.text.toList := by
    intro hmem
    exact absurd (Numeral.isDigit_of_mem_text hmem) (by decide)
  have hprefix : '/' ∉ "-pod-".toList := by decide
  simp only [revisionDirName, revisionDirPrefix, String.toList_append, List.mem_append, not_or]
  exact ⟨⟨htarget, hprefix⟩, hnumeral⟩

theorem dash_mem_revisionDirName (layout : Layout) (revision : Revision) :
    '-' ∈ (layout.revisionDirName revision).toList := by
  have hprefix : '-' ∈ "-pod-".toList := by decide
  simp only [revisionDirName, revisionDirPrefix, String.toList_append, List.mem_append]
  exact Or.inl (Or.inr hprefix)

/-- Two targets have the same file only if they are one, and it is of one kind. -/
theorem same_file_iff (htarget : '/' ∉ layout.target.toList) (hrival : '/' ∉ rival.target.toList) :
    (layout.file role).same (rival.file kind) = true ↔
      role = kind ∧ layout.target = rival.target ∧
        (layout.home role).same (rival.home kind) = true := by
  rw [file_eq_join, file_eq_join, Path.same_join_entry_iff (slash_notMem_name htarget role)
    (dash_mem_name _ _) (slash_notMem_name hrival kind) (dash_mem_name _ _)]
  constructor
  · rintro ⟨hhome, hname⟩
    obtain ⟨hrole, htargets⟩ := target_of_name hname
    exact ⟨hrole, htargets, hhome⟩
  · rintro ⟨rfl, htargets, hhome⟩
    exact ⟨hhome, by rw [htargets]⟩

/-- The directory of a revisioned manifest shows the revision of a target. -/
theorem revision_of_revisionDirName (htarget : layout.target = rival.target)
    (hname : layout.revisionDirName revision = rival.revisionDirName other) : revision = other := by
  have hletters := congrArg String.toList hname
  simp only [revisionDirName, revisionDirPrefix, htarget, String.toList_append] at hletters
  exact Revision.text_injective (String.toList_inj.mp (List.append_cancel_left hletters))

theorem revisionedManifest_eq_join (layout : Layout) (revision : Revision) :
    layout.revisionedManifest revision =
      (layout.resourcesDir.join ⟨layout.revisionDirName revision⟩).join
        ⟨layout.target ++ Role.active.ending⟩ := rfl

theorem same_revisionedManifest_iff (htarget : '/' ∉ layout.target.toList)
    (hrival : '/' ∉ rival.target.toList) :
    (layout.revisionedManifest revision).same (rival.revisionedManifest other) = true ↔
      layout.target = rival.target ∧ revision = other ∧
        layout.resourcesDir.same rival.resourcesDir = true := by
  rw [revisionedManifest_eq_join, revisionedManifest_eq_join,
    Path.same_join_entry_iff (slash_notMem_name htarget .active) (dash_mem_name _ _)
      (slash_notMem_name hrival .active) (dash_mem_name _ _),
    Path.same_join_entry_iff (slash_notMem_revisionDirName htarget revision)
      (dash_mem_revisionDirName layout revision) (slash_notMem_revisionDirName hrival other)
      (dash_mem_revisionDirName rival other)]
  constructor
  · rintro ⟨⟨hresources, hdirectory⟩, hname⟩
    obtain ⟨-, htargets⟩ := target_of_name hname
    exact ⟨htargets, revision_of_revisionDirName htargets hdirectory, hresources⟩
  · rintro ⟨htargets, rfl, hresources⟩
    refine ⟨⟨hresources, ?_⟩, by rw [htargets]⟩
    rw [revisionDirName, revisionDirName, revisionDirPrefix, revisionDirPrefix, htargets]

theorem revision_of_revisionedManifest (htarget : '/' ∉ layout.target.toList)
    (hmanifest : layout.revisionedManifest revision = layout.revisionedManifest other) :
    revision = other :=
  ((same_revisionedManifest_iff htarget htarget).mp
    (Path.same_iff.mpr (congrArg Path.components hmanifest))).2.1

/-- A revisioned manifest is a file that a guard changes only if it is the active manifest
of its own target, in the directory of the revision. -/
theorem same_revisionedManifest_file_iff (htarget : '/' ∉ layout.target.toList)
    (hrival : '/' ∉ rival.target.toList) :
    (layout.revisionedManifest revision).same (rival.file kind) = true ↔
      kind = .active ∧ layout.target = rival.target ∧
        (layout.resourcesDir.join ⟨layout.revisionDirName revision⟩).same rival.manifestsDir =
          true := by
  rw [revisionedManifest_eq_join, file_eq_join,
    Path.same_join_entry_iff (slash_notMem_name htarget .active) (dash_mem_name _ _)
      (slash_notMem_name hrival kind) (dash_mem_name _ _)]
  constructor
  · rintro ⟨hdirectory, hname⟩
    obtain ⟨rfl, htargets⟩ := target_of_name hname
    exact ⟨rfl, htargets, hdirectory⟩
  · rintro ⟨rfl, htargets, hdirectory⟩
    exact ⟨hdirectory, by rw [htargets]⟩

end Layout

end RevisionGuard
