import RevisionGuard.Proofs.Files.Place
import RevisionGuard.Proofs.Layout.Marker
import Mathlib.Tactic.Common

/-!
# The places of the files of a target

A guard changes three entries: the active manifest, the last known good pointer and the
marker.  They have different names, so they are three different places.  A layout is
`Layout.Untangled` in a tree if the ways to its files come by none of the three; then
their paths name the same places whatever becomes of the entries.
-/

namespace RevisionGuard

open RevisionGuard.Tree

variable {layout : Layout} {tree other after : Tree} {path : Path} {place location : Location}
  {left others : Nat} {directory elsewhere : Location} {name label : EntryName}

namespace Layout

/-- The paths of the entries that a guard changes. -/
def changing (layout : Layout) : List Path :=
  [layout.activeManifest, layout.lastKnownGood, layout.selfMarker]

/-- The places of these entries. -/
def places (layout : Layout) (tree : Tree) : List Location := layout.changing.filterMap tree.place?

/-- The directories of a layout do not lead through any of these entries: without them
the paths name the same places. -/
def Untangled (layout : Layout) (tree : Tree) : Prop :=
  ∀ path ∈ layout.changing, (tree.without (layout.places tree)).place? path = tree.place? path

instance (layout : Layout) (tree : Tree) : Decidable (layout.Untangled tree) :=
  inferInstanceAs (Decidable (∀ path ∈ layout.changing, _ = _))

theorem steps_of_changing (hpath : path ∈ layout.changing) :
    ∃ before name, path.steps = before ++ [.into name] := by
  simp only [changing, List.mem_cons, List.not_mem_nil, or_false] at hpath
  rcases hpath with rfl | rfl | rfl
  · obtain ⟨before, tip, hsteps, -⟩ := layout.steps_manifests
    exact ⟨before, _, hsteps⟩
  · obtain ⟨before, tip, hsteps⟩ := layout.steps_lastKnownGood
    exact ⟨before, _, hsteps⟩
  · obtain ⟨before, tip, -, hsteps⟩ := layout.steps_manifests
    exact ⟨before, _, hsteps⟩

theorem mem_places (hpath : path ∈ layout.changing) (hspot : tree.Spot path left directory name) :
    name :: directory ∈ layout.places tree :=
  List.mem_filterMap.mpr ⟨path, hpath, hspot.place?_eq⟩

/-- In an untangled layout a path names its place whatever becomes of the entries. -/
theorem Untangled.place?_eq (huntangled : layout.Untangled tree)
    (hsame : SameBesides (layout.places tree) tree other) (hpath : path ∈ layout.changing)
    (hspot : tree.Spot path left directory name) :
    other.place? path = some (name :: directory) := by
  obtain ⟨before, label, hsteps⟩ := steps_of_changing hpath
  exact hsame.place?_eq hsteps ((huntangled path hpath).trans hspot.place?_eq)

theorem Untangled.held?_eq (huntangled : layout.Untangled tree)
    (hsame : SameBesides (layout.places tree) tree other) (hpath : path ∈ layout.changing)
    (hspot : tree.Spot path left directory name) :
    other.held? path = other.at? (name :: directory) :=
  held?_eq_of_place? (huntangled.place?_eq hsame hpath hspot)

/-- The paths of the entries that a promotion changes. -/
def promoting (layout : Layout) : List Path := [layout.lastKnownGood, layout.selfMarker]

/-- The places of these entries. -/
def promotionPlaces (layout : Layout) (tree : Tree) : List Location :=
  layout.promoting.filterMap tree.place?

/-- The directories of a layout lead neither through the pointer nor through the marker:
whatever becomes of the two entries, their paths name the same places. -/
def StandsClear (layout : Layout) (tree : Tree) : Prop :=
  ∀ path ∈ layout.promoting, tree.Regardless (layout.promotionPlaces tree) fun other =>
    other.place? path

theorem lastKnownGood_mem_promoting : layout.lastKnownGood ∈ layout.promoting :=
  List.mem_cons_self

theorem selfMarker_mem_promoting : layout.selfMarker ∈ layout.promoting := by
  simp [promoting]

theorem promoting_subset_changing : layout.promoting ⊆ layout.changing := by
  simp [promoting, changing]

theorem mem_promotionPlaces (hpath : path ∈ layout.promoting)
    (hspot : tree.Spot path left directory name) :
    name :: directory ∈ layout.promotionPlaces tree :=
  List.mem_filterMap.mpr ⟨path, hpath, hspot.place?_eq⟩

/-- It is enough that the paths name places without the entries. -/
theorem standsClear_of_without
    (hplaces : ∀ path ∈ layout.promoting,
      ((tree.without (layout.promotionPlaces tree)).place? path).isSome = true) :
    layout.StandsClear tree := by
  intro path hpath other hsame
  obtain ⟨place, hplace⟩ := Option.isSome_iff_exists.mp (hplaces path hpath)
  obtain ⟨before, label, hsteps⟩ := steps_of_changing (promoting_subset_changing hpath)
  exact (hsame.place?_eq hsteps hplace).trans
    ((SameBesides.refl _ tree).place?_eq hsteps hplace).symm

/-! ## Different places -/

theorem active_ne_marker (hactive : tree.Spot layout.activeManifest left directory name)
    (hmarker : other.Spot layout.selfMarker others elsewhere label) :
    name :: directory ≠ label :: elsewhere := by
  obtain ⟨_, tip, hsteps, hmarkerSteps⟩ := layout.steps_manifests
  rw [hactive.name_eq hsteps, hmarker.name_eq hmarkerSteps]
  exact fun heq => manifestEnd_ne_markerEnd tip tip (List.cons.inj heq).1

theorem pointer_ne_active (hpointer : tree.Spot layout.lastKnownGood left directory name)
    (hactive : other.Spot layout.activeManifest others elsewhere label) :
    name :: directory ≠ label :: elsewhere := by
  obtain ⟨_, tip, hsteps⟩ := layout.steps_lastKnownGood
  obtain ⟨_, place, hactiveSteps, -⟩ := layout.steps_manifests
  rw [hpointer.name_eq hsteps, hactive.name_eq hactiveSteps]
  exact fun heq => pointerEnd_ne_manifestEnd tip place (List.cons.inj heq).1

theorem pointer_ne_marker (hpointer : tree.Spot layout.lastKnownGood left directory name)
    (hmarker : other.Spot layout.selfMarker others elsewhere label) :
    name :: directory ≠ label :: elsewhere := by
  obtain ⟨_, tip, hsteps⟩ := layout.steps_lastKnownGood
  obtain ⟨_, place, -, hmarkerSteps⟩ := layout.steps_manifests
  rw [hpointer.name_eq hsteps, hmarker.name_eq hmarkerSteps]
  exact fun heq => pointerEnd_ne_markerEnd tip place (List.cons.inj heq).1

end Layout

/-! ## The place of the marker -/

/-- The removal of the marker changes its place only. -/
theorem Unmarked.sameBesides (hunmarked : Unmarked layout tree after) :
    SameBesides ([layout.selfMarker].filterMap tree.place?) tree after := by
  rcases hunmarked with rfl | ⟨left, directory, name, entry, hspot, -, -, rfl⟩
  · exact .refl _ _
  · refine (sameBut_erase tree name directory).sameBesides ?_
    exact List.mem_filterMap.mpr ⟨_, List.mem_singleton_self _, hspot.place?_eq⟩

theorem Unmarked.sameBut (hunmarked : Unmarked layout tree after)
    (hmarker : tree.Spot layout.selfMarker left directory label) :
    SameBut (label :: directory) tree after := by
  rcases hunmarked with rfl | ⟨_, _, _, entry, hspot, -, -, rfl⟩
  · exact ⟨fun _ _ => rfl, rfl⟩
  · obtain ⟨-, rfl, rfl⟩ := hmarker.unique hspot
    exact sameBut_erase tree _ _

/-- A removal of the marker that does not fail leaves nothing at its path. -/
theorem held?_selfMarker_of_removal {removed : Bool}
    (hremoval : Sync.removal layout.selfMarker (tree.answer (.remove layout.selfMarker)).1 =
      .ok removed) :
    (tree.answer (.remove layout.selfMarker)).2.held? layout.selfMarker = none := by
  obtain ⟨before, tip, -, hsteps⟩ := layout.steps_manifests
  refine held?_remove hsteps fun fault hfault => ?_
  simp only [answer, hfault, settle, Sync.removal] at hremoval
  split at hremoval
  · assumption
  · cases hremoval

/-- The marker is in the directory of the active manifest in every tree that has the
one, if it is there in some tree. -/
theorem Tree.Spot.marker (hactive : tree.Spot layout.activeManifest left directory name)
    (hmarker : other.Spot layout.selfMarker others elsewhere label) :
    tree.Spot layout.selfMarker left directory label := by
  obtain ⟨before, tip, hsteps, hmarkerSteps⟩ := layout.steps_manifests
  obtain ⟨front, hfront, hway⟩ := hactive.way
  obtain ⟨rfl, -⟩ := List.append_inj' (hfront.symm.trans hsteps) rfl
  obtain rfl := hmarker.name_eq hmarkerSteps
  rw [← layout.start_selfMarker] at hway
  exact ⟨hmarker.check, ⟨front, hmarkerSteps, hway⟩, hactive.inside, hmarker.short⟩

end RevisionGuard
