import RevisionGuard.Proofs.Files.Spot
import Mathlib.Tactic.Common

/-!
# The entry that a path names

`Tree.place?` computes the place that a path names, the last name not followed, and
`Tree.held?` what is there.  The place stays the same when other entries change, as
long as the way to its directory comes by none of them: then the path names the place
in the tree without them as well (`SameBesides.place?_eq`).
-/

namespace RevisionGuard

namespace Tree

variable {tree other third : Tree} {path : Path} {links left : Nat}
  {here directory ending : Location}
  {name : EntryName} {entry : Entry} {before steps : List WalkStep} {places more : List Location}
  {place location : Location}

/-- The place that a path names; a link at its end is not followed. -/
def place? (tree : Tree) (path : Path) : Option Location :=
  match path.check, tree.resolveParent path with
  | .ok (), .ok (directory, some (name, _)) => some (name :: directory)
  | _, _ => none

/-- The entry that a path names. -/
def held? (tree : Tree) (path : Path) : Option Entry := (tree.place? path).bind tree.at?

/-- The tree without the entries of some places. -/
def without (tree : Tree) (places : List Location) : Tree :=
  { tree with entries := tree.entries.filter fun entry => entry.1 ∉ places }

/-- Two trees hold the same but for some places. -/
structure SameBesides (places : List Location) (tree other : Tree) : Prop where
  at?_eq : ∀ location, location ∉ places → other.at? location = tree.at? location
  workingDirectory_eq : other.workingDirectory = tree.workingDirectory

/-- What is seen of a tree does not depend on what is at some places. -/
def Regardless {γ : Type} (places : List Location) (seen : Tree → γ) (tree : Tree) : Prop :=
  ∀ other, SameBesides places tree other → seen other = seen tree

/-! ## Places and spots -/

theorem Spot.place?_eq (hspot : tree.Spot path left directory name) :
    tree.place? path = some (name :: directory) := by
  simp only [place?, hspot.check, hspot.resolveParent_eq]

theorem spot_of_place? (hsteps : path.steps = before ++ [.into name])
    (hplace : tree.place? path = some place) :
    ∃ left directory, place = name :: directory ∧ tree.Spot path left directory name := by
  unfold place? at hplace
  split at hplace
  · next hcheck hparent =>
      obtain ⟨left, _, hspot, hfound⟩ := spot_of_resolveParent hcheck hsteps hparent
      cases hfound
      exact ⟨left, _, (Option.some.inj hplace).symm, hspot⟩
  · cases hplace

theorem held?_eq_of_place? (hplace : tree.place? path = some place) :
    tree.held? path = tree.at? place := by
  rw [held?, hplace, Option.bind_some]

theorem held?_eq_none_of_place? (hplace : ∀ place, tree.place? path = some place →
    tree.at? place = none) : tree.held? path = none := by
  cases hfound : tree.place? path with
  | none => rw [held?, hfound, Option.bind_none]
  | some place => rw [held?_eq_of_place? hfound, hplace place hfound]

/-! ## Trees that differ at some places -/

namespace SameBesides

theorem refl (places : List Location) (tree : Tree) : SameBesides places tree tree :=
  ⟨fun _ _ => rfl, rfl⟩

theorem trans (hfirst : SameBesides places tree other) (hsecond : SameBesides places other third) :
    SameBesides places tree third :=
  ⟨fun location hlocation =>
      (hsecond.at?_eq location hlocation).trans (hfirst.at?_eq location hlocation),
    hsecond.workingDirectory_eq.trans hfirst.workingDirectory_eq⟩

theorem symm (hsame : SameBesides places tree other) : SameBesides places other tree :=
  ⟨fun location hlocation => (hsame.at?_eq location hlocation).symm,
    hsame.workingDirectory_eq.symm⟩

theorem mono (hsame : SameBesides places tree other) (hmore : places ⊆ more) :
    SameBesides more tree other :=
  ⟨fun location hlocation => hsame.at?_eq location fun hmem => hlocation (hmore hmem),
    hsame.workingDirectory_eq⟩

end SameBesides

theorem SameBut.sameBesides (hsame : SameBut place tree other) (hmem : place ∈ places) :
    SameBesides places tree other :=
  ⟨fun location hlocation => hsame.at?_eq location fun heq => hlocation (heq ▸ hmem),
    hsame.workingDirectory_eq⟩

/-! ## Ways that come by none of the places -/

private theorem lookup_filter_notMem (places : List Location) (location : Location)
    (entries : List (Location × Entry)) :
    (entries.filter fun entry => entry.1 ∉ places).lookup location =
      if location ∈ places then none else entries.lookup location := by
  induction entries with
  | nil => simp
  | cons held rest ih =>
      obtain ⟨key, value⟩ := held
      by_cases hsame : location = key
      · subst hsame
        by_cases hmem : location ∈ places
        · rw [List.filter_cons_of_neg (by simpa using hmem), ih, if_pos hmem, if_pos hmem]
        · rw [List.filter_cons_of_pos (by simpa using hmem), if_neg hmem, List.lookup_cons_self,
            List.lookup_cons_self]
      · have hapart : (location == key) = false := by simpa using hsame
        by_cases hmem : key ∈ places
        · rw [List.filter_cons_of_neg (by simpa using hmem), ih, List.lookup_cons, hapart]
        · rw [List.filter_cons_of_pos (by simpa using hmem), List.lookup_cons, hapart, ih,
            List.lookup_cons, hapart]

/-- What is left without the entries of some places is in every tree that differs at
these only. -/
theorem SameBesides.at?_of_without (hsame : SameBesides places tree other)
    (hentry : (tree.without places).at? location = some entry) :
    other.at? location = some entry := by
  cases location with
  | nil => exact hentry
  | cons name parent =>
      have hlookup := (lookup_filter_notMem places (name :: parent) tree.entries).symm.trans hentry
      split at hlookup
      · cases hlookup
      · next hmem => exact (hsame.at?_eq _ hmem).trans hlookup

private theorem Leads.exists_of_start (hleads : tree.Leads links here steps left ending)
    (hentry : tree.at? ending = some entry) : ∃ first, tree.at? here = some first := by
  cases steps with
  | nil =>
      obtain ⟨-, rfl⟩ := Leads.nil_iff.mp hleads
      exact ⟨entry, hentry⟩
  | cons step rest => exact ⟨.directory, hleads.at?_of_cons⟩

/-- A walk that comes to something by none of the places goes the same way whatever is
in them. -/
theorem SameBesides.leads (hsame : SameBesides places tree other)
    (hleads : (tree.without places).Leads links here steps left ending)
    (hentry : (tree.without places).at? ending = some entry) :
    other.Leads links here steps left ending := by
  have hkept : ∀ {location found}, (tree.without places).at? location = some found →
      other.at? location = some found := hsame.at?_of_without
  induction hleads with
  | nil links here => exact .nil _ _
  | around hhere hstep _ ih => exact .around (hkept hhere) hstep (ih hentry)
  | @into links left here ending name rest hhere hshort hnolink hrest ih =>
      obtain ⟨first, hfirst⟩ := hrest.exists_of_start hentry
      refine .into (hkept hhere) hshort (fun target htarget => ?_) (ih hentry)
      rw [hkept hfirst] at htarget
      exact hnolink target (hfirst.trans htarget)
  | follow hhere hshort hlink _ ih => exact .follow (hkept hhere) hshort (hkept hlink) (ih hentry)

/-- A path that names a place by a way that comes by none of the entries that change
names it still. -/
theorem SameBesides.place?_eq (hsame : SameBesides places tree other)
    (hsteps : path.steps = before ++ [.into name])
    (hplace : (tree.without places).place? path = some place) : other.place? path = some place := by
  obtain ⟨left, directory, rfl, hspot⟩ := spot_of_place? hsteps hplace
  obtain ⟨front, hfront, hway⟩ := hspot.way
  have hkept : other.Spot path left directory name := by
    refine ⟨hspot.check, ⟨front, hfront, ?_⟩, hsame.at?_of_without hspot.inside, hspot.short⟩
    rw [hsame.workingDirectory_eq]
    exact hsame.leads hway hspot.inside
  exact hkept.place?_eq

/-! ## Removing -/

/-- What has been removed, or was missing, is at the path no more. -/
theorem held?_remove (hsteps : path.steps = before ++ [.into name])
    (hgone : ∀ fault, tree.remove path = .error fault → fault.isNotFound = true) :
    (tree.answer (.remove path)).2.held? path = none := by
  simp only [answer]
  cases hremove : tree.remove path with
  | error fault =>
      change tree.held? path = none
      refine held?_eq_none_of_place? fun place hplace => ?_
      obtain ⟨left, directory, rfl, hspot⟩ := spot_of_place? hsteps hplace
      have hfault := hgone fault hremove
      rw [hspot.remove_eq] at hremove
      split at hremove
      · next hmissing => exact hmissing
      · cases hremove
        cases hfault
      · cases hremove
  | ok changed =>
      obtain ⟨left, directory, entry, hspot, -, -, rfl⟩ := spot_of_remove hsteps hremove
      change (tree.erase (name :: directory)).held? path = none
      refine held?_eq_none_of_place? fun place hplace => ?_
      obtain ⟨_, _, rfl, hopen⟩ := spot_of_place? hsteps hplace
      -- without the entry the path leads nowhere else
      have hbefore := hopen.frame (sameBut_erase tree name directory).symm
        (by simp [DeadEnd, at?_erase_self])
      obtain ⟨-, hsame, -⟩ := hspot.unique hbefore
      rw [hsame]
      exact at?_erase_self tree name directory

end Tree

end RevisionGuard
