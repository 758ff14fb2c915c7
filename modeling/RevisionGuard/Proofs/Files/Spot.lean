import RevisionGuard.Files.Tree.Answer
import RevisionGuard.Proofs.Files.Walk
import Mathlib.Data.List.Basic
import Mathlib.Tactic.Common

/-!
# Entries and the paths to them

`Tree.Spot` says where the entry is that a path names: in which directory, under
which name, and how many links are left on the way there.  Each file operation on
a path with a spot is then a question to one entry.

An operation that succeeds has found a spot (`spot_of_remove`, `spot_of_symlink`,
`spot_of_leads`), and a change at a place by way of which no directory is reached
leaves every spot where it is (`Spot.frame`).
-/

namespace RevisionGuard

namespace Tree

variable {tree other : Tree} {path : Path} {links left : Nat} {directory ending : Location}
  {name : EntryName} {entry : Entry} {before : List WalkStep}

/-- A path names the entry of a directory, and the way to the directory leaves so
many links to follow. -/
structure Spot (tree : Tree) (path : Path) (left : Nat) (directory : Location)
    (name : EntryName) : Prop where
  check : path.check = .ok ()
  way : ∃ before, path.steps = before ++ [.into name] ∧
    tree.Leads maxLinks (path.start tree.workingDirectory) before left directory
  inside : tree.at? directory = some .directory
  short : isTooLong name = false

/-! ## Paths that lead somewhere -/

/-- An entry is a directory. -/
abbrev IsDirectory (entry : Entry) : Prop := entry = .directory

/-- An entry is where a walk can end, and no link. -/
def IsEnd (entry : Entry) : Prop := ∀ target, entry ≠ .link target

theorem resolve_eq_ok_iff :
    tree.resolve false path = .ok ending ↔
      path.check = .ok () ∧
        ∃ left, tree.Leads maxLinks (path.start tree.workingDirectory) path.steps left ending := by
  unfold resolve
  constructor
  · intro hresolve
    cases hcheck : path.check with
    | error fault =>
        rw [hcheck] at hresolve
        cases hresolve
    | ok value =>
        rw [hcheck] at hresolve
        cases hwalk : tree.walk false maxLinks (path.start tree.workingDirectory) path.steps with
        | error fault =>
            simp only [hwalk, bind, Except.bind] at hresolve
            cases hresolve
        | ok found =>
            obtain ⟨left, location⟩ := found
            simp only [hwalk, bind, Except.bind] at hresolve
            cases hresolve
            exact ⟨rfl, left, leads_of_walk false hwalk⟩
  · rintro ⟨hcheck, left, hleads⟩
    rw [hcheck, hleads.walk_eq]
    rfl

theorem resolve_eq_ok (hcheck : path.check = .ok ())
    (hleads : tree.Leads maxLinks (path.start tree.workingDirectory) path.steps left ending) :
    tree.resolve false path = .ok ending :=
  resolve_eq_ok_iff.mpr ⟨hcheck, left, hleads⟩

theorem read_eq_ok_iff {contents : Bytes} :
    tree.read path = .ok contents ↔
      path.check = .ok () ∧ ∃ left ending bits,
        tree.Leads maxLinks (path.start tree.workingDirectory) path.steps left ending ∧
          tree.at? ending = some (.file contents bits) := by
  constructor
  · intro hread
    cases hresolve : tree.resolve false path with
    | error fault =>
        simp only [read, hresolve] at hread
        cases hread
    | ok ending =>
        obtain ⟨hcheck, left, hleads⟩ := resolve_eq_ok_iff.mp hresolve
        simp only [read, hresolve, bind, Except.bind] at hread
        split at hread
        · next hentry =>
            cases hread
            exact ⟨hcheck, left, ending, _, hleads, hentry⟩
        · cases hread
        · cases hread
  · rintro ⟨hcheck, left, ending, bits, hleads, hentry⟩
    simp only [read, resolve_eq_ok hcheck hleads, bind, Except.bind, hentry]
    rfl

theorem stat_eq_ok_iff {isDir : Bool} :
    tree.stat path = .ok isDir ↔
      path.check = .ok () ∧ ∃ left ending entry,
        tree.Leads maxLinks (path.start tree.workingDirectory) path.steps left ending ∧
          tree.at? ending = some entry ∧ IsEnd entry ∧ entry.isDirectory = isDir := by
  constructor
  · intro hstat
    cases hresolve : tree.resolve false path with
    | error fault =>
        simp only [stat, hresolve] at hstat
        cases hstat
    | ok ending =>
        obtain ⟨hcheck, left, hleads⟩ := resolve_eq_ok_iff.mp hresolve
        simp only [stat, hresolve, bind, Except.bind] at hstat
        split at hstat
        · next hentry =>
            cases hstat
            exact ⟨hcheck, left, ending, _, hleads, hentry, nofun, rfl⟩
        · next hentry =>
            cases hstat
            exact ⟨hcheck, left, ending, _, hleads, hentry, nofun, rfl⟩
        · cases hstat
  · rintro ⟨hcheck, left, ending, entry, hleads, hentry, hend, rfl⟩
    simp only [stat, resolve_eq_ok hcheck hleads, bind, Except.bind, hentry]
    cases entry with
    | file contents mode => rfl
    | link target => exact absurd rfl (hend target)
    | directory => rfl

theorem stat_eq_of_read {contents : Bytes} (hread : tree.read path = .ok contents) :
    tree.stat path = .ok false := by
  obtain ⟨hcheck, left, ending, bits, hleads, hentry⟩ := read_eq_ok_iff.mp hread
  exact stat_eq_ok_iff.mpr ⟨hcheck, left, ending, _, hleads, hentry, nofun, rfl⟩

theorem list_eq_ok_iff {entries : List DirEntry} :
    tree.list path = .ok entries ↔
      path.check = .ok () ∧ ∃ left ending,
        tree.Leads maxLinks (path.start tree.workingDirectory) path.steps left ending ∧
          tree.at? ending = some .directory ∧
          entries = (tree.children ending).map fun (name, entry) =>
            ⟨String.ofList name, entry.isDirectory⟩ := by
  constructor
  · intro hlist
    cases hresolve : tree.resolve false path with
    | error fault =>
        simp only [list, hresolve] at hlist
        cases hlist
    | ok ending =>
        obtain ⟨hcheck, left, hleads⟩ := resolve_eq_ok_iff.mp hresolve
        cases henter : tree.enter ending with
        | error fault =>
            simp only [list, hresolve, bind, Except.bind, henter] at hlist
            cases hlist
        | ok value =>
            simp only [list, hresolve, bind, Except.bind, henter] at hlist
            cases hlist
            exact ⟨hcheck, left, ending, hleads, enter_eq_ok_iff.mp henter, rfl⟩
  · rintro ⟨hcheck, left, ending, hleads, hentry, rfl⟩
    simp only [list, resolve_eq_ok hcheck hleads, bind, Except.bind, enter_eq_ok_iff.mpr hentry]
    rfl

/-! ## Operations on a spot -/

theorem Spot.leads_path_iff (hspot : tree.Spot path left directory name) :
    tree.Leads maxLinks (path.start tree.workingDirectory) path.steps links ending ↔
      tree.Leads left directory [.into name] links ending := by
  obtain ⟨before, hsteps, hway⟩ := hspot.way
  rw [hsteps, Leads.append_iff]
  constructor
  · rintro ⟨between, middle, hfront, hback⟩
    obtain ⟨rfl, rfl⟩ := hway.unique hfront
    exact hback
  · intro hback
    exact ⟨left, directory, hway, hback⟩

/-- A path has one spot. -/
theorem Spot.unique {others : Nat} {elsewhere : Location} {label : EntryName}
    (hspot : tree.Spot path left directory name) (hother : tree.Spot path others elsewhere label) :
    others = left ∧ elsewhere = directory ∧ label = name := by
  obtain ⟨before, hsteps, hway⟩ := hspot.way
  obtain ⟨before', hsteps', hway'⟩ := hother.way
  obtain ⟨rfl, hlast⟩ := List.append_inj' (hsteps'.symm.trans hsteps) rfl
  obtain ⟨hlinks, hdirectory⟩ := hway.unique hway'
  cases hlast
  exact ⟨hlinks, hdirectory, rfl⟩

theorem Spot.name_eq {label : EntryName} (hspot : tree.Spot path left directory name)
    (hsteps : path.steps = before ++ [.into label]) : name = label := by
  obtain ⟨others, hothers, -⟩ := hspot.way
  obtain ⟨-, hlast⟩ := List.append_inj' (hothers.symm.trans hsteps) rfl
  cases hlast
  rfl

/-- The step into an entry that is no link ends there. -/
theorem Spot.leads (hspot : tree.Spot path left directory name)
    (hentry : ∀ target, tree.at? (name :: directory) ≠ some (.link target)) :
    tree.Leads maxLinks (path.start tree.workingDirectory) path.steps left (name :: directory) :=
  hspot.leads_path_iff.mpr (.into hspot.inside hspot.short hentry (.nil _ _))

private theorem lastName_append (before : List WalkStep) (name : EntryName) :
    lastName (before ++ [.into name]) = (before, some (name, false)) := by
  simp [lastName]

theorem Spot.resolveParent_eq (hspot : tree.Spot path left directory name) :
    tree.resolveParent path = .ok (directory, some (name, false)) := by
  obtain ⟨before, hsteps, hway⟩ := hspot.way
  simp only [resolveParent, hsteps, lastName_append, hway.walk_eq, bind, Except.bind,
    enter_eq_ok_iff.mpr hspot.inside, hspot.short]
  rfl

theorem Spot.remove_eq (hspot : tree.Spot path left directory name) :
    tree.remove path =
      match tree.at? (name :: directory) with
      | none => .error .noSuchEntry
      | some .directory => .error .isADirectory
      | some _ => .ok (tree.erase (name :: directory)) := by
  simp only [remove, hspot.check, hspot.resolveParent_eq, bind, Except.bind]
  rcases tree.at? (name :: directory) with - | (_ | _ | _) <;> rfl

/-- What is no directory can be removed. -/
theorem Spot.remove_eq_ok (hspot : tree.Spot path left directory name)
    (hentry : tree.at? (name :: directory) = some entry) (hdirectory : entry ≠ .directory) :
    tree.remove path = .ok (tree.erase (name :: directory)) := by
  rw [hspot.remove_eq, hentry]
  cases entry with
  | file contents mode => rfl
  | link target => rfl
  | directory => exact absurd rfl hdirectory

theorem Spot.answer_remove_of_missing (hspot : tree.Spot path left directory name)
    (hmissing : tree.at? (name :: directory) = none) :
    tree.answer (.remove path) = (.error .noSuchEntry, tree) := by
  simp only [answer, hspot.remove_eq, hmissing, settle]

private theorem isNotFound_of_check {fault : FileFault} (hsteps : path.steps ≠ [])
    (hcheck : path.check = .error fault) : fault.isNotFound = false := by
  unfold Path.check at hcheck
  split at hcheck
  · cases hcheck
    rfl
  · split at hcheck
    · next hempty =>
        have htext : path.text.toList = [] := by simpa using hempty
        exact absurd (by simp [Path.steps, htext, Path.pieces, Path.step?]) hsteps
    · split at hcheck
      · cases hcheck
        rfl
      · cases hcheck

/-- A path into the directory of another one has a spot there, unless it or its last
name is too long, or holds a NUL character. -/
theorem Spot.sibling_or {sibling : Path} {label : EntryName}
    (hspot : tree.Spot path left directory name) (hsteps : path.steps = before ++ [.into name])
    (hsibling : sibling.steps = before ++ [.into label])
    (hstart : sibling.start tree.workingDirectory = path.start tree.workingDirectory) :
    tree.Spot sibling left directory label ∨
      ∃ fault, tree.remove sibling = .error fault ∧ fault.isNotFound = false := by
  -- the way to the directory is the same
  obtain ⟨others, hothers, hway⟩ := hspot.way
  obtain ⟨rfl, -⟩ := List.append_inj' (hothers.symm.trans hsteps) rfl
  rw [← hstart] at hway
  cases hcheck : sibling.check with
  | error fault =>
      refine Or.inr ⟨fault, ?_, isNotFound_of_check (by simp [hsibling]) hcheck⟩
      simp only [remove, hcheck]
      rfl
  | ok value =>
      cases hshort : isTooLong label with
      | false => exact Or.inl ⟨hcheck, ⟨others, hsibling, hway⟩, hspot.inside, hshort⟩
      | true =>
          refine Or.inr ⟨.nameTooLong, ?_, rfl⟩
          simp only [remove, hcheck, resolveParent, hsibling, lastName_append, hway.walk_eq, bind,
            Except.bind, enter_eq_ok_iff.mpr hspot.inside, hshort, if_true]
          rfl

theorem Spot.read_eq_of_missing (hspot : tree.Spot path left directory name)
    (hmissing : tree.at? (name :: directory) = none) : tree.read path = .error .noSuchEntry := by
  have hleads := hspot.leads (by simp [hmissing])
  simp only [read, resolve_eq_ok hspot.check hleads, bind, Except.bind, hmissing]
  rfl

theorem Spot.stat_eq_of_missing (hspot : tree.Spot path left directory name)
    (hmissing : tree.at? (name :: directory) = none) : tree.stat path = .error .noSuchEntry := by
  have hleads := hspot.leads (by simp [hmissing])
  simp only [stat, resolve_eq_ok hspot.check hleads, bind, Except.bind, hmissing]
  rfl

/-- A file that is missing is made in its place. -/
theorem Spot.write_eq_of_missing {contents : Bytes} {mode : Nat}
    (hspot : tree.Spot path left directory name) (hmissing : tree.at? (name :: directory) = none) :
    tree.write path contents mode =
      .ok (tree.set (name :: directory) (.file contents (mode % modeBits))) := by
  obtain ⟨before, hsteps, hway⟩ := hspot.way
  have hwalk : tree.walk true maxLinks (path.start tree.workingDirectory) path.steps =
      .ok (left, name :: directory) := by
    rw [hsteps, hway.walk_append true (by simp) (by simp),
      walk_into hspot.inside (Or.inr (by simp)) hspot.short (by simp [hmissing]), walk_nil]
  simp only [write, resolve, hspot.check, hwalk, bind, Except.bind, pure, Except.pure, hmissing]

private theorem Spot.nul_notMem (hspot : tree.Spot path left directory name) :
    path.text.toList.contains '\x00' = false := by
  have hcheck := hspot.check
  unfold Path.check at hcheck
  split at hcheck
  · cases hcheck
  · next hnul => exact Bool.eq_false_iff.mpr hnul

theorem Spot.symlink_eq_of_missing {target : Path} (hspot : tree.Spot path left directory name)
    (htarget : target.check = .ok ()) (hmissing : tree.at? (name :: directory) = none) :
    tree.symlink target path = .ok (tree.set (name :: directory) (.link target)) := by
  simp only [symlink, hspot.nul_notMem, htarget, hspot.check, hspot.resolveParent_eq, bind, Except.bind,
    hmissing]
  rfl

/-- A link is not made where something is. -/
theorem Spot.symlink_eq_of_taken {target : Path} (hspot : tree.Spot path left directory name)
    (htarget : target.check = .ok ()) (hentry : tree.at? (name :: directory) = some entry) :
    tree.symlink target path = .error .entryExists := by
  simp only [symlink, hspot.nul_notMem, htarget, hspot.check, hspot.resolveParent_eq, bind,
    Except.bind, hentry]
  rfl

/-! ## Spots that an operation has found -/

/-- A walk to the end of a path that ends in a name comes by the directory of
that name. -/
theorem spot_of_leads (hcheck : path.check = .ok ()) (hsteps : path.steps = before ++ [.into name])
    (hleads : tree.Leads maxLinks (path.start tree.workingDirectory) path.steps links ending) :
    ∃ left directory, tree.Spot path left directory name ∧
      tree.Leads left directory [.into name] links ending := by
  rw [hsteps] at hleads
  obtain ⟨left, directory, hfront, hback⟩ := Leads.append_iff.mp hleads
  have hshort : isTooLong name = false := by
    cases hback with
    | around _ hstep _ => cases hstep
    | into _ hshort _ _ => exact hshort
    | follow _ hshort _ _ => exact hshort
  exact ⟨left, directory, ⟨hcheck, ⟨before, hsteps, hfront⟩, hback.at?_of_cons, hshort⟩, hback⟩

theorem spot_of_resolveParent {found : Location × Option (EntryName × Bool)}
    (hcheck : path.check = .ok ()) (hsteps : path.steps = before ++ [.into name])
    (hparent : tree.resolveParent path = .ok found) :
    ∃ left directory, tree.Spot path left directory name ∧
      found = (directory, some (name, false)) := by
  simp only [resolveParent, hsteps, lastName_append, bind, Except.bind] at hparent
  cases hwalk : tree.walk false maxLinks (path.start tree.workingDirectory) before with
  | error fault =>
      rw [hwalk] at hparent
      cases hparent
  | ok reached =>
      obtain ⟨left, directory⟩ := reached
      simp only [hwalk] at hparent
      cases henter : tree.enter directory with
      | error fault =>
          rw [henter] at hparent
          cases hparent
      | ok value =>
          simp only [henter] at hparent
          cases hshort : isTooLong name with
          | true =>
              simp only [hshort, if_true] at hparent
              cases hparent
          | false =>
              simp only [hshort] at hparent
              cases hparent
              exact ⟨left, directory, ⟨hcheck, ⟨before, hsteps, leads_of_walk false hwalk⟩,
                enter_eq_ok_iff.mp henter, hshort⟩, rfl⟩

/-- What has been removed was at the path, and was no directory. -/
theorem spot_of_remove (hsteps : path.steps = before ++ [.into name])
    (hremove : tree.remove path = .ok other) :
    ∃ left directory entry, tree.Spot path left directory name ∧
      tree.at? (name :: directory) = some entry ∧ entry ≠ .directory ∧
      other = tree.erase (name :: directory) := by
  cases hcheck : path.check with
  | error fault =>
      simp only [remove, hcheck] at hremove
      cases hremove
  | ok value =>
      cases hparent : tree.resolveParent path with
      | error fault =>
          simp only [remove, hcheck, hparent, bind, Except.bind] at hremove
          cases hremove
      | ok found =>
          obtain ⟨left, directory, hspot, -⟩ := spot_of_resolveParent hcheck hsteps hparent
          rw [hspot.remove_eq] at hremove
          split at hremove
          · cases hremove
          · cases hremove
          · next entry hdirectory hentry =>
              exact ⟨left, directory, entry, hspot, hentry, hdirectory,
                (Except.ok.inj hremove).symm⟩

/-- A link has been made where nothing was. -/
theorem spot_of_symlink {target : Path} (hsteps : path.steps = before ++ [.into name])
    (hsymlink : tree.symlink target path = .ok other) :
    ∃ left directory, target.check = .ok () ∧ tree.Spot path left directory name ∧
      tree.at? (name :: directory) = none ∧
      other = tree.set (name :: directory) (.link target) := by
  unfold symlink at hsymlink
  split at hsymlink
  · cases hsymlink
  cases htarget : target.check with
  | error fault =>
      simp only [htarget] at hsymlink
      cases hsymlink
  | ok value =>
      cases hcheck : path.check with
      | error fault =>
          simp only [htarget, hcheck] at hsymlink
          cases hsymlink
      | ok value =>
          cases hparent : tree.resolveParent path with
          | error fault =>
              simp only [htarget, hcheck, hparent, bind, Except.bind] at hsymlink
              cases hsymlink
          | ok found =>
              obtain ⟨left, directory, hspot, rfl⟩ := spot_of_resolveParent hcheck hsteps hparent
              simp only [htarget, hcheck, hparent, bind, Except.bind] at hsymlink
              cases hentry : tree.at? (name :: directory) with
              | some entry =>
                  rw [hentry] at hsymlink
                  cases hsymlink
              | none =>
                  rw [hentry] at hsymlink
                  cases hsymlink
                  exact ⟨left, directory, rfl, hspot, hentry, rfl⟩

/-! ## Trees that differ at one place -/

/-- Two trees differ at most at one place. -/
structure SameBut (place : Location) (tree other : Tree) : Prop where
  at?_eq : ∀ location, location ≠ place → other.at? location = tree.at? location
  workingDirectory_eq : other.workingDirectory = tree.workingDirectory

theorem SameBut.symm {place : Location} (hsame : SameBut place tree other) :
    SameBut place other tree :=
  ⟨fun location hlocation => (hsame.at?_eq location hlocation).symm,
    hsame.workingDirectory_eq.symm⟩

theorem sameBut_erase (tree : Tree) (name : EntryName) (directory : Location) :
    SameBut (name :: directory) tree (tree.erase (name :: directory)) :=
  ⟨fun location hlocation => by rw [at?_erase _ _ _ (List.cons_ne_nil _ _), if_neg hlocation], rfl⟩

theorem sameBut_set (tree : Tree) (name : EntryName) (directory : Location) (entry : Entry) :
    SameBut (name :: directory) tree (tree.set (name :: directory) entry) :=
  ⟨fun location hlocation => by rw [at?_set _ _ _ _ (List.cons_ne_nil _ _), if_neg hlocation], rfl⟩

theorem at?_erase_self (tree : Tree) (name : EntryName) (directory : Location) :
    (tree.erase (name :: directory)).at? (name :: directory) = none := by
  rw [at?_erase _ _ _ (List.cons_ne_nil _ _), if_pos rfl]

theorem at?_set_self (tree : Tree) (name : EntryName) (directory : Location) (entry : Entry) :
    (tree.set (name :: directory) entry).at? (name :: directory) = some entry := by
  rw [at?_set _ _ _ _ (List.cons_ne_nil _ _), if_pos rfl]

/-- What is put in the place of an entry takes the same place when the entry has
been removed first. -/
@[simp] theorem set_erase (tree : Tree) (location : Location) (entry : Entry) :
    (tree.erase location).set location entry = tree.set location entry := by
  simp [set, erase, List.filter_filter]

@[simp] theorem erase_erase (tree : Tree) (location : Location) :
    (tree.erase location).erase location = tree.erase location := by
  simp [erase, List.filter_filter]

@[simp] theorem erase_set (tree : Tree) (location : Location) (entry : Entry) :
    (tree.set location entry).erase location = tree.erase location := by
  simp [set, erase, List.filter_filter]

/-- What has been put in a place need not be put there again because something has
been removed elsewhere. -/
theorem set_erase_set {place location : Location} (tree : Tree) (entry : Entry)
    (hne : place ≠ location) :
    ((tree.set place entry).erase location).set place entry =
      (tree.set place entry).erase location := by
  simp [set, erase, List.filter_filter, hne, Bool.and_comm]

/-! ## Dead ends -/

theorem isEnd_directory {entry : Entry} (hdirectory : IsDirectory entry) : IsEnd entry := by
  rw [hdirectory]
  exact fun target => Entry.noConfusion

theorem Spot.frame {place : Location} {label : EntryName}
    (hspot : tree.Spot path left directory name) (hsame : SameBut (label :: place) tree other)
    (hdead : tree.DeadEnd IsDirectory place label) : other.Spot path left directory name := by
  obtain ⟨before, hsteps, hway⟩ := hspot.way
  have hlinks : ∀ target, ¬ IsDirectory (.link target) := by simp
  have hdirectory : IsDirectory .directory := rfl
  refine ⟨hspot.check, ⟨before, hsteps, ?_⟩, ?_, hspot.short⟩
  · rw [hsame.workingDirectory_eq]
    exact hway.frame hsame.at?_eq hdirectory hlinks hdead hspot.inside rfl
  · rw [hsame.at?_eq _ (hdead.ne hlinks hspot.inside rfl)]
    exact hspot.inside

/-- What is no way to a directory can be removed. -/
theorem Spot.remove_of_deadEnd (hspot : tree.Spot path left directory name)
    (hdead : tree.DeadEnd IsDirectory directory name)
    (hentry : tree.at? (name :: directory) = some entry) :
    tree.remove path = .ok (tree.erase (name :: directory)) :=
  hspot.remove_eq_ok hentry fun hdirectory => hdead.ne (by simp) hentry hdirectory rfl

theorem not_isEnd_link (target : Path) : ¬ IsEnd (.link target) := fun hend => hend target rfl

/-- A path that leads to an end leads there when something changes by way of which
nothing is reached. -/
theorem SameBut.leads_end {place : Location} {label : EntryName}
    (hsame : SameBut (label :: place) tree other) (hdead : tree.DeadEnd IsEnd place label)
    (hleads : tree.Leads maxLinks (path.start tree.workingDirectory) path.steps left ending)
    (hentry : tree.at? ending = some entry) (hend : IsEnd entry) :
    other.Leads maxLinks (path.start other.workingDirectory) path.steps left ending ∧
      other.at? ending = some entry := by
  constructor
  · rw [hsame.workingDirectory_eq]
    exact hleads.frame hsame.at?_eq (isEnd_directory rfl) not_isEnd_link hdead hentry hend
  · rw [hsame.at?_eq _ (hdead.ne not_isEnd_link hentry hend)]
    exact hentry

theorem SameBut.read_eq {place : Location} {label : EntryName} {contents : Bytes}
    (hsame : SameBut (label :: place) tree other) (hdead : tree.DeadEnd IsEnd place label)
    (hread : tree.read path = .ok contents) : other.read path = .ok contents := by
  obtain ⟨hcheck, left, ending, bits, hleads, hentry⟩ := read_eq_ok_iff.mp hread
  obtain ⟨hother, hkept⟩ := hsame.leads_end hdead hleads hentry nofun
  exact read_eq_ok_iff.mpr ⟨hcheck, left, ending, bits, hother, hkept⟩

theorem SameBut.stat_eq {place : Location} {label : EntryName} {isDir : Bool}
    (hsame : SameBut (label :: place) tree other) (hdead : tree.DeadEnd IsEnd place label)
    (hstat : tree.stat path = .ok isDir) : other.stat path = .ok isDir := by
  obtain ⟨hcheck, left, ending, entry, hleads, hentry, hend, hkind⟩ := stat_eq_ok_iff.mp hstat
  obtain ⟨hother, hkept⟩ := hsame.leads_end hdead hleads hentry hend
  exact stat_eq_ok_iff.mpr ⟨hcheck, left, ending, entry, hother, hkept, hend, hkind⟩

/-- What is removed from a directory makes no difference to a choice that does not
take it. -/
theorem filter_children_erase {place : Location} {keeps : EntryName × Entry → Bool}
    (hleft : ∀ entry, (name, entry) ∈ tree.children place → keeps (name, entry) = false) :
    ((tree.erase (name :: directory)).children place).filter keeps =
      (tree.children place).filter keeps := by
  simp only [children, erase, List.filterMap_filter, List.filter_filterMap]
  refine List.filterMap_congr fun held hmem => ?_
  obtain ⟨location, entry⟩ := held
  by_cases hremoved : location = name :: directory
  · subst hremoved
    by_cases hplace : directory = place
    · have hchild : (name, entry) ∈ tree.children place :=
        List.mem_filterMap.mpr ⟨_, hmem, by simp [hplace]⟩
      simp [hplace, Option.filter, hleft entry hchild]
    · simp [hplace]
  · simp [hremoved]

/-- The walk into a link at the end of a path. -/
theorem Spot.walk_link {target : Path} (hspot : tree.Spot path left directory name)
    (hlink : tree.at? (name :: directory) = some (.link target)) :
    tree.walk false maxLinks (path.start tree.workingDirectory) path.steps =
      tree.following false left (target.start directory) target.steps := by
  obtain ⟨before, hsteps, hway⟩ := hspot.way
  rw [hsteps, hway.walk_append false (by simp) (by simp),
    walk_follow hspot.inside (Or.inl rfl) hspot.short hlink, List.append_nil]

theorem Spot.stat_eq_tooManyLinks (hspot : tree.Spot path left directory name)
    (hwalk : tree.walk false maxLinks (path.start tree.workingDirectory) path.steps =
      .error .tooManyLinks) : tree.stat path = .error .tooManyLinks := by
  simp only [stat, resolve, hspot.check, hwalk]
  rfl

/-- By way of an entry nothing of a kind is reached if the path to it leads to
nothing of the kind, however many links are followed. -/
theorem Spot.deadEnd_of_never {kept : Entry → Prop} (hspot : tree.Spot path left directory name)
    (hnever : ∀ links left ending entry,
      tree.Leads links (path.start tree.workingDirectory) path.steps left ending →
      tree.at? ending = some entry → ¬ kept entry) : tree.DeadEnd kept directory name := by
  obtain ⟨before, hsteps, hway⟩ := hspot.way
  -- a walk from the entry is the end of a walk along the whole path, with more links
  have hinto : ∀ links others ending entry,
      tree.Leads links directory [.into name] others ending →
      tree.at? ending = some entry → ¬ kept entry := by
    intro links others ending entry hleads hentry
    have hle := hway.le
    have hfront : tree.Leads (maxLinks + links) (path.start tree.workingDirectory) before
        (links + left) directory := by
      have hmore := hway.with_links (show maxLinks ≤ maxLinks + links + left by omega)
      rwa [show maxLinks + links + left - maxLinks = links + left by omega] at hmore
    have hwhole := hfront.append (hleads.with_links (show links ≤ links + left + others by omega))
    rw [← hsteps] at hwhole
    exact hnever _ _ ending entry hwhole hentry
  unfold DeadEnd
  split
  · trivial
  · next target hlink =>
      intro links others ending entry hleads
      rw [← List.append_nil target.steps] at hleads
      exact hinto _ _ ending entry (.follow hspot.inside hspot.short hlink hleads)
  · next entry hlink hentry =>
      have hnolink : ∀ target, tree.at? (name :: directory) ≠ some (.link target) := by
        intro target htarget
        rw [hentry] at htarget
        exact hlink target (Option.some.inj htarget)
      exact hinto _ left _ entry (.into hspot.inside hspot.short hnolink (.nil left _)) hentry

/-- By way of an entry nothing of a kind is reached if the path to it leads to
nothing of the kind, and not only for want of links. -/
theorem Spot.deadEnd {kept : Entry → Prop} (hspot : tree.Spot path left directory name)
    (hlinks : tree.stat path ≠ .error .tooManyLinks)
    (hnever : ∀ links ending entry,
      tree.Leads maxLinks (path.start tree.workingDirectory) path.steps links ending →
      tree.at? ending = some entry → ¬ kept entry) : tree.DeadEnd kept directory name := by
  refine hspot.deadEnd_of_never fun links others ending entry hleads hentry => ?_
  -- either the walk of the path runs out of links, or it ends at the same place
  rcases Nat.lt_or_ge (maxLinks + others) links with hfewer | hmore
  · exact absurd (hspot.stat_eq_tooManyLinks (hleads.walk_eq_tooManyLinks hfewer)) hlinks
  · exact hnever _ ending entry (hleads.with_links hmore) hentry

/-- A path leads to a directory, if enough links are followed. -/
def LeadsToDirectory (tree : Tree) (path : Path) : Prop :=
  ∃ links left ending, tree.Leads links (path.start tree.workingDirectory) path.steps left ending ∧
    tree.at? ending = some .directory

theorem Spot.deadEnd_of_not_leadsToDirectory (hspot : tree.Spot path left directory name)
    (hnever : ¬ tree.LeadsToDirectory path) : tree.DeadEnd IsDirectory directory name := by
  refine hspot.deadEnd_of_never fun links left ending entry hleads hentry hdirectory => ?_
  rw [hdirectory] at hentry
  exact hnever ⟨links, left, ending, hleads, hentry⟩

/-- A path leads to a directory as before when something changes by way of which no
directory is reached. -/
theorem LeadsToDirectory.frame {place : Location} {label : EntryName}
    (hleads : tree.LeadsToDirectory path) (hsame : SameBut (label :: place) tree other)
    (hdead : tree.DeadEnd IsDirectory place label) : other.LeadsToDirectory path := by
  obtain ⟨links, left, ending, hway, hentry⟩ := hleads
  have hlinks : ∀ target, ¬ IsDirectory (.link target) := by simp
  have hdirectory : IsDirectory .directory := rfl
  refine ⟨links, left, ending, ?_, ?_⟩
  · rw [hsame.workingDirectory_eq]
    exact hway.frame hsame.at?_eq hdirectory hlinks hdead hentry rfl
  · rw [hsame.at?_eq _ (hdead.ne hlinks hentry rfl)]
    exact hentry

end Tree

end RevisionGuard
