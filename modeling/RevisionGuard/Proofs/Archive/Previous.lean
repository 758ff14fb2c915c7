import RevisionGuard.Proofs.Archive.Names
import Mathlib.Data.Finset.Card
import Mathlib.Data.Finset.Dedup
import Mathlib.Data.List.Nodup
import Mathlib.Data.List.Sort
import Mathlib.Tactic.Common

/-!
# The search finds the revision before the newest

A listing comes in any order, and besides the directories of the target's revisions there
may be anything else in it whose name does not start with the target.  The directories of
a set of revisions are read back as these revisions (`Archive.ListsOnly.exists_found`),
for any target, since what is left of a name behind the prefix holds no dash.  Sorted in
descending order they have the second greatest in the second place
(`Archive.isSecondGreatest_of_secondGreatest`), or none if there are fewer than two.

The result does not depend on the order of the listing, and one directory that is named
like the target but cannot be read is enough for the search to fail
(`Archive.search_agrees`).
-/

namespace RevisionGuard

namespace Archive

variable {layout : Layout} {entries others : List DirEntry} {revisions found : List Revision}
  {second : Revision}

/-! ## The second greatest -/

/-- A member of a set of revisions is its second greatest if exactly one is greater. -/
def IsSecondGreatest (held : Finset Revision) (second : Revision) : Prop :=
  second ∈ held ∧ ∃! newest, newest ∈ held ∧ second < newest

theorem IsSecondGreatest.unique {held : Finset Revision} {other : Revision}
    (hsecond : IsSecondGreatest held second) (hother : IsSecondGreatest held other) :
    second = other := by
  have hle : ∀ {less greater : Revision}, IsSecondGreatest held less →
      IsSecondGreatest held greater → greater ≤ less := by
    intro less greater hless hgreater
    by_contra hlt
    -- otherwise the greater one is the only one above the less, but has another above it
    obtain ⟨-, top, -, honly⟩ := hless
    obtain ⟨hmem, newer, ⟨hnewer, habove⟩, -⟩ := hgreater
    have hbetween := UInt64.not_le.mp hlt
    have heq : greater = newer := by
      rw [honly greater ⟨hmem, hbetween⟩, honly newer ⟨hnewer, UInt64.lt_trans hbetween habove⟩]
    rw [heq] at habove
    exact UInt64.lt_irrefl newer habove
  exact UInt64.le_antisymm (hle hother hsecond) (hle hsecond hother)

/-- The revisions in descending order. -/
def descending (revisions : List Revision) : List Revision :=
  revisions.insertionSort fun left right => right ≤ left

/-- The search sorts by merging, which comes to the same. -/
theorem secondGreatest_eq (revisions : List Revision) :
    secondGreatest revisions = (descending revisions)[1]? := by
  rw [secondGreatest, descending, ← List.mergeSort_eq_insertionSort]

theorem descending_perm (revisions : List Revision) : (descending revisions).Perm revisions :=
  List.perm_insertionSort _ revisions

theorem pairwise_descending (revisions : List Revision) :
    (descending revisions).Pairwise fun left right => right ≤ left :=
  List.pairwise_insertionSort _ revisions

/-- The order in which the revisions were read does not matter. -/
theorem secondGreatest_perm (hperm : found.Perm revisions) :
    secondGreatest found = secondGreatest revisions := by
  have hsorted : (descending found).Perm (descending revisions) :=
    ((descending_perm found).trans hperm).trans (descending_perm revisions).symm
  have heq : descending found = descending revisions :=
    hsorted.eq_of_pairwise' (pairwise_descending found) (pairwise_descending revisions)
  rw [secondGreatest_eq, secondGreatest_eq, heq]

theorem secondGreatest_eq_none_iff : secondGreatest revisions = none ↔ revisions.length < 2 := by
  rw [secondGreatest_eq, List.getElem?_eq_none_iff, (descending_perm revisions).length_eq]
  omega

/-- The second of the revisions in descending order has only the first above it. -/
theorem isSecondGreatest_of_secondGreatest (hdistinct : revisions.Nodup)
    (hsecond : secondGreatest revisions = some second) :
    IsSecondGreatest revisions.toFinset second := by
  have hperm := descending_perm revisions
  have hdescending := pairwise_descending revisions
  rw [secondGreatest_eq] at hsecond
  match hsorted : descending revisions with
  | [] => simp [hsorted] at hsecond
  | [_] => simp [hsorted] at hsecond
  | newest :: next :: rest =>
      rw [hsorted] at hperm hdescending hsecond
      obtain rfl : next = second := by simpa using hsecond
      obtain ⟨hnewest, hrest⟩ := List.pairwise_cons.mp hdescending
      have hne : next ≠ newest := by
        intro heq
        have hnodup := hperm.nodup_iff.mpr hdistinct
        exact (List.nodup_cons.mp hnodup).1 (heq ▸ List.mem_cons_self)
      have hlt : next < newest := by
        apply UInt64.lt_of_le_of_ne _ hne
        exact hnewest next List.mem_cons_self
      refine ⟨?_, newest, ⟨?_, hlt⟩, ?_⟩
      · rw [List.mem_toFinset, ← hperm.mem_iff]
        exact List.mem_cons_of_mem _ List.mem_cons_self
      · rw [List.mem_toFinset, ← hperm.mem_iff]
        exact List.mem_cons_self
      · rintro revision ⟨hrevision, habove⟩
        rw [List.mem_toFinset, ← hperm.mem_iff, List.mem_cons, List.mem_cons] at hrevision
        rcases hrevision with heq | heq | hmem
        · exact heq
        · exact absurd habove (heq ▸ UInt64.lt_irrefl next)
        · exact absurd habove (UInt64.not_lt.mpr ((List.pairwise_cons.mp hrest).1 revision hmem))

/-! ## The directories of a set of revisions -/

/-- The directories of a listing whose names start with the target are, in any order, those
of a set of revisions. -/
def ListsOnly (layout : Layout) (entries : List DirEntry) (held : Finset Revision) : Prop :=
  ((candidates layout entries).map DirEntry.name).Perm (held.toList.map layout.revisionDirName)

theorem revisionOfName_revisionDirName (layout : Layout) (revision : Revision) :
    revisionOfName layout (layout.revisionDirName revision) = .ok revision := by
  exact revisionOfName_eq_ok_iff.mpr ⟨[], reads_revisionDirName layout revision⟩

/-- The directories of a set of revisions are read as these revisions. -/
theorem ListsOnly.exists_found {held : Finset Revision} (hlists : ListsOnly layout entries held) :
    ∃ found, revisionsAmong layout entries = .ok found ∧ found.Perm held.toList := by
  have hread : List.Forall₂ (fun name revision => revisionOfName layout name = .ok revision)
      (held.toList.map layout.revisionDirName) held.toList := by
    rw [List.forall₂_map_left_iff, List.forall₂_same]
    intro revision _
    exact revisionOfName_revisionDirName layout revision
  obtain ⟨found, hfound, hperm⟩ := List.perm_comp_forall₂ hlists hread
  rw [List.forall₂_map_left_iff] at hfound
  exact ⟨found, mapM_eq_ok_iff.mpr hfound, hperm⟩

/-- What the search finds is the second greatest of the set, if it has two members. -/
theorem ListsOnly.finds_iff {held : Finset Revision} (hlists : ListsOnly layout entries held) :
    ∃ previous, (∀ result, Finds layout entries result ↔ result = .ok previous) ∧
      (previous = none ↔ held.card < 2) ∧
      ∀ second, previous = some second ↔ IsSecondGreatest held second := by
  obtain ⟨found, hfound, hperm⟩ := hlists.exists_found
  have hdistinct : found.Nodup := hperm.nodup_iff.mpr held.nodup_toList
  have hheld : found.toFinset = held := by
    rw [List.toFinset_eq_of_perm _ _ hperm, Finset.toList_toFinset]
  have hlength : found.length = held.card := by rw [hperm.length_eq, Finset.length_toList]
  refine ⟨secondGreatest found, ?_, ?_, ?_⟩
  · intro result
    rw [Archive.finds_iff, hfound]
    rfl
  · rw [secondGreatest_eq_none_iff, hlength]
  · intro second
    constructor
    · intro hsecond
      rw [← hheld]
      exact isSecondGreatest_of_secondGreatest hdistinct hsecond
    · intro hsecond
      cases hfirst : secondGreatest found with
      | none =>
          obtain ⟨hmem, newest, ⟨hnewest, hlt⟩, -⟩ := hsecond
          have hfew : held.card < 2 := by
            rw [← hlength]
            exact secondGreatest_eq_none_iff.mp hfirst
          have hone := Finset.card_le_one.mp (by omega) second hmem newest hnewest
          exact absurd hlt (hone ▸ UInt64.lt_irrefl second)
      | some other =>
          have hother := isSecondGreatest_of_secondGreatest hdistinct hfirst
          rw [hheld] at hother
          rw [hother.unique hsecond]

/-! ## Any listing -/

/-- A name is not that of a revision: it is not two pieces, or the second is no numeral. -/
def IsMalformed (layout : Layout) (name : String) : Prop :=
  (Split.pieces layout.revisionDirPrefix.toList name.toList).length ≠ 2 ∨
    ∃ numeral fault,
      (Split.pieces layout.revisionDirPrefix.toList name.toList)[1]? = some numeral ∧
        Numeral.parse (String.ofList numeral) = .error fault

theorem IsMalformed.not_ok {name : String} (hname : IsMalformed layout name) (revision : Revision) :
    revisionOfName layout name ≠ .ok revision := by
  unfold revisionOfName
  intro hok
  split at hok
  · next front letters hpieces =>
      rcases hname with hlength | ⟨numeral, fault, hsecond, hparse⟩
      · exact hlength (by rw [hpieces]; rfl)
      · obtain rfl : letters = numeral := by simpa [hpieces] using hsecond
        rw [hparse] at hok
        cases hok
  · cases hok

/-- One directory that is named like the target but not like a revision makes a search
fail. -/
theorem exists_finds_error {entry : DirEntry} (hentry : entry ∈ candidates layout entries)
    (hname : IsMalformed layout entry.name) :
    ∃ fault, ∀ result, Finds layout entries result ↔ result = .error fault := by
  cases hrevisions : revisionsAmong layout entries with
  | error fault =>
      refine ⟨fault, fun result => ?_⟩
      rw [Archive.finds_iff, hrevisions]
      rfl
  | ok revisions =>
      obtain ⟨revision, hok⟩ :=
        exists_revisionsAmong_iff.mp ⟨revisions, hrevisions⟩ entry hentry
      exact absurd hok (hname.not_ok revision)

/-- A search of the same directories in another order finds the same revision. -/
theorem finds_ok_of_perm {previous : Option Revision} (hperm : others.Perm entries)
    (hfinds : Finds layout entries (.ok previous)) : Finds layout others (.ok previous) := by
  rw [Archive.finds_iff] at hfinds ⊢
  cases hrevisions : revisionsAmong layout entries with
  | error fault =>
      rw [hrevisions] at hfinds
      cases hfinds
  | ok revisions =>
      obtain ⟨found, hfound, hsame⟩ := revisionsAmong_perm hperm hrevisions
      rw [hrevisions] at hfinds
      rw [hfound, hfinds]
      change Except.ok (secondGreatest revisions) = Except.ok (secondGreatest found)
      rw [secondGreatest_perm hsame]

theorem exists_finds_error_of_perm (hperm : others.Perm entries)
    (hfails : ∃ fault, Finds layout entries (.error fault)) :
    ∃ fault, Finds layout others (.error fault) := by
  obtain ⟨fault, hfault⟩ := hfails
  cases hothers : revisionsAmong layout others with
  | error other => exact ⟨other, Archive.finds_iff.mpr (by rw [hothers]; rfl)⟩
  | ok revisions =>
      have hfinds : Finds layout others (.ok (secondGreatest revisions)) :=
        Archive.finds_iff.mpr (by rw [hothers]; rfl)
      have hback := Archive.finds_iff.mp (finds_ok_of_perm hperm.symm hfinds)
      rw [Archive.finds_iff, ← hback] at hfault
      cases hfault

/-- The names of the directories and the search agree, for every target.  Among the
directories of a set of revisions, in any order and with anything beside them that does not
start with the target, the search finds the second greatest of the set, and nothing if
there are not two.  In every listing the order does not matter, neither for what is found
nor for whether the search fails, and one malformed name anywhere makes it fail. -/
theorem search_agrees (layout : Layout) :
    (∀ (entries : List DirEntry) (held : Finset Revision), ListsOnly layout entries held →
      ∃ previous, (∀ result, Finds layout entries result ↔ result = .ok previous) ∧
        (previous = none ↔ held.card < 2) ∧
        ∀ second, previous = some second ↔ IsSecondGreatest held second) ∧
    (∀ entries others : List DirEntry, others.Perm entries →
      (∀ previous, Finds layout others (.ok previous) ↔ Finds layout entries (.ok previous)) ∧
      ((∃ fault, Finds layout others (.error fault)) ↔
        ∃ fault, Finds layout entries (.error fault))) ∧
    (∀ (front back : List DirEntry) (entry : DirEntry), entry.isDir = true →
      layout.target.toList <+: entry.name.toList → IsMalformed layout entry.name →
      ∃ fault, ∀ result, Finds layout (front ++ entry :: back) result ↔ result = .error fault) := by
  refine ⟨?_, ?_, ?_⟩
  · intro entries held hlists
    exact hlists.finds_iff
  · intro entries others hperm
    refine ⟨fun previous => ⟨?_, ?_⟩, ?_, ?_⟩
    · exact finds_ok_of_perm hperm.symm
    · exact finds_ok_of_perm hperm
    · exact exists_finds_error_of_perm hperm.symm
    · exact exists_finds_error_of_perm hperm
  · intro front back entry hdirectory hstarts hname
    refine exists_finds_error (mem_candidates_iff.mpr ⟨?_, hdirectory, hstarts⟩) hname
    exact List.mem_append_right _ List.mem_cons_self

/-- Revisions 2, 9 and 10 of a target whose name holds the separator and repeats itself. -/
theorem search_agrees_rehearsed :
    let layout : Layout := ⟨"kube-pod-kube", ⟨"/manifests"⟩, ⟨"/resources"⟩⟩
    let entries : List DirEntry :=
      [⟨"kube-pod-kube-pod-9", true⟩, ⟨"kube-pod-kube-pod-11", false⟩, ⟨"kube-pod-7", true⟩,
        ⟨"kube-pod-kube-pod-10", true⟩, ⟨"kube-pod-kube-pod-2", true⟩]
    Finds layout entries (.ok (some 9)) ∧ Finds layout entries.reverse (.ok (some 9)) ∧
      ∃ fault, Finds layout (⟨"kube-pod-kube-pod-x", true⟩ :: entries) (.error fault) := by
  intro layout entries
  obtain ⟨hset, horder, hmalformed⟩ := search_agrees layout
  have hnames : ((candidates layout entries).map DirEntry.name).Perm
      (([2, 9, 10] : List Revision).map layout.revisionDirName) := by decide +kernel
  have hlists : ListsOnly layout entries ([2, 9, 10] : List Revision).toFinset :=
    hnames.trans ((List.toFinset_toList (by decide)).symm.map _)
  have hsecond : IsSecondGreatest ([2, 9, 10] : List Revision).toFinset 9 := by
    refine ⟨by decide, 10, by decide, ?_⟩
    rintro revision ⟨hmem, habove⟩
    simp only [List.toFinset_cons, Finset.mem_insert, List.toFinset_nil] at hmem
    rcases hmem with rfl | rfl | rfl | hnone
    · exact absurd habove (by decide)
    · exact absurd habove (by decide)
    · rfl
    · exact absurd hnone (Finset.notMem_empty _)
  obtain ⟨previous, hfinds, -, hprevious⟩ := hset entries _ hlists
  have hfound : Finds layout entries (.ok (some 9)) := by
    rw [hfinds, (hprevious 9).mpr hsecond]
  refine ⟨hfound, ((horder entries _ (List.reverse_perm entries)).1 _).mpr hfound, ?_⟩
  obtain ⟨fault, hfault⟩ := hmalformed [] entries ⟨"kube-pod-kube-pod-x", true⟩
    rfl (by decide +kernel)
    (Or.inr ⟨['x'], .invalidDigit, by decide +kernel, by decide +kernel⟩)
  exact ⟨fault, (hfault _).mpr rfl⟩

end Archive

end RevisionGuard
