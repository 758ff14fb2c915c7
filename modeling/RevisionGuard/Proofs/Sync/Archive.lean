import RevisionGuard.Proofs.Archive.Names
import RevisionGuard.Proofs.Sync.Hosts
import RevisionGuard.Proofs.Sync.Requests
import Mathlib.Data.List.Basic
import Mathlib.Tactic.Common

/-!
# The archive on a host

The search for the previous revision looks at the directories in the resources
directory whose names begin like the target's, and it fails at the first of them
that is not named like a revision.  So what comes of it does not change with
entries of other kinds (`revisions_filter`), and not with entries whose names do
not end in a digit (`revisionOfName_eq_ok_last`): there is none among the
directories of a search that succeeds.
-/

namespace RevisionGuard

open Program RevisionGuard.Tree

namespace Archive

variable {layout : Layout} {tree other after : Tree} {healthy : Bool} {entries : List DirEntry}
  {previous : Option Revision}

/-- The name of a revision's directory ends in a digit. -/
theorem revisionOfName_eq_ok_last {name : String} {revision : Revision}
    (hok : revisionOfName layout name = .ok revision) :
    ∃ letter, name.toList.getLast? = some letter ∧ letter.isDigit = true := by
  obtain ⟨front, numeral, hcuts, hparse⟩ := revisionOfName_eq_ok_iff.mp hok
  obtain ⟨letter, hletter, hdigit⟩ := (Numeral.parse_eq_ok_iff.mp hparse).exists_last
  refine ⟨letter, ?_, hdigit⟩
  rw [hcuts.eq, ← List.append_assoc, List.getLast?_append, hletter]
  rfl

/-! ## Searching -/

/-- Entries that are no candidates make no difference to the search. -/
theorem revisions_filter (layout : Layout) (entries : List DirEntry) :
    revisions layout (entries.filter (isCandidate layout)) = revisions layout entries := by
  induction entries with
  | nil => rfl
  | cons entry others ih =>
      cases hcandidate : isCandidate layout entry with
      | false =>
          rw [List.filter_cons_of_neg (by simp [hcandidate]), ih]
          conv_rhs => rw [revisions]
          rw [if_neg (by simp [hcandidate])]
      | true =>
          rw [List.filter_cons_of_pos hcandidate]
          rw [revisions, revisions, if_pos hcandidate, if_pos hcandidate, ih]

/-- In a search that succeeds every candidate is named like a revision. -/
theorem named_of_revisions {found : List Revision}
    (hdoes : Does healthy tree (revisions layout entries).run (.ok found) after) :
    ∀ entry ∈ entries, isCandidate layout entry = true →
      ∃ revision, revisionOfName layout entry.name = .ok revision := by
  obtain ⟨trace, hruns, -⟩ := hdoes
  have hfound := exists_runs_revisions_iff.mp ⟨trace, hruns⟩
  intro entry hentry hcandidate
  refine exists_revisionsAmong_iff.mp ⟨found, hfound.symm⟩ entry ?_
  rw [candidates_eq_filter]
  exact List.mem_filter.mpr ⟨hentry, hcandidate⟩

/-- What a search that succeeds has seen and found. -/
theorem searched_of_does
    (hdoes : Does healthy tree (previousRevision layout).run (.ok previous) after) :
    after = tree ∧ ∃ entries found, tree.list layout.resourcesDir = .ok entries ∧
      Does healthy tree (revisions layout entries).run (.ok found) tree ∧
        previous = secondGreatest found := by
  obtain ⟨entries, hlist, hsearch⟩ := Sync.does_file_bind_ok_iff.mp hdoes
  obtain ⟨found, between, hfound, hpure⟩ := Sync.does_bind_ok_iff.mp hsearch
  obtain ⟨rfl, -⟩ := does_of_isLog (Fallback.revisions_asks entries) hfound
  obtain ⟨hprevious, rfl⟩ := Sync.does_pure_iff.mp hpure
  cases hprevious
  exact ⟨rfl, entries, found, hlist, hfound, rfl⟩

/-- A search that sees the same candidates finds the same. -/
theorem does_of_searched {others : List DirEntry} {found : List Revision}
    (hfound : Does healthy tree (revisions layout entries).run (.ok found) tree)
    (hlist : other.list layout.resourcesDir = .ok others)
    (hsame : others.filter (isCandidate layout) = entries.filter (isCandidate layout)) :
    Does healthy other (previousRevision layout).run (.ok (secondGreatest found)) other := by
  refine Sync.does_file_bind_ok_iff.mpr ⟨others, hlist, ?_⟩
  have hothers : Does healthy other (revisions layout others).run (.ok found) other := by
    rw [← revisions_filter, hsame, revisions_filter]
    exact (does_of_isLog (Fallback.revisions_asks entries) hfound).2 other
  exact Sync.does_bind_ok_iff.mpr ⟨found, other, hothers, Sync.does_pure_iff.mpr ⟨rfl, rfl⟩⟩

/-- A search in which an operation fails is a search that fails. -/
theorem failed_of_breaks {call : FileCall} {fault : FileFault}
    {result : Except SyncFault (Option Revision)}
    (hbreaks : Breaks healthy tree (previousRevision layout).run call fault result after) :
    (∃ failure, result = .error failure) ∧ after = tree := by
  rw [previousRevision, Sync.breaks_file_bind_iff] at hbreaks
  rcases hbreaks with ⟨-, rfl, rfl⟩ | ⟨entries, -, hrest⟩
  · exact ⟨⟨_, rfl⟩, rfl⟩
  · have hsearch : Asks Request.IsLog (revisions layout entries).run :=
      Fallback.revisions_asks entries
    have hlogs := Sync.asks_bind hsearch fun found => Sync.asks_pure (secondGreatest found)
    obtain ⟨entry, hentry⟩ := allowed_of_breaks hlogs hrest
    cases hentry

end Archive

end RevisionGuard
