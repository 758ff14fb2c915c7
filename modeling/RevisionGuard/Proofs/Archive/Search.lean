import RevisionGuard.Proofs.Sync.Traces
import RevisionGuard.Sync.Archive
import Mathlib.Data.List.Perm.Basic
import Mathlib.Tactic.Common

/-!
# What a search of the archive comes to

A search is given a listing of the resources directory, and everything else that it
exchanges are log entries.  So it comes to one result for each listing
(`Archive.finds_iff`): the names of the candidates are read one after the other, the
first that cannot be read ends the search, and of the revisions that were read the
second greatest is the result (`Archive.revisionsAmong`, `Archive.secondGreatest`).

The search succeeds if every candidate can be read, whatever their order
(`Archive.exists_revisionsAmong_iff`), and in another order the same revisions are
read (`Archive.revisionsAmong_perm`).
-/

namespace RevisionGuard

open Program

namespace Archive

variable {layout : Layout} {entries others : List DirEntry} {trace : List Exchange}
  {revisions : List Revision}

/-! ## Names that are read one after the other -/

section Readings

variable {α β ε : Type} {read : α → Except ε β} {items : List α} {values : List β}

theorem mapM_cons_eq_ok_iff {item : α} :
    (item :: items).mapM read = .ok values ↔
      ∃ value others, read item = .ok value ∧ items.mapM read = .ok others ∧
        values = value :: others := by
  rw [List.mapM_cons]
  constructor
  · intro hvalues
    cases hitem : read item with
    | error fault =>
        rw [hitem] at hvalues
        cases hvalues
    | ok value =>
        cases hitems : items.mapM read with
        | error fault =>
            rw [hitem, hitems] at hvalues
            cases hvalues
        | ok others =>
            rw [hitem, hitems] at hvalues
            exact ⟨value, others, rfl, rfl, (Except.ok.inj hvalues).symm⟩
  · rintro ⟨value, others, hitem, hitems, rfl⟩
    rw [hitem, hitems]
    rfl

/-- What has been read of a list are the values of its items, in their order. -/
theorem mapM_eq_ok_iff :
    items.mapM read = .ok values ↔
      List.Forall₂ (fun item value => read item = .ok value) items values := by
  induction items generalizing values with
  | nil =>
      rw [List.mapM_nil, List.forall₂_nil_left_iff]
      exact ⟨fun hvalues => (Except.ok.inj hvalues).symm, fun hvalues => by rw [hvalues]; rfl⟩
  | cons item items ih =>
      rw [mapM_cons_eq_ok_iff, List.forall₂_cons_left_iff]
      simp only [ih]

/-- A list can be read if each of its items can be read. -/
theorem exists_mapM_eq_ok_iff :
    (∃ values, items.mapM read = .ok values) ↔ ∀ item ∈ items, ∃ value, read item = .ok value := by
  simp only [mapM_eq_ok_iff]
  induction items with
  | nil => simp
  | cons item items ih =>
      rw [List.forall_mem_cons, ← ih]
      constructor
      · rintro ⟨_, _ | ⟨hitem, hitems⟩⟩
        exact ⟨⟨_, hitem⟩, _, hitems⟩
      · rintro ⟨⟨value, hitem⟩, values, hitems⟩
        exact ⟨value :: values, .cons hitem hitems⟩

end Readings

/-- The directories of a listing whose names start with the target. -/
def candidates (layout : Layout) (entries : List DirEntry) : List DirEntry :=
  entries.filter fun entry => entry.isDir = true ∧ layout.target.toList <+: entry.name.toList

theorem candidates_eq_filter (layout : Layout) (entries : List DirEntry) :
    candidates layout entries = entries.filter (isCandidate layout) := by
  refine List.filter_congr fun entry _ => ?_
  rw [Bool.eq_iff_iff, decide_eq_true_iff, isCandidate_iff]

theorem mem_candidates_iff {entry : DirEntry} :
    entry ∈ candidates layout entries ↔ entry ∈ entries ∧ entry.isDir = true ∧
      layout.target.toList <+: entry.name.toList := by
  rw [candidates, List.mem_filter, decide_eq_true_iff]

/-- The revisions among the entries of a directory: the names of the candidates are read
one after the other. -/
def revisionsAmong (layout : Layout) (entries : List DirEntry) : Except SyncFault (List Revision) :=
  (candidates layout entries).mapM fun entry => revisionOfName layout entry.name

theorem revisionsAmong_cons_of_not_candidate {entry : DirEntry}
    (hcandidate : isCandidate layout entry = false) :
    revisionsAmong layout (entry :: entries) = revisionsAmong layout entries := by
  unfold revisionsAmong
  rw [candidates_eq_filter, List.filter_cons_of_neg (by simp [hcandidate]), candidates_eq_filter]

theorem revisionsAmong_cons_of_candidate {entry : DirEntry}
    (hcandidate : isCandidate layout entry = true) :
    revisionsAmong layout (entry :: entries) =
      match revisionOfName layout entry.name with
      | .ok revision => (revisionsAmong layout entries).map (revision :: ·)
      | .error fault => .error fault := by
  unfold revisionsAmong
  rw [candidates_eq_filter, List.filter_cons_of_pos hcandidate, List.mapM_cons,
    ← candidates_eq_filter]
  cases revisionOfName layout entry.name with
  | error fault => rfl
  | ok revision =>
      cases (candidates layout entries).mapM fun entry => revisionOfName layout entry.name with
      | error fault => rfl
      | ok others => rfl

/-- The entries of a directory can be read if each candidate has the name of a revision. -/
theorem exists_revisionsAmong_iff :
    (∃ revisions, revisionsAmong layout entries = .ok revisions) ↔
      ∀ entry ∈ candidates layout entries,
        ∃ revision, revisionOfName layout entry.name = .ok revision :=
  exists_mapM_eq_ok_iff

/-- In another order the same revisions are read. -/
theorem revisionsAmong_perm (hperm : others.Perm entries)
    (hrevisions : revisionsAmong layout entries = .ok revisions) :
    ∃ found, revisionsAmong layout others = .ok found ∧ found.Perm revisions := by
  have hcandidates : (candidates layout others).Perm (candidates layout entries) :=
    hperm.filter _
  obtain ⟨found, hothers, hfound⟩ :=
    List.perm_comp_forall₂ hcandidates (mapM_eq_ok_iff.mp hrevisions)
  exact ⟨found, mapM_eq_ok_iff.mpr hothers, hfound⟩

/-! ## The search -/

/-- What a computation comes to that logs first is what it comes to without. -/
theorem exists_runs_log_bind_iff {α : Type} {level : LogLevel} {source : LogSource}
    {text : String} {next : Unit → Sync α} {result : Except SyncFault α} :
    (∃ trace, Runs (Sync.log level source text >>= next).run trace result) ↔
      ∃ trace, Runs (next ()).run trace result := by
  constructor
  · rintro ⟨trace, hruns⟩
    obtain ⟨rest, -, hrest⟩ := Sync.runs_log_bind_iff.mp hruns
    exact ⟨rest, hrest⟩
  · rintro ⟨rest, hrest⟩
    exact ⟨_, Sync.runs_log_bind_iff.mpr ⟨rest, rfl, hrest⟩⟩

/-- What a computation comes to that maps the result of another. -/
theorem exists_runs_map_iff {α β : Type} {first : Sync α} {change : α → β}
    {settled : Except SyncFault α} {result : Except SyncFault β}
    (hfirst : ∀ middle, (∃ trace, Runs first.run trace middle) ↔ middle = settled) :
    (∃ trace, Runs (first >>= fun value => pure (change value)).run trace result) ↔
      result = settled.map change := by
  obtain ⟨settling, hsettled⟩ := (hfirst settled).mpr rfl
  constructor
  · rintro ⟨trace, hruns⟩
    rcases Sync.runs_bind_iff.mp hruns with
      ⟨fault, hfault, rfl⟩ | ⟨value, front, back, rfl, hvalue, hpure⟩
    · rw [← (hfirst _).mp ⟨trace, hfault⟩]
      rfl
    · rw [← (hfirst _).mp ⟨front, hvalue⟩]
      exact (Sync.runs_pure_iff.mp hpure).2
  · rintro rfl
    refine ⟨settling, Sync.runs_bind_iff.mpr ?_⟩
    cases settled with
    | error fault => exact Or.inl ⟨fault, hsettled, rfl⟩
    | ok value =>
        refine Or.inr ⟨value, settling, [], (List.append_nil _).symm, hsettled, ?_⟩
        exact Sync.runs_pure_iff.mpr ⟨rfl, rfl⟩

/-- The names are read as `revisionsAmong` says, and nothing but logging comes between. -/
theorem exists_runs_revisions_iff {result : Except SyncFault (List Revision)} :
    (∃ trace, Runs (Archive.revisions layout entries).run trace result) ↔
      result = revisionsAmong layout entries := by
  induction entries generalizing result with
  | nil =>
      simp only [Archive.revisions, Sync.runs_pure_iff, exists_eq_left]
      rfl
  | cons entry entries ih =>
      cases hcandidate : isCandidate layout entry with
      | false =>
          rw [Archive.revisions, if_neg (by simp [hcandidate]),
            revisionsAmong_cons_of_not_candidate hcandidate]
          exact ih
      | true =>
          rw [Archive.revisions, if_pos hcandidate, revisionsAmong_cons_of_candidate hcandidate,
            exists_runs_log_bind_iff]
          cases revisionOfName layout entry.name with
          | error fault =>
              change (∃ trace, Runs (throw fault : Sync (List Revision)).run trace result) ↔ _
              simp only [Sync.runs_throw_iff, exists_eq_left]
          | ok revision =>
              exact exists_runs_map_iff fun middle => ih

/-- A search that is given a listing of the resources directory comes to a result. -/
def Finds (layout : Layout) (entries : List DirEntry)
    (result : Except SyncFault (Option Revision)) : Prop :=
  ∃ logs, Runs (previousRevision layout).run
    (⟨.file (.list layout.resourcesDir), .ok entries⟩ :: logs) result

/-- For each listing a search comes to one result: the second greatest of the revisions
that were read, or the failure to read one. -/
theorem finds_iff {result : Except SyncFault (Option Revision)} :
    Finds layout entries result ↔
      result = (revisionsAmong layout entries).map secondGreatest := by
  rw [← exists_runs_map_iff fun middle => exists_runs_revisions_iff]
  unfold Finds previousRevision
  simp only [Sync.file_eq_answered, Sync.runs_answered_bind_iff]
  constructor
  · rintro ⟨logs, answer, rest, htrace, hrest⟩
    obtain ⟨hanswer, rfl⟩ := List.cons.inj htrace
    cases hanswer
    exact ⟨logs, hrest⟩
  · rintro ⟨rest, hrest⟩
    exact ⟨rest, .ok entries, rest, rfl, hrest⟩

end Archive

end RevisionGuard
