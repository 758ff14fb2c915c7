import RevisionGuard.Proofs.Archive.Search
import RevisionGuard.Proofs.Text.Numeral
import RevisionGuard.Proofs.Text.Split

/-!
# Which names are read as a revision's

The directory of a revision has a name that starts with the prefix of the target and goes
on with a numeral.  The search finds the prefix by splitting, so it also reads names in
which something stands in front of the prefix: the prefix must be met once, and a numeral
must follow it to the end (`Archive.Reads`).  Of these names the ones with nothing in front
are the target's own (`Archive.Reads.own_iff`).  Among the others are those of every target
whose name ends in this one's and does not hold its prefix
(`Archive.reads_revisionDirName_iff`), such as `kube-kube-pod-9` for the target `kube`; if
they start with this target too, they count for the search (`Archive.names_of_search`).
-/

namespace RevisionGuard

namespace Archive

variable {layout : Layout} {entries : List DirEntry} {name : String} {front : List Char}
  {revision : Revision}

/-- The prefix of a target ends in a dash. -/
theorem toList_revisionDirPrefix (layout : Layout) :
    layout.revisionDirPrefix.toList = (layout.target ++ "-pod").toList ++ ['-'] := by
  unfold Layout.revisionDirPrefix
  rw [String.toList_append, String.toList_append, List.append_assoc]
  rfl

theorem dash_mem_revisionDirPrefix (layout : Layout) :
    '-' ∈ layout.revisionDirPrefix.toList := by
  rw [toList_revisionDirPrefix]
  exact List.mem_append_right _ (List.mem_singleton_self _)

theorem revisionDirPrefix_ne_nil (layout : Layout) : layout.revisionDirPrefix.toList ≠ [] :=
  List.ne_nil_of_mem (dash_mem_revisionDirPrefix layout)

/-- A name is read as a revision's: the prefix of the target is first met behind a front,
and a numeral of the revision follows it to the end. -/
def Reads (layout : Layout) (name : String) (front : List Char) (revision : Revision) : Prop :=
  ∃ numeral : String,
    Split.Cuts layout.revisionDirPrefix.toList name.toList front numeral.toList ∧
      Numeral.parse numeral = .ok revision

/-- A name is exactly the prefix of the target and a numeral. -/
def IsOwnName (layout : Layout) (name : String) : Prop :=
  ∃ numeral revision, name = layout.revisionDirPrefix ++ numeral ∧
    Numeral.parse numeral = .ok revision

theorem revisionOfName_eq_ok_iff :
    revisionOfName layout name = .ok revision ↔ ∃ front, Reads layout name front revision := by
  have hprefix := revisionDirPrefix_ne_nil layout
  constructor
  · intro hok
    unfold revisionOfName at hok
    split at hok
    · next front letters hpieces =>
        obtain ⟨hcuts, -⟩ := (Split.pieces_eq_pair_iff hprefix).mp hpieces
        refine ⟨front, String.ofList letters, by rwa [String.toList_ofList], ?_⟩
        cases hparse : Numeral.parse (String.ofList letters) with
        | error fault =>
            rw [hparse] at hok
            cases hok
        | ok value =>
            rw [hparse] at hok
            cases hok
            rfl
    · cases hok
  · rintro ⟨front, numeral, hcuts, hparse⟩
    -- the numeral holds no dash, so the prefix is not met again
    have hnone : ¬ layout.revisionDirPrefix.toList <:+: numeral.toList := by
      intro hoccurs
      exact (Numeral.parse_eq_ok_iff.mp hparse).dash_notMem
        (hoccurs.subset (dash_mem_revisionDirPrefix layout))
    have hpieces := (Split.pieces_eq_pair_iff hprefix).mpr ⟨hcuts, hnone⟩
    unfold revisionOfName
    rw [hpieces]
    dsimp only
    rw [String.ofList_toList, hparse]

/-- A name that is read as a revision's is the target's own if nothing stands in front of
the prefix. -/
theorem Reads.own_iff (hreads : Reads layout name front revision) :
    IsOwnName layout name ↔ front = [] := by
  obtain ⟨numeral, hcuts, hparse⟩ := hreads
  constructor
  · rintro ⟨other, _, rfl, -⟩
    rw [hcuts.front_eq_nil_iff, String.toList_append]
    exact List.prefix_append _ _
  · intro hfront
    refine ⟨numeral, revision, ?_, hparse⟩
    apply String.toList_inj.mp
    rw [String.toList_append, hcuts.eq, hfront, List.nil_append]

/-- The names of a target's own directories are read. -/
theorem reads_revisionDirName (layout : Layout) (revision : Revision) :
    Reads layout (layout.revisionDirName revision) [] revision := by
  refine ⟨revision.text, ?_, Numeral.parse_text revision⟩
  rw [Layout.revisionDirName, String.toList_append]
  exact Split.cuts_at_once _ _

/-- A text has one last dash. -/
theorem last_dash_unique {front other back last : List Char} (hback : '-' ∉ back)
    (hlast : '-' ∉ last) (heq : front ++ '-' :: back = other ++ '-' :: last) : back = last := by
  rcases List.append_eq_append_iff.mp heq with ⟨between, -, hends⟩ | ⟨between, -, hends⟩
  · rcases List.cons_eq_append_iff.mp hends with ⟨rfl, hends⟩ | ⟨later, -, rfl⟩
    · exact (List.cons.inj hends).2
    · exact absurd (List.mem_append_right later (List.mem_cons_self)) hback
  · rcases List.cons_eq_append_iff.mp hends with ⟨rfl, hends⟩ | ⟨later, -, rfl⟩
    · exact (List.cons.inj hends).2.symm
    · exact absurd (List.mem_append_right later (List.mem_cons_self)) hlast

/-- The directory of another target's revision is read if the prefix of this target is
first met at the end of the other's, and then as the same revision. -/
theorem reads_revisionDirName_iff {other : Layout} {result : Revision} :
    Reads layout (other.revisionDirName revision) front result ↔
      Split.Cuts layout.revisionDirPrefix.toList other.revisionDirPrefix.toList front [] ∧
        revision = result := by
  unfold Reads
  rw [Layout.revisionDirName, String.toList_append]
  constructor
  · rintro ⟨numeral, hcuts, hparse⟩
    -- no dash follows the prefix of either target, so both end at the last one
    have heq : (front ++ (layout.target ++ "-pod").toList) ++ '-' :: numeral.toList =
        (other.target ++ "-pod").toList ++ '-' :: revision.text.toList := by
      have hname := hcuts.eq.symm
      simpa only [toList_revisionDirPrefix, List.append_assoc, List.singleton_append] using hname
    have hnumeral := last_dash_unique (Numeral.parse_eq_ok_iff.mp hparse).dash_notMem
      (Numeral.denotes_text revision).dash_notMem heq
    obtain rfl := String.toList_inj.mp hnumeral
    refine ⟨Split.cuts_append_iff.mp hcuts, ?_⟩
    rw [Numeral.parse_text] at hparse
    exact Except.ok.inj hparse
  · rintro ⟨hcuts, rfl⟩
    exact ⟨revision.text, Split.cuts_append_iff.mpr hcuts, Numeral.parse_text revision⟩

/-! ## What a search counts -/

/-- The directories that a search takes for the target's are read, one after the other, as
these revisions behind these fronts. -/
def Counts (layout : Layout) (entries : List DirEntry) (readings : List (List Char × Revision)) :
    Prop :=
  List.Forall₂ (fun entry reading => Reads layout entry.name reading.1 reading.2)
    (candidates layout entries) readings

theorem revisionsAmong_eq_ok_iff {revisions : List Revision} :
    revisionsAmong layout entries = .ok revisions ↔
      ∃ readings, Counts layout entries readings ∧ readings.map Prod.snd = revisions := by
  unfold revisionsAmong Counts
  rw [mapM_eq_ok_iff]
  simp only [revisionOfName_eq_ok_iff]
  generalize candidates layout entries = directories
  constructor
  · intro hreads
    induction hreads with
    | nil => exact ⟨[], .nil, rfl⟩
    | cons hread _ ih =>
        obtain ⟨front, hfront⟩ := hread
        obtain ⟨readings, hreadings, rfl⟩ := ih
        exact ⟨(front, _) :: readings, .cons hfront hreadings, rfl⟩
  · rintro ⟨readings, hreadings, rfl⟩
    rw [List.forall₂_map_right_iff]
    exact hreadings.imp fun entry reading hreads => ⟨reading.1, hreads⟩

theorem forall_own_iff {directories : List DirEntry} {readings : List (List Char × Revision)}
    (hreads : List.Forall₂ (fun entry reading => Reads layout entry.name reading.1 reading.2)
      directories readings) :
    (∀ entry ∈ directories, IsOwnName layout entry.name) ↔ ∀ reading ∈ readings, reading.1 = [] := by
  induction hreads with
  | nil => simp
  | cons hread _ ih => rw [List.forall_mem_cons, List.forall_mem_cons, hread.own_iff, ih]

/-- Every directory counted is the target's own if nothing stands in front of a prefix. -/
theorem Counts.own_iff {readings : List (List Char × Revision)}
    (hcounts : Counts layout entries readings) :
    (∀ entry ∈ entries, entry.isDir = true → layout.target.toList <+: entry.name.toList →
      IsOwnName layout entry.name) ↔ ∀ reading ∈ readings, reading.1 = [] := by
  rw [← forall_own_iff hcounts]
  simp only [mem_candidates_iff, and_imp]

/-- A search of the archive succeeds if every directory whose name starts with the target
is read as a revision's, and it finds the second greatest of the revisions that were read.
The target's own directories are not the only ones that are counted: whatever stands in
front of the prefix is passed over, and so the directories of another target are read as
revisions of this one wherever the prefix of this target is first met at the end of the
other's. -/
theorem names_of_search (layout : Layout) (entries : List DirEntry) :
    (∀ previous, Finds layout entries (.ok previous) ↔
      ∃ readings, Counts layout entries readings ∧
        previous = secondGreatest (readings.map Prod.snd)) ∧
    (∀ readings, Counts layout entries readings →
      ((∀ entry ∈ entries, entry.isDir = true → layout.target.toList <+: entry.name.toList →
        IsOwnName layout entry.name) ↔ ∀ reading ∈ readings, reading.1 = [])) ∧
    (∀ (other : Layout) front revision result,
      Reads layout (other.revisionDirName revision) front result ↔
        Split.Cuts layout.revisionDirPrefix.toList other.revisionDirPrefix.toList front [] ∧
          revision = result) := by
  refine ⟨?_, fun readings hcounts => hcounts.own_iff, ?_⟩
  · intro previous
    rw [finds_iff]
    constructor
    · intro hfinds
      cases hrevisions : revisionsAmong layout entries with
      | error fault =>
          rw [hrevisions] at hfinds
          cases hfinds
      | ok revisions =>
          rw [hrevisions] at hfinds
          obtain ⟨readings, hcounts, rfl⟩ := revisionsAmong_eq_ok_iff.mp hrevisions
          exact ⟨readings, hcounts, Except.ok.inj hfinds⟩
    · rintro ⟨readings, hcounts, rfl⟩
      rw [revisionsAmong_eq_ok_iff.mpr ⟨readings, hcounts, rfl⟩]
      rfl
  · intro other front revision result
    exact reads_revisionDirName_iff

/-- The directory `kube-kube-pod-9` counts as one of the target `kube`, so that revision 7
is taken for the one before the newest. -/
theorem names_of_search_rehearsed :
    let layout : Layout := ⟨"kube", ⟨"/manifests"⟩, ⟨"/resources"⟩⟩
    Finds layout [⟨"kube-kube-pod-9", true⟩, ⟨"kube-pod-7", true⟩] (.ok (some 7)) ∧
      ¬ IsOwnName layout "kube-kube-pod-9" := by
  intro layout
  have hnine : revisionOfName layout "kube-kube-pod-9" = .ok 9 := by decide +kernel
  have hseven : revisionOfName layout "kube-pod-7" = .ok 7 := by decide +kernel
  obtain ⟨front, hfront⟩ := revisionOfName_eq_ok_iff.mp hnine
  obtain ⟨none, hnone⟩ := revisionOfName_eq_ok_iff.mp hseven
  have hcandidates : candidates layout [⟨"kube-kube-pod-9", true⟩, ⟨"kube-pod-7", true⟩] =
      [⟨"kube-kube-pod-9", true⟩, ⟨"kube-pod-7", true⟩] := by decide +kernel
  have hsecond : some 7 = secondGreatest [9, 7] := by
    rw [secondGreatest, List.mergeSort_of_pairwise (by decide)]
    rfl
  refine ⟨((names_of_search layout _).1 _).mpr ⟨[(front, 9), (none, 7)], ?_, hsecond⟩, ?_⟩
  · unfold Counts
    rw [hcandidates]
    exact .cons hfront (.cons hnone .nil)
  · rintro ⟨numeral, _, hname, -⟩
    have hprefix : layout.revisionDirPrefix.toList <+: "kube-kube-pod-9".toList := by
      rw [hname, String.toList_append]
      exact List.prefix_append _ _
    exact absurd hprefix (by decide +kernel)

end Archive

end RevisionGuard
