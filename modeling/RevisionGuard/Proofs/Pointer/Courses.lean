import RevisionGuard.Proofs.Sync.Courses
import Mathlib.Tactic.Common

/-!
# The courses of making sure of the pointer

What a fallback and the world can exchange until the pointer is there, as a list of
cases (`Fallback.Ensuring`).  A pointer that leads somewhere is left as it is.  Where
there is none, the archive is searched, and the previous revision becomes the last
known good one if it has a manifest (`Fallback.Adopting`).
-/

namespace RevisionGuard

open Program

variable {layout : Layout} {trace : List Exchange}

namespace Fallback

/-- What adopting a revision can exchange, with the result. -/
inductive Adopting (layout : Layout) (previous : Revision) :
    List Exchange → Except SyncFault Bool → Prop where
  /-- The look at the manifest fails, or a directory is in its place. -/
  | unseen {answer : Except FileFault Bool} {fault : SyncFault}
      (hpresence : Sync.presence (layout.revisionedManifest previous) answer = .error fault) :
      Adopting layout previous
        [⟨.file (.stat (layout.revisionedManifest previous)), answer⟩] (.error fault)
  /-- The revision has no manifest. -/
  | missing {answer : Except FileFault Bool} {entry : LogEntry}
      (hpresence : Sync.presence (layout.revisionedManifest previous) answer = .ok false) :
      Adopting layout previous
        [⟨.file (.stat (layout.revisionedManifest previous)), answer⟩, ⟨.log entry, ()⟩] (.ok false)
  /-- The pointer is made to lead to the manifest, or that fails. -/
  | linked {answer : Except FileFault Bool} {link : List Exchange} {result : Except SyncFault Unit}
      (hpresence : Sync.presence (layout.revisionedManifest previous) answer = .ok true)
      (hlink : Runs (Promotion.createLastKnownGood layout previous false).run link result) :
      Adopting layout previous
        (⟨.file (.stat (layout.revisionedManifest previous)), answer⟩ :: link)
        (result.map fun _ => true)

theorem adopting_of_runs {previous : Revision} {result : Except SyncFault Bool}
    (hruns : Runs (adopt layout previous).run trace result) :
    Adopting layout previous trace result := by
  simp only [adopt, Sync.fileExists_eq_answered] at hruns
  obtain ⟨answer, rest, rfl, hrest⟩ := Sync.runs_answered_bind_iff.mp hruns
  rcases hpresence : Sync.presence (layout.revisionedManifest previous) answer with
    fault | (_ | _)
  · rw [hpresence] at hrest
    obtain ⟨rfl, rfl⟩ := hrest
    exact .unseen hpresence
  · rw [hpresence] at hrest
    obtain ⟨_, rfl, hdone⟩ := Sync.runs_log_bind_iff.mp hrest
    obtain ⟨rfl, rfl⟩ := Sync.runs_pure_iff.mp hdone
    exact .missing hpresence
  · rw [hpresence] at hrest
    rcases Sync.runs_bind_iff.mp hrest with ⟨fault, hlink, rfl⟩ | ⟨_, link, _, rfl, hlink, hdone⟩
    · exact .linked hpresence hlink
    · obtain ⟨rfl, rfl⟩ := Sync.runs_pure_iff.mp hdone
      rw [List.append_nil]
      exact .linked hpresence hlink

/-- What making sure of the pointer can exchange, with the result. -/
inductive Ensuring (layout : Layout) : List Exchange → Except SyncFault Bool → Prop where
  /-- The look at the pointer fails, or a directory is in its place. -/
  | unseen {answer : Except FileFault Bool} {fault : SyncFault}
      (hpresence : Sync.presence layout.lastKnownGood answer = .error fault) :
      Ensuring layout [⟨.file (.stat layout.lastKnownGood), answer⟩] (.error fault)
  /-- The pointer is there. -/
  | present {answer : Except FileFault Bool}
      (hpresence : Sync.presence layout.lastKnownGood answer = .ok true) :
      Ensuring layout [⟨.file (.stat layout.lastKnownGood), answer⟩] (.ok true)
  /-- The archive cannot be searched. -/
  | unsearched {answer : Except FileFault Bool} {search : List Exchange} {fault : SyncFault}
      (hpresence : Sync.presence layout.lastKnownGood answer = .ok false)
      (hsearch : Runs (Archive.previousRevision layout).run search (.error fault)) :
      Ensuring layout (⟨.file (.stat layout.lastKnownGood), answer⟩ :: search) (.error fault)
  /-- There is no previous revision. -/
  | unmatched {answer : Except FileFault Bool} {search : List Exchange} {entry : LogEntry}
      (hpresence : Sync.presence layout.lastKnownGood answer = .ok false)
      (hsearch : Runs (Archive.previousRevision layout).run search (.ok none)) :
      Ensuring layout
        (⟨.file (.stat layout.lastKnownGood), answer⟩ :: (search ++ [⟨.log entry, ()⟩])) (.ok false)
  /-- The previous revision is adopted. -/
  | adopted {answer : Except FileFault Bool} {search logs rest : List Exchange}
      {previous : Revision} {result : Except SyncFault Bool}
      (hpresence : Sync.presence layout.lastKnownGood answer = .ok false)
      (hsearch : Runs (Archive.previousRevision layout).run search (.ok (some previous)))
      (hlogs : ∀ exchange ∈ logs, exchange.IsLog)
      (hadopting : Adopting layout previous rest result) :
      Ensuring layout
        (⟨.file (.stat layout.lastKnownGood), answer⟩ :: (search ++ (logs ++ rest))) result

theorem ensuring_of_runs {failed : Revision} {result : Except SyncFault Bool}
    (hruns : Runs (ensurePointer layout failed).run trace result) :
    Ensuring layout trace result := by
  simp only [ensurePointer, Sync.fileExists_eq_answered] at hruns
  obtain ⟨answer, rest, rfl, hrest⟩ := Sync.runs_answered_bind_iff.mp hruns
  rcases hpresence : Sync.presence layout.lastKnownGood answer with fault | (_ | _)
  · rw [hpresence] at hrest
    obtain ⟨rfl, rfl⟩ := hrest
    exact .unseen hpresence
  · rw [hpresence] at hrest
    rcases Sync.runs_bind_iff.mp hrest with
      ⟨fault, hsearch, rfl⟩ | ⟨previous, search, behind, rfl, hsearch, hbehind⟩
    · exact .unsearched hpresence hsearch
    cases previous with
    | none =>
        obtain ⟨_, rfl, hdone⟩ := Sync.runs_log_bind_iff.mp hbehind
        obtain ⟨rfl, rfl⟩ := Sync.runs_pure_iff.mp hdone
        exact .unmatched hpresence hsearch
    | some previous =>
        -- a revision that is not older is adopted all the same, with a warning
        by_cases holder : failed ≤ previous
        · simp only [if_pos holder] at hbehind
          obtain ⟨rest, rfl, hadopt⟩ := Sync.runs_log_bind_iff.mp hbehind
          exact .adopted hpresence hsearch (List.forall_mem_singleton.mpr ⟨_, rfl⟩)
            (adopting_of_runs hadopt)
        · simp only [if_neg holder] at hbehind
          exact .adopted hpresence hsearch (List.forall_mem_nil _) (adopting_of_runs hbehind)
  · rw [hpresence] at hrest
    obtain ⟨rfl, rfl⟩ := Sync.runs_pure_iff.mp hrest
    exact .present hpresence

end Fallback

end RevisionGuard
