import RevisionGuard.Proofs.Monitor.Courses
import RevisionGuard.Proofs.Pointer.Ensured
import Mathlib.Tactic.Common

/-!
# Syncs on a host

What a sync of a monitor comes to on a host, with and without an operation that fails,
is put together from what its three parts come to: the read of the active manifest,
falling back, and the removal of the marker.
-/

namespace RevisionGuard

open Program RevisionGuard.Tree Fallback

namespace Monitor

variable {tree after : Tree} {monitor restored : Monitor} {now : Instant} {call : FileCall}
  {fault : FileFault} {ticked : Ticked} {healthy : Bool}

/-! ## The marker -/

/-- How a sync ends with the removal of the marker. -/
def cleared (monitor : Monitor) : Except SyncFault Bool → Ticked
  | .error failure => (.error failure, monitor)
  | .ok _ => (.ok .fellBack, monitor.afterFallback true)

theorem does_removeMarker_iff :
    Does healthy tree monitor.removeMarker ticked after ↔
      ticked = monitor.cleared (Sync.removal monitor.layout.selfMarker
          (tree.answer (.remove monitor.layout.selfMarker)).1) ∧
        after = (tree.answer (.remove monitor.layout.selfMarker)).2 := by
  have hrest : ∀ {result between},
      Does healthy between (match result with
        | .error fault => pure (.error fault, monitor)
        | .ok removed => do
          if removed then
            Program.log .info .monitor (Promotion.markerRemovedText monitor.layout)
          return (.ok .fellBack, monitor.afterFallback true)) ticked after ↔
        ticked = monitor.cleared result ∧ after = between := by
    intro result between
    rcases result with failure | (_ | _)
    · exact Tree.does_pure_iff
    · exact Tree.does_pure_iff
    · exact Tree.does_log_iff.trans Tree.does_pure_iff
  rw [removeMarker, Sync.removeIfExists_eq_answered, Tree.does_bind_iff]
  constructor
  · rintro ⟨result, between, hremove, hdoes⟩
    obtain ⟨rfl, rfl⟩ := Sync.does_answered_iff.mp hremove
    exact hrest.mp hdoes
  · intro hcleared
    exact ⟨_, _, Sync.does_answered_iff.mpr ⟨rfl, rfl⟩, hrest.mpr hcleared⟩

/-- A sync that falls back with success has not failed to remove the marker. -/
theorem removed_of_cleared {removal : Except SyncFault Bool}
    (hcleared : (.ok .fellBack, restored) = monitor.cleared removal) :
    ∃ removed, removal = .ok removed := by
  cases removal with
  | error failure => cases hcleared
  | ok removed => exact ⟨removed, rfl⟩

theorem breaks_removeMarker (hforeign : fault.IsForeign)
    (hbreaks : Breaks healthy tree monitor.removeMarker call fault ticked after) :
    call = .remove monitor.layout.selfMarker ∧
      ticked = (.error (.file monitor.layout.selfMarker fault), monitor) ∧ after = tree := by
  rw [removeMarker, Sync.removeIfExists_eq_answered] at hbreaks
  rcases Tree.breaks_bind_iff.mp hbreaks with
    ⟨middle, between, hremove, hrest⟩ | ⟨middle, between, -, hrest⟩
  · obtain ⟨rfl, rfl, rfl⟩ := Sync.breaks_answered_iff.mp hremove
    simp only [Sync.removal, hforeign.notMissing] at hrest
    obtain ⟨rfl, rfl⟩ := Tree.does_pure_iff.mp hrest
    exact ⟨rfl, rfl, rfl⟩
  · -- behind the removal there is at most a log entry
    rcases middle with failure | (_ | _)
    · exact absurd hrest not_breaks_done
    · exact absurd hrest not_breaks_done
    · exact absurd (Tree.breaks_log_iff.mp hrest) not_breaks_done

/-! ## Falling back -/

theorem does_fallBack_iff :
    Does healthy tree monitor.fallBack ticked after ↔
      ∃ result between,
        Does healthy tree (Fallback.run monitor.layout monitor.revision).run result between ∧
          Does healthy between (monitor.conclude result) ticked after := by
  rw [fallBack_eq]
  exact Tree.does_log_iff.trans Tree.does_bind_iff

/-- If an operation fails in falling back, either the fallback has failed, or a
manifest has been restored and the operation is the removal of the marker. -/
theorem breaks_fallBack
    (hfails : ∀ {result between},
      Breaks healthy tree (Fallback.run monitor.layout monitor.revision).run call fault result
        between → ∃ failure, result = .error failure)
    (hbreaks : Breaks healthy tree monitor.fallBack call fault ticked after) :
    (∃ failure,
        Breaks healthy tree (Fallback.run monitor.layout monitor.revision).run call fault
          (.error failure) after ∧ ticked = (.error failure, monitor)) ∨
      ∃ other between,
        Does healthy tree (Fallback.run monitor.layout monitor.revision).run
          (.ok (.restored other)) between ∧
        Breaks healthy between (monitor.afterFallback false).removeMarker call fault ticked
          after := by
  rw [fallBack_eq, Tree.breaks_log_iff, Tree.breaks_bind_iff] at hbreaks
  rcases hbreaks with ⟨result, between, hfallback, hrest⟩ | ⟨result, between, hfallback, hrest⟩
  · obtain ⟨failure, rfl⟩ := hfails hfallback
    obtain ⟨rfl, rfl⟩ := Tree.does_pure_iff.mp hrest
    exact Or.inl ⟨failure, hfallback, rfl⟩
  · match result with
    | .error failure => exact absurd hrest not_breaks_done
    | .ok .noCandidate => exact absurd hrest not_breaks_done
    | .ok (.restored other) => exact Or.inr ⟨other, between, hfallback, hrest⟩

/-! ## Watching -/

theorem does_watch_iff :
    Does healthy tree (monitor.watch now) ticked after ↔
      Does healthy tree
        (monitor.observe now (sighting monitor.layout (tree.read monitor.layout.activeManifest)))
        ticked after := by
  rw [watch_eq, Tree.does_bind_iff]
  constructor
  · rintro ⟨result, between, hread, hrest⟩
    obtain ⟨rfl, rfl⟩ := Sync.does_answered_iff.mp hread
    exact hrest
  · intro hrest
    exact ⟨_, tree, Sync.does_answered_iff.mpr ⟨rfl, rfl⟩, hrest⟩

theorem breaks_watch (hbreaks : Breaks healthy tree (monitor.watch now) call fault ticked after) :
    (call = .read monitor.layout.activeManifest ∧ (∃ failure, ticked = (.error failure, monitor)) ∧
        after = tree) ∨
      Breaks healthy tree
        (monitor.observe now (sighting monitor.layout (tree.read monitor.layout.activeManifest)))
        call fault ticked after := by
  rw [watch_eq, Tree.breaks_bind_iff] at hbreaks
  rcases hbreaks with ⟨result, between, hread, hrest⟩ | ⟨result, between, hread, hrest⟩
  · obtain ⟨rfl, rfl, rfl⟩ := Sync.breaks_answered_iff.mp hread
    obtain ⟨rfl, rfl⟩ := Tree.does_pure_iff.mp hrest
    exact Or.inl ⟨rfl, ⟨_, rfl⟩, rfl⟩
  · obtain ⟨rfl, rfl⟩ := Sync.does_answered_iff.mp hread
    exact Or.inr hrest

/-- Behind the grace period of an unhealthy target a sync falls back. -/
theorem observe_eq (hexpired : monitor.isExpired (monitor.startedAt.getD now) now = true) :
    monitor.observe now (.ok monitor.revision) =
      .ask .probe fun healthy =>
        if healthy then (monitor.begun now).retire else (monitor.begun now).fallBack := by
  simp only [observe, ne_eq, not_true_eq_false, if_false, hexpired, if_true]

/-- A sync that falls back with success has read the watched revision behind the
grace period. -/
theorem seen_of_fellBack
    (hdoes : Does false tree (monitor.watch now) (.ok .fellBack, restored) after) :
    ∃ seen, tree.read monitor.layout.activeManifest = .ok seen ∧
      sighting monitor.layout (.ok seen) = .ok monitor.revision ∧
      monitor.isExpired (monitor.startedAt.getD now) now = true ∧
      Does false tree (monitor.begun now).fallBack (.ok .fellBack, restored) after := by
  have hobserve := does_watch_iff.mp hdoes
  cases hseen : tree.read monitor.layout.activeManifest with
  | error fault =>
      rw [hseen] at hobserve
      cases (Tree.does_pure_iff.mp hobserve).1
  | ok seen =>
      rw [hseen] at hobserve
      cases hsighting : sighting monitor.layout (.ok seen) with
      | error failure =>
          rw [hsighting] at hobserve
          cases (Tree.does_pure_iff.mp hobserve).1
      | ok observed =>
          rw [hsighting] at hobserve
          by_cases hsame : observed = monitor.revision
          · subst hsame
            by_cases hexpired : monitor.isExpired (monitor.startedAt.getD now) now = true
            · rw [observe_eq hexpired, Tree.does_probe_iff] at hobserve
              exact ⟨seen, rfl, hsighting, hexpired, hobserve⟩
            · simp only [observe, ne_eq, not_true_eq_false, if_false, hexpired] at hobserve
              rw [Tree.does_probe_iff] at hobserve
              cases (Tree.does_done_iff.mp hobserve).1
          · simp only [observe, ne_eq, hsame, not_false_eq_true, if_true] at hobserve
            rw [Tree.does_log_iff] at hobserve
            cases (Tree.does_done_iff.mp hobserve).1

end Monitor

end RevisionGuard
