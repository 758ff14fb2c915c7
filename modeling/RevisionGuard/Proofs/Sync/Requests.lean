import RevisionGuard.Proofs.Sync.Traces
import RevisionGuard.Sync.Fallback
import Mathlib.Tactic.Common

/-!
# What promoting and falling back ask for

`Promotion.Links` lists the requests by which the pointer is made, and
`Fallback.Prepares` those by which a fallback finds its candidate.  Neither list
holds a write, a probe or anything that touches the active manifest, so the
active manifest is in the hands of `Fallback.publish` alone, whose requests are in
`Fallback.Publishes`.
-/

namespace RevisionGuard

open Program

variable {layout : Layout} {revision : Revision}

namespace Promotion

/-- The requests that make the pointer lead to a revision. -/
inductive Links (layout : Layout) (revision : Revision) : Request → Prop where
  | log (entry : LogEntry) : Links layout revision (.log entry)
  | look : Links layout revision (.file (.stat layout.lastKnownGood))
  | clear : Links layout revision (.file (.remove layout.lastKnownGood))
  | link : Links layout revision
      (.file (.symlink (layout.revisionedManifest revision) layout.lastKnownGood))

/-- What the answer to making the link says. -/
def linkResult (layout : Layout) (revision : Revision) :
    Except FileFault Unit → Except SyncFault Unit :=
  Except.mapError (linkFault layout revision)

theorem makeLink_eq_answered (layout : Layout) (revision : Revision) :
    makeLink layout revision =
      Sync.answered (.symlink (layout.revisionedManifest revision) layout.lastKnownGood)
        (linkResult layout revision) := by
  refine congrArg (Program.ask _) (funext fun answer => ?_)
  match answer with
  | .ok () => rfl
  | .error fault => rfl

theorem clear_asks : Asks (Links layout revision) (clear layout).run := by
  refine Sync.asks_bind (Sync.asks_fileExists .look) fun found => Sync.asks_ite ?_ ?_
  · exact Sync.asks_bind (Sync.asks_file .clear) fun _ => Sync.asks_log (.log _)
  · exact Sync.asks_pure ()

theorem makeLink_asks : Asks (Links layout revision) (makeLink layout revision).run := by
  rw [makeLink_eq_answered]
  exact Sync.asks_answered .link

theorem replaceDangling_asks (fault : FileFault) :
    Asks (Links layout revision) (replaceDangling layout revision fault).run := by
  refine Sync.asks_bind (Sync.asks_fileExists .look) fun found => Sync.asks_ite ?_ ?_
  · exact Sync.asks_throw _
  · refine Sync.asks_bind (Sync.asks_file .clear) fun _ => ?_
    exact Sync.asks_bind (Sync.asks_log (.log _)) fun _ => makeLink_asks

theorem place_asks : Asks (Links layout revision) (place layout revision).run := by
  refine ⟨.link, fun answer => ?_⟩
  match answer with
  | .ok () => exact Sync.asks_pure ()
  | .error fault => exact Sync.asks_ite (replaceDangling_asks fault) (Sync.asks_throw _)

theorem createLastKnownGood_asks (strict : Bool) :
    Asks (Links layout revision) (createLastKnownGood layout revision strict).run := by
  have hplace : Asks (Links layout revision)
      (place layout revision >>= fun _ =>
        Sync.log .info .fallback (createdText layout revision)).run :=
    Sync.asks_bind place_asks fun _ => Sync.asks_log (.log _)
  exact Sync.asks_ite (Sync.asks_bind clear_asks fun _ => hplace) hplace

/-- Promoting makes the pointer and then removes the marker. -/
theorem promote_asks :
    Asks (fun request => Links layout revision request ∨
        request = .file (.remove layout.selfMarker)) (promote layout revision).run := by
  refine Sync.asks_bind ((createLastKnownGood_asks true).mono fun _ => Or.inl) fun _ => ?_
  refine Sync.asks_bind (Sync.asks_removeIfExists (Or.inr rfl)) fun removed => ?_
  exact Sync.asks_ite (Sync.asks_log (Or.inl (.log _))) (Sync.asks_pure ())

end Promotion

namespace Fallback

/-- The requests that a fallback makes before it has a manifest to publish. -/
inductive Prepares (layout : Layout) : Request → Prop where
  | links {request : Request} (revision : Revision)
      (hlinks : Promotion.Links layout revision request) : Prepares layout request
  | list : Prepares layout (.file (.list layout.resourcesDir))
  | look (revision : Revision) :
      Prepares layout (.file (.stat (layout.revisionedManifest revision)))
  | read : Prepares layout (.file (.read layout.lastKnownGood))

/-- The requests by which a fallback makes sure of the pointer. -/
inductive Ensures (layout : Layout) : Request → Prop where
  | links {request : Request} (revision : Revision)
      (hlinks : Promotion.Links layout revision request) : Ensures layout request
  | list : Ensures layout (.file (.list layout.resourcesDir))
  | look (revision : Revision) :
      Ensures layout (.file (.stat (layout.revisionedManifest revision)))

theorem Ensures.log (entry : LogEntry) : Ensures layout (.log entry) :=
  .links 0 (.log entry)

theorem Ensures.prepares {request : Request} (hensures : Ensures layout request) :
    Prepares layout request := by
  cases hensures with
  | links revision hlinks => exact .links revision hlinks
  | list => exact .list
  | look revision => exact .look revision

theorem revisions_asks (entries : List DirEntry) :
    Asks Request.IsLog (Archive.revisions layout entries).run := by
  induction entries with
  | nil => exact Sync.asks_pure []
  | cons entry others ih =>
      refine Sync.asks_ite ?_ ih
      refine Sync.asks_bind (Sync.asks_log ⟨_, rfl⟩) fun _ => ?_
      refine Sync.asks_bind ?_ fun revision => Sync.asks_bind ih fun _ => Sync.asks_pure _
      cases Archive.revisionOfName layout entry.name with
      | ok revision => exact Sync.asks_pure revision
      | error fault => exact Sync.asks_throw fault

/-- The requests by which the archive is searched for a revision. -/
inductive Searches (layout : Layout) : Request → Prop where
  | log (entry : LogEntry) : Searches layout (.log entry)
  | list : Searches layout (.file (.list layout.resourcesDir))

theorem Searches.ensures {request : Request} (hsearches : Searches layout request) :
    Ensures layout request := by
  cases hsearches with
  | log entry => exact .log entry
  | list => exact .list

theorem previousRevision_asks :
    Asks (Searches layout) (Archive.previousRevision layout).run := by
  refine Sync.asks_bind (Sync.asks_file .list) fun entries => ?_
  refine Sync.asks_bind ((revisions_asks entries).mono ?_) fun _ => Sync.asks_pure _
  rintro request ⟨entry, rfl⟩
  exact .log entry

theorem adopt_asks (previous : Revision) :
    Asks (Ensures layout) (adopt layout previous).run := by
  refine Sync.asks_bind (Sync.asks_fileExists (.look previous)) fun found =>
    Sync.asks_ite ?_ ?_
  · refine Sync.asks_bind ?_ fun _ => Sync.asks_pure true
    exact (Promotion.createLastKnownGood_asks false).mono fun _ => .links previous
  · exact Sync.asks_bind (Sync.asks_log (.log _)) fun _ => Sync.asks_pure false

theorem ensurePointer_asks_ensures (failed : Revision) :
    Asks (Ensures layout) (ensurePointer layout failed).run := by
  refine Sync.asks_bind (Sync.asks_fileExists (.links 0 .look)) fun found =>
    Sync.asks_ite (Sync.asks_pure true) ?_
  refine Sync.asks_bind (previousRevision_asks.mono fun _ => Searches.ensures) fun previous => ?_
  cases previous with
  | none => exact Sync.asks_bind (Sync.asks_log (.log _)) fun _ => Sync.asks_pure false
  | some previous =>
      exact Sync.asks_ite (Sync.asks_bind (Sync.asks_log (.log _)) fun _ => adopt_asks previous)
        (adopt_asks previous)

theorem ensurePointer_asks (failed : Revision) :
    Asks (Prepares layout) (ensurePointer layout failed).run :=
  (ensurePointer_asks_ensures failed).mono fun _ => Ensures.prepares

theorem readCandidate_asks : Asks (Prepares layout) (readCandidate layout).run := by
  exact Sync.asks_bind (Sync.asks_file .read) fun contents => Sync.asks_manifest _ _

/-- The requests by which a fallback puts its candidate in place of the active
manifest. -/
inductive Publishes (layout : Layout) : Request → Prop where
  | log (entry : LogEntry) : Publishes layout (.log entry)
  | identity : Publishes layout .freshUid
  | clear : Publishes layout (.file (.remove layout.activeManifest))
  | write (text : String) : Publishes layout
      (.file (.write layout.activeManifest (Utf8.ofText text) manifestMode))

theorem publish_asks (pod : Pod) : Asks (Publishes layout) (publish layout pod).run := by
  have hwrite : Asks (Publishes layout)
      (Sync.manifest layout.activeManifest pod.toText >>= writeActive layout).run := by
    refine Sync.asks_bind (Sync.asks_manifest _ _) fun text => ?_
    refine Sync.asks_bind (Sync.asks_log (.log _)) fun _ => ?_
    exact Sync.asks_bind (Sync.asks_log (.log _)) fun _ => Sync.asks_file (.write text)
  refine Sync.asks_bind (Sync.asks_removeIfExists .clear) fun removed => Sync.asks_ite ?_ hwrite
  exact Sync.asks_bind (Sync.asks_log (.log _)) fun _ => hwrite

/-- A fallback prepares and publishes, and does nothing else. -/
theorem run_asks (failed : Revision) :
    Asks (fun request => Prepares layout request ∨ Publishes layout request)
      (run layout failed).run := by
  refine Sync.asks_bind ((ensurePointer_asks failed).mono fun _ => Or.inl) fun ready =>
    Sync.asks_ite ?_ (Sync.asks_pure _)
  refine Sync.asks_bind (readCandidate_asks.mono fun _ => Or.inl) fun pod => ?_
  refine Sync.asks_bind (Sync.asks_lift (asks_request (Or.inr .identity))) fun uid => ?_
  exact Sync.asks_bind ((publish_asks _).mono fun _ => Or.inr) fun _ => Sync.asks_pure _

end Fallback

end RevisionGuard
