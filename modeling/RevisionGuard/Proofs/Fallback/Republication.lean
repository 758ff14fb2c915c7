import RevisionGuard.Proofs.Monitor.Ticks
import RevisionGuard.Proofs.Pod.RoundTrip
import RevisionGuard.Proofs.Program.Calls
import RevisionGuard.Proofs.Sync.Courses
import RevisionGuard.Proofs.Text.Numeral

/-!
# What a fallback republishes

A fallback that restores a manifest reads one through the pointer, once, and writes one,
once.  What is written is the manifest that was read, with a new identity and with a note
of the revision that failed (`Fallback.Republication`).  What the written text says as a
manifest is a matter of reading it again: if the text of the fields means the fields, it
says the same as the manifest that was read in all other respects
(`Pod.Republishes`).

There is one exception.  A spec that is null is left out, and one that is null under a
tag is null too, so that its tag is lost.
-/

namespace RevisionGuard

open Program Yaml

/-! ## Manifests with a note -/

/-- A manifest says the same as another one, but for a new identity and a note of the
revision that failed.  Only a null spec loses its tags. -/
structure Pod.Republishes (written pod : Pod) (failed : Revision) (uid : String) : Prop where
  identity : written.metadata.uid = some uid
  note : written.metadata.annotations.get? "fallback-for-revision" = some failed.text
  annotations : ∀ key, key ≠ "fallback-for-revision" →
    written.metadata.annotations.get? key = pod.metadata.annotations.get? key
  name : written.metadata.name = pod.metadata.name
  podNamespace : written.metadata.podNamespace = pod.metadata.podNamespace
  labels : written.metadata.labels = pod.metadata.labels
  metadata : written.metadata.extra = pod.metadata.extra
  apiVersion : written.apiVersion = pod.apiVersion
  kind : written.kind = pod.kind
  extra : written.extra = pod.extra
  revision : written.revision = pod.revision
  spec : written.spec = if pod.spec.isNull then .null else pod.spec

namespace Pod

variable {pod : Pod} {failed : Revision} {uid : String}

theorem republishes_written (pod : Pod) (failed : Revision) (uid : String) :
    (pod.republished failed uid).written.Republishes pod failed uid where
  identity := rfl
  note := Dictionary.get?_insert_self _ _ _
  annotations _ hkey := Dictionary.get?_insert_of_ne _ hkey _
  name := rfl
  podNamespace := rfl
  labels := rfl
  metadata := rfl
  apiVersion := rfl
  kind := rfl
  extra := rfl
  revision := rfl
  spec := rfl

end Pod

namespace Fallback

variable {layout : Layout} {failed other : Revision} {trace front back : List Exchange}

/-- What a fallback reads and writes when it restores a manifest. -/
structure Republication (layout : Layout) (failed : Revision) (trace : List Exchange)
    (contents : Bytes) (pod : Pod) (uid text : String) : Prop where
  read : readings trace = [(layout.lastKnownGood, .ok contents)]
  decoded : Pod.ofBytes contents = .ok pod
  identity : identities trace = [uid]
  wrote : (fileCalls trace).filter (fun call => call.operation = .write) =
    [.write layout.activeManifest (Utf8.ofText text) 0o644]
  encoded : (pod.republished failed uid).toText = .ok text

/-! ## What is read and written -/

theorem Ensures.request_ne {request : Request} (hensures : Ensures layout request) :
    (∀ path, request ≠ .file (.read path)) ∧ request ≠ .freshUid ∧
      ∀ path contents mode, request ≠ .file (.write path contents mode) := by
  cases hensures with
  | links revision hlinks => cases hlinks <;> simp
  | list => simp
  | look revision => simp

/-- A fallback that restores a manifest publishes the one that it has read. -/
theorem Course.published_of_restored
    (hcourse : Course layout failed trace (.ok (.restored other))) :
    other = failed ∧ ∃ front back contents pod uid,
      (∀ exchange ∈ front, Ensures layout exchange.request) ∧ Pod.ofBytes contents = .ok pod ∧
        Published layout (pod.republished failed uid) back (.ok ()) ∧
          trace = front ++ ⟨.file (.read layout.lastKnownGood), .ok contents⟩ ::
            ⟨.freshUid, uid⟩ :: back := by
  generalize hresult : (.ok (.restored other) : Except SyncFault Outcome) = result at hcourse
  cases hcourse with
  | unprepared => cases hresult
  | noCandidate => cases hresult
  | @published front back contents pod uid outcome hensures hpod hpublished =>
      cases outcome with
      | error fault => cases hresult
      | ok _ =>
          cases hresult
          exact ⟨rfl, front, back, contents, pod, uid, hensures, hpod, hpublished, rfl⟩

theorem Published.wrote_of_ok {pod : Pod} (hpublished : Published layout pod trace (.ok ())) :
    ∃ text, pod.toText = .ok text ∧ readings trace = [] ∧ identities trace = [] ∧
      (fileCalls trace).filter (fun call => call.operation = .write) =
        [.write layout.activeManifest (Utf8.ofText text) 0o644] := by
  generalize hresult : (.ok () : Except SyncFault Unit) = result at hpublished
  cases hpublished with
  | stuck => cases hresult
  | unwritable => cases hresult
  | @wrote answer removed logs text hremoval hlogs htext written =>
      have hreadings : readings logs = [] := readings_eq_nil fun exchange hmem path => by
        obtain ⟨entry, hentry⟩ := hlogs exchange hmem
        simp [hentry]
      have hidentities : identities logs = [] := identities_eq_nil fun exchange hmem => by
        obtain ⟨entry, hentry⟩ := hlogs exchange hmem
        simp [hentry]
      refine ⟨text, htext, ?_, ?_, ?_⟩
      · rw [List.cons_append, readings_remove, readings_append, hreadings]
        rfl
      · rw [List.cons_append, identities_file, identities_append, hidentities]
        rfl
      · rw [List.cons_append, fileCalls_file, fileCalls_append, fileCalls_of_isLog hlogs]
        rfl

/-- What a fallback that restores a manifest reads and writes, and what the written text
says as a manifest. -/
theorem republication_of_restored
    (hruns : Runs (run layout failed).run trace (.ok (.restored other))) :
    other = failed ∧ Numeral.parse failed.text = .ok failed ∧
      ∃ contents pod uid text, Republication layout failed trace contents pod uid text ∧
        (RoundTrips (pod.republished failed uid).fields →
          ∃ written, Pod.ofBytes (Utf8.ofText text) = .ok written ∧
            written.Republishes pod failed uid ∧
              (written = pod.republished failed uid ↔
                (pod.spec.isNull = true → pod.spec = .null))) := by
  obtain ⟨rfl, front, back, contents, pod, uid, hensures, hpod, hpublished, rfl⟩ :=
    (course_of_runs hruns).published_of_restored
  obtain ⟨text, htext, hreadings, hidentities, hwrites⟩ := hpublished.wrote_of_ok
  have hfrontReadings : readings front = [] := readings_eq_nil fun exchange hmem =>
    (hensures exchange hmem).request_ne.1
  have hfrontIdentities : identities front = [] := identities_eq_nil fun exchange hmem =>
    (hensures exchange hmem).request_ne.2.1
  have hfrontWrites : (fileCalls front).filter (fun call => call.operation = .write) = [] := by
    refine List.filter_eq_nil_iff.mpr fun call hcall => ?_
    obtain ⟨answer, hmem⟩ := mem_fileCalls_iff.mp hcall
    have hother := (hensures _ hmem).request_ne.2.2
    cases call with
    | write path contents mode => exact (hother path contents mode rfl).elim
    | _ => simp [FileCall.operation]
  refine ⟨rfl, Numeral.parse_text other, contents, pod, uid, text, ⟨?_, hpod, ?_, ?_, htext⟩, ?_⟩
  · rw [readings_append, hfrontReadings, readings_read, readings_freshUid, hreadings]
    rfl
  · rw [identities_append, hfrontIdentities, identities_file, identities_freshUid, hidentities]
    rfl
  · rw [fileCalls_append, fileCalls_file, fileCalls_freshUid, List.filter_append, hfrontWrites]
    exact hwrites
  · intro htrips
    have hreadable := (Pod.readable_of_ofBytes hpod).republished other uid
    exact ⟨_, Pod.ofBytes_toText hreadable htext htrips, Pod.republishes_written pod other uid,
      Pod.written_eq_iff⟩

end Fallback

namespace Rehearsed

/-- A manifest with a spec and with a field that has no use. -/
def stock : Bytes :=
  Utf8.ofText ("apiVersion: v1\nkind: Pod\nmetadata:\n  name: kube\n  uid: old\n" ++
    "spec:\n- image\nstatus: []\n")

/-- The pointer leads to the manifest, and all goes well. -/
def stocked : World :=
  World.new (.scripted ⟨[
    ⟨.stat, some layout.lastKnownGood, [.kind false]⟩,
    ⟨.read, some layout.lastKnownGood, [.contents stock]⟩,
    ⟨.remove, some layout.activeManifest, [.done]⟩,
    ⟨.write, some layout.activeManifest, [.done]⟩]⟩) .origin

end Rehearsed

theorem Fallback.republication_rehearsed :
    ∃ trace contents pod uid text written,
      Runs (Fallback.run Rehearsed.layout 8).run trace (.ok (.restored 8)) ∧
        Fallback.Republication Rehearsed.layout 8 trace contents pod uid text ∧
        Pod.ofBytes (Utf8.ofText text) = .ok written ∧ written.Republishes pod 8 uid ∧
        written = pod.republished 8 uid := by
  have hruns := runs_traceOf World.answer (Fallback.run Rehearsed.layout 8).run Rehearsed.stocked
  have hrestored : ((Fallback.run Rehearsed.layout 8).run.run World.answer Rehearsed.stocked).1 =
      .ok (.restored 8) := by decide +kernel
  rw [hrestored] at hruns
  obtain ⟨-, -, contents, pod, uid, text, hrepublication, hmeant⟩ :=
    Fallback.republication_of_restored hruns
  have htrace : (readings (traceOf World.answer (Fallback.run Rehearsed.layout 8).run
      Rehearsed.stocked), identities (traceOf World.answer (Fallback.run Rehearsed.layout 8).run
      Rehearsed.stocked)) =
        ([(Rehearsed.layout.lastKnownGood, .ok Rehearsed.stock)], [World.uid 0]) := by
    decide +kernel
  rw [hrepublication.read, hrepublication.identity] at htrace
  obtain ⟨hcontents, huid⟩ : contents = Rehearsed.stock ∧ uid = World.uid 0 := by
    simpa using htrace
  have hpod := hrepublication.decoded
  rw [hcontents] at hpod
  have hchecked : (match Pod.ofBytes Rehearsed.stock with
      | .ok pod => !pod.spec.isNull &&
          decide (RoundTrips (pod.republished 8 (World.uid 0)).fields)
      | .error _ => false) = true := by decide +kernel
  rw [hpod, ← huid] at hchecked
  simp only [Bool.and_eq_true, Bool.not_eq_true', decide_eq_true_eq] at hchecked
  obtain ⟨hspec, htrips⟩ := hchecked
  obtain ⟨written, hwritten, hrepublishes, hsame⟩ := hmeant htrips
  exact ⟨_, contents, pod, uid, text, written, hruns, hrepublication, hwritten, hrepublishes,
    hsame.mpr fun hnull => by rw [hspec] at hnull; cases hnull⟩

end RevisionGuard
