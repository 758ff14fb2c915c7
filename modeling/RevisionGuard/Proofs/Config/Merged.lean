import RevisionGuard.Config.Load
import RevisionGuard.Proofs.Text.Utf8
import RevisionGuard.Program.Trace
import Mathlib.Tactic.Common

/-!
# The configuration that is loaded

Every setting is chosen for itself among the command line, the configuration file and the
default (`Chosen`), so flags and a file have exactly one merged configuration
(`Config.existsUnique_merges`).  It is loaded if the file can be read, with every duration
in it, and if the merged configuration can be used; what the file says in place of a flag
has no part in the latter (`Config.load_exact`).
-/

namespace RevisionGuard

open Program Yaml

/-- A setting comes from the command line, else from the file, else it is the default. -/
inductive Chosen {α : Type} (otherwise : α) : Option α → Option α → α → Prop where
  | flag (value : α) (written : Option α) : Chosen otherwise (some value) written value
  | file (value : α) : Chosen otherwise none (some value) value
  | default : Chosen otherwise none none otherwise

theorem chosen_iff {α : Type} {otherwise value : α} {flag written : Option α} :
    Chosen otherwise flag written value ↔ flag.getD (written.getD otherwise) = value := by
  constructor
  · intro hchosen
    cases hchosen with
    | flag => rfl
    | file => rfl
    | default => rfl
  · rintro rfl
    match flag, written with
    | some value, written => exact .flag value written
    | none, some value => exact .file value
    | none, none => exact .default

namespace ConfigFile

/-- A duration of the file. -/
def duration? (written : Option String) : Option Duration :=
  written.bind fun text => (Duration.parse text).toOption

/-- Every duration in a file can be read. -/
def Legible (file : ConfigFile) : Prop :=
  ∀ text, file.fallbackTimeout = some text ∨ file.probeInterval = some text →
    ∃ duration, Duration.parse text = .ok duration

theorem ofBytes_eq_ok_iff {path : Path} {contents : Bytes} {file : ConfigFile} :
    ofBytes path contents = .ok file ↔ ∃ text, contents = Utf8.ofText text ∧
      (Document.ofSource (Source.ofBytes (Utf8.ofText text))).decode decodeNode = .ok file := by
  unfold ofBytes
  cases htext : Utf8.text? contents with
  | none =>
      constructor
      · rintro ⟨⟩
      · rintro ⟨text, hcontents, -⟩
        rw [Utf8.text?_eq_some_iff.mpr hcontents] at htext
        cases htext
  | some text =>
      obtain rfl := Utf8.text?_eq_some_iff.mp htext
      constructor
      · intro hfile
        refine ⟨text, rfl, ?_⟩
        cases hdecode : (Document.ofSource (Source.ofBytes (Utf8.ofText text))).decode decodeNode with
        | error fault =>
            rw [hdecode] at hfile
            cases hfile
        | ok decoded =>
            rw [hdecode] at hfile
            obtain rfl : decoded = file := Except.ok.inj hfile
            rfl
      · rintro ⟨other, hother, hdecode⟩
        rw [hother, hdecode]
        rfl

theorem runs_load_iff {path : Path} {trace : List Exchange} {file : ConfigFile} :
    Runs (load path) trace (.ok file) ↔
      ∃ text, trace = [⟨.file (.read path), .ok (Utf8.ofText text)⟩] ∧
        (Document.ofSource (Source.ofBytes (Utf8.ofText text))).decode decodeNode = .ok file := by
  unfold load
  constructor
  · intro hruns
    obtain ⟨answer, rest, rfl, hrest⟩ := runs_request_bind_iff.mp hruns
    cases answer with
    | error fault => cases (runs_pure_iff.mp hrest).2
    | ok contents =>
        obtain ⟨rfl, hfile⟩ := runs_pure_iff.mp hrest
        obtain ⟨text, rfl, hdecode⟩ := ofBytes_eq_ok_iff.mp hfile.symm
        exact ⟨text, rfl, hdecode⟩
  · rintro ⟨text, rfl, hdecode⟩
    refine runs_request_bind_iff.mpr ⟨.ok (Utf8.ofText text), [], rfl, runs_pure_iff.mpr ⟨rfl, ?_⟩⟩
    exact (ofBytes_eq_ok_iff.mpr ⟨text, rfl, hdecode⟩).symm

end ConfigFile

namespace Config

/-- The settings of the command line, the file and the defaults, each chosen for itself. -/
@[mk_iff]
structure Merges (flags : Flags) (file : Option ConfigFile) (config : Config) : Prop where
  target : Chosen default.target flags.target (file.bind ConfigFile.target) config.target
  manifestsDir : Chosen default.manifestsDir flags.manifestsDir
    (file.bind ConfigFile.manifestsDir) config.manifestsDir
  resourcesDir : Chosen default.resourcesDir flags.resourcesDir
    (file.bind ConfigFile.resourcesDir) config.resourcesDir
  revision : Chosen default.revision (flags.revision.map some)
    ((file.bind ConfigFile.revision).map some) config.revision
  fallbackTimeout : Chosen default.fallbackTimeout flags.fallbackTimeout
    (ConfigFile.duration? (file.bind ConfigFile.fallbackTimeout)) config.fallbackTimeout
  probeInterval : Chosen default.probeInterval flags.probeInterval
    (ConfigFile.duration? (file.bind ConfigFile.probeInterval)) config.probeInterval
  readyFile : Chosen default.readyFile (flags.readyFile.map some)
    ((file.bind ConfigFile.readyFile).map some) config.readyFile

/-- A configuration can be used. -/
structure Usable (config : Config) : Prop where
  target : config.target ≠ ""
  fallbackTimeout : config.fallbackTimeout.nanoseconds ≠ 0
  probeInterval : config.probeInterval.nanoseconds ≠ 0

/-- Either no file is named, or the named one is a text that is a document with settings. -/
inductive Consults (flags : Flags) : List Exchange → Option ConfigFile → Prop where
  | unnamed (hunnamed : flags.config = none) : Consults flags [] none
  | named {path : Path} {text : String} {file : ConfigFile} (hnamed : flags.config = some path)
      (hdecode : (Document.ofSource (Source.ofBytes (Utf8.ofText text))).decode
        ConfigFile.decodeNode = .ok file) :
      Consults flags [⟨.file (.read path), .ok (Utf8.ofText text)⟩] (some file)

variable {flags : Flags} {file : Option ConfigFile} {written : ConfigFile} {config base : Config}

/-! ## The layers -/

theorem getD_map_some {α : Type} (first second : Option α) :
    (first.map some).getD second = (first <|> second) := by
  cases first with
  | none => rfl
  | some value => rfl

/-- The configuration with the settings of a file whose durations can be read in place. -/
def overlaid (config : Config) (written : ConfigFile) : Config where
  target := written.target.getD config.target
  manifestsDir := written.manifestsDir.getD config.manifestsDir
  resourcesDir := written.resourcesDir.getD config.resourcesDir
  revision := written.revision <|> config.revision
  fallbackTimeout := (ConfigFile.duration? written.fallbackTimeout).getD config.fallbackTimeout
  probeInterval := (ConfigFile.duration? written.probeInterval).getD config.probeInterval
  readyFile := written.readyFile <|> config.readyFile

/-- What holds where the command line says nothing. -/
def beneath : Option ConfigFile → Config
  | none => default
  | some written => default.overlaid written

theorem fileDuration_eq_ok_iff {fault : Duration.Fault → Fault} {written : Option String}
    {otherwise duration : Duration} :
    fileDuration fault written otherwise = .ok duration ↔
      (∀ text, written = some text → ∃ read, Duration.parse text = .ok read) ∧
        (ConfigFile.duration? written).getD otherwise = duration := by
  cases written with
  | none => simp [fileDuration, ConfigFile.duration?]
  | some text =>
      cases hparse : Duration.parse text with
      | error cause => simp [fileDuration, hparse, Except.mapError]
      | ok read => simp [fileDuration, ConfigFile.duration?, hparse, Except.mapError, Except.toOption]

theorem withFile_eq_ok_iff :
    config.withFile written = .ok base ↔ written.Legible ∧ config.overlaid written = base := by
  constructor
  · intro hbase
    unfold withFile at hbase
    cases htimeout : fileDuration .fallbackTimeout written.fallbackTimeout
        config.fallbackTimeout with
    | error fault =>
        rw [htimeout] at hbase
        cases hbase
    | ok timeout =>
        cases hinterval : fileDuration .probeInterval written.probeInterval
            config.probeInterval with
        | error fault =>
            rw [htimeout, hinterval] at hbase
            cases hbase
        | ok interval =>
            rw [htimeout, hinterval] at hbase
            obtain ⟨htimeouts, rfl⟩ := fileDuration_eq_ok_iff.mp htimeout
            obtain ⟨hintervals, rfl⟩ := fileDuration_eq_ok_iff.mp hinterval
            refine ⟨?_, Except.ok.inj hbase⟩
            rintro text (htext | htext)
            · exact htimeouts text htext
            · exact hintervals text htext
  · rintro ⟨hlegible, rfl⟩
    unfold withFile
    rw [fileDuration_eq_ok_iff.mpr ⟨fun text htext => hlegible text (Or.inl htext), rfl⟩,
      fileDuration_eq_ok_iff.mpr ⟨fun text htext => hlegible text (Or.inr htext), rfl⟩]
    rfl

theorem check_eq_ok_iff : config.check = .ok () ↔ Usable config := by
  have htarget : config.target.isEmpty = true ↔ config.target = "" := String.isEmpty_iff
  have hspan (span : Duration) : span.isZero = true ↔ span.nanoseconds = 0 := decide_eq_true_iff
  unfold check
  constructor
  · intro hcheck
    split at hcheck
    · cases hcheck
    split at hcheck
    · cases hcheck
    split at hcheck
    · cases hcheck
    · exact ⟨mt htarget.mpr ‹_›, mt (hspan _).mpr ‹_›, mt (hspan _).mpr ‹_›⟩
  · rintro ⟨hnamed, htimeout, hinterval⟩
    rw [if_neg (mt (hspan _).mp htimeout), if_neg (mt (hspan _).mp hinterval),
      if_neg (mt htarget.mp hnamed)]

/-- The settings chosen one by one are the layers put on one another. -/
theorem merges_iff_layers : Merges flags file config ↔ (beneath file).withFlags flags = config := by
  obtain ⟨target, manifestsDir, resourcesDir, revision, fallbackTimeout, probeInterval, readyFile⟩ :=
    config
  rw [merges_iff]
  simp only [chosen_iff, getD_map_some, withFlags, Config.mk.injEq]
  cases file with
  | none => exact Iff.rfl
  | some written => exact Iff.rfl

theorem existsUnique_merges (flags : Flags) (file : Option ConfigFile) :
    ∃! config, Merges flags file config :=
  ⟨_, merges_iff_layers.mpr rfl, fun _ hmerges => (merges_iff_layers.mp hmerges).symm⟩

/-- What is merged from the layers is checked as a whole. -/
theorem checked_eq_ok_iff {merged : Config} :
    (do merged.check; return merged : Except Fault Config) = .ok config ↔
      merged = config ∧ Usable config := by
  constructor
  · intro hchecked
    cases hcheck : merged.check with
    | error fault =>
        rw [hcheck] at hchecked
        cases hchecked
    | ok value =>
        rw [hcheck] at hchecked
        obtain rfl : merged = config := Except.ok.inj hchecked
        exact ⟨rfl, check_eq_ok_iff.mp hcheck⟩
  · rintro ⟨rfl, husable⟩
    rw [check_eq_ok_iff.mpr husable]
    rfl

theorem merge_eq_ok_iff :
    merge flags file = .ok config ↔
      (∀ written ∈ file, written.Legible) ∧ Merges flags file config ∧ Usable config := by
  rw [merges_iff_layers, ← checked_eq_ok_iff]
  cases file with
  | none =>
      have hnone : ∀ written ∈ (none : Option ConfigFile), written.Legible := by rintro _ ⟨⟩
      exact (and_iff_right hnone).symm
  | some written =>
      have hmerge : merge flags (some written) = (do
          let base ← default.withFile written
          (base.withFlags flags).check
          return base.withFlags flags) := rfl
      rw [hmerge]
      cases hbase : default.withFile written with
      | error fault =>
          constructor
          · rintro ⟨⟩
          · rintro ⟨hlegible, -⟩
            rw [withFile_eq_ok_iff.mpr ⟨hlegible written rfl, rfl⟩] at hbase
            cases hbase
      | ok base =>
          obtain ⟨hlegible, rfl⟩ := withFile_eq_ok_iff.mp hbase
          have hall : ∀ other ∈ some written, other.Legible := by
            rintro _ ⟨⟩
            exact hlegible
          exact (and_iff_right hall).symm

-- a duration of the file has to be one, also where a flag is given in its place
example :
    merge { probeInterval := some (.ofSeconds 2) }
      (some ⟨none, none, none, none, none, some "soon", none⟩) =
      .error (.probeInterval (.malformed "soon")) := by
  decide +kernel

/-! ## Loading -/

theorem runs_load_iff {trace : List Exchange} :
    Runs (load flags) trace (.ok config) ↔
      ∃ file, Consults flags trace file ∧ merge flags file = .ok config := by
  unfold load
  cases hnamed : flags.config with
  | none =>
      rw [runs_pure_iff]
      constructor
      · rintro ⟨rfl, hmerge⟩
        exact ⟨none, .unnamed hnamed, hmerge.symm⟩
      · rintro ⟨file, hconsults, hmerge⟩
        cases hconsults with
        | unnamed => exact ⟨rfl, hmerge.symm⟩
        | named hother =>
            rw [hnamed] at hother
            cases hother
  | some path =>
      rw [runs_bind_iff]
      constructor
      · rintro ⟨result, front, back, rfl, hfile, hrest⟩
        cases result with
        | error fault => cases (runs_pure_iff.mp hrest).2
        | ok written =>
            obtain ⟨text, rfl, hdecode⟩ := ConfigFile.runs_load_iff.mp hfile
            obtain ⟨rfl, hmerge⟩ := runs_pure_iff.mp hrest
            exact ⟨some written, .named hnamed hdecode, hmerge.symm⟩
      · rintro ⟨file, hconsults, hmerge⟩
        cases hconsults with
        | unnamed hunnamed =>
            rw [hnamed] at hunnamed
            cases hunnamed
        | @named other text written hother hdecode =>
            obtain rfl : path = other := Option.some.inj (hnamed.symm.trans hother)
            refine ⟨.ok written, _, [], (List.append_nil _).symm,
              ConfigFile.runs_load_iff.mpr ⟨text, rfl, hdecode⟩, ?_⟩
            exact runs_pure_iff.mpr ⟨rfl, hmerge.symm⟩

/-- Loading gives a configuration exactly if there is no file, or one that can be read with
every duration in it, and if the merged configuration has a target and two positive spans;
and that is the configuration it gives.  Flags and a file have one merged configuration. -/
theorem load_exact (flags : Flags) :
    (∀ trace config, Runs (load flags) trace (.ok config) ↔
      ∃ file, Consults flags trace file ∧ (∀ written ∈ file, written.Legible) ∧
        Merges flags file config ∧ Usable config) ∧
      ∀ file, ∃! config, Merges flags file config := by
  refine ⟨fun trace config => ?_, existsUnique_merges flags⟩
  simp only [runs_load_iff, merge_eq_ok_iff]

/-- A file with settings that could not be used by themselves. -/
def Rehearsed.unusable : String :=
  "target: ''\nrevision: 4\nfallback-timeout-duration: 5m\nprobe-interval: '0'\n"

/-- Flags for what cannot be used in the file. -/
def Rehearsed.overriding : Flags :=
  { config := some ⟨"config.yaml"⟩, target := some "etcd", probeInterval := some (.ofSeconds 2) }

/-- What is empty or zero in the file does no harm if a flag is given for it. -/
theorem load_exact_rehearsed :
    Runs (load Rehearsed.overriding)
      [⟨.file (.read ⟨"config.yaml"⟩), .ok (Utf8.ofText Rehearsed.unusable)⟩]
      (.ok { default with
        target := "etcd", revision := some 4, fallbackTimeout := .ofSeconds 300,
        probeInterval := .ofSeconds 2 }) := by
  obtain ⟨hload, -⟩ := load_exact Rehearsed.overriding
  have hdecode : (Document.ofSource (Source.ofBytes (Utf8.ofText Rehearsed.unusable))).decode
      ConfigFile.decodeNode =
      .ok ⟨some "", none, none, some 4, some "5m", some "0", none⟩ := by
    decide +kernel
  refine (hload _ _).mpr ⟨_, .named rfl hdecode, ?_, merges_iff_layers.mpr (by decide +kernel),
    check_eq_ok_iff.mp (by decide +kernel)⟩
  rintro _ ⟨⟩ text (htext | htext)
  · exact ⟨.ofSeconds 300, by cases htext; decide +kernel⟩
  · exact ⟨.zero, by cases htext; decide +kernel⟩

end Config

end RevisionGuard
