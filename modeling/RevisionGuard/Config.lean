import RevisionGuard.Duration.Grammar
import RevisionGuard.Files.Fault
import RevisionGuard.Layout
import RevisionGuard.Yaml.Fault

/-!
# Configuration

What a guard has to know before it starts.  A configuration can be used if both
spans are positive and the target has a name (`Config.check`).
-/

namespace RevisionGuard

/-- The settings of a guard. -/
structure Config where
  target : String
  manifestsDir : Path
  resourcesDir : Path
  /-- The revision to watch; without one it is read from the active manifest. -/
  revision : Option Revision
  /-- The grace period. -/
  fallbackTimeout : Duration
  /-- The time between two syncs. -/
  probeInterval : Duration
  /-- The target is healthy while there is something at this path.  Without one
  it is never healthy. -/
  readyFile : Option Path
  deriving DecidableEq

namespace Config

/-- The settings that hold where nothing else is said. -/
def default : Config where
  target := "kube-apiserver"
  manifestsDir := ⟨"/etc/kubernetes/manifests"⟩
  resourcesDir := ⟨"/etc/kubernetes/static-pod-resources"⟩
  revision := none
  fallbackTimeout := Duration.ofSeconds 120
  probeInterval := Duration.ofSeconds 1
  readyFile := none

def layout (config : Config) : Layout :=
  ⟨config.target, config.manifestsDir, config.resourcesDir⟩

/-- Why there is no configuration. -/
inductive Fault where
  | unreadable (path : Path) (fault : FileFault)
  | undecodable (fault : Yaml.Fault)
  | fallbackTimeout (fault : Duration.Fault)
  | probeInterval (fault : Duration.Fault)
  | noFallbackTimeout
  /-- There is no time between two syncs. -/
  | noProbeInterval
  | noTarget
  deriving DecidableEq, Repr

/-- The wording of a fault and of what caused it, the fault first. -/
def Fault.messages : Fault → List String
  | .unreadable path cause => ["Failed to read config from " ++ path.text, cause.message]
  | .undecodable cause => ["Failed to parse YAML config", cause.message]
  | .fallbackTimeout cause => ["invalid fallback-timeout-duration: " ++ cause.message]
  | .probeInterval cause => ["invalid probe-interval: " ++ cause.message]
  | .noFallbackTimeout => ["--fallback-timeout-duration cannot be 0"]
  | .noProbeInterval => ["--probe-interval cannot be 0"]
  | .noTarget => ["--target cannot be empty"]

def check (config : Config) : Except Fault Unit :=
  if config.fallbackTimeout.isZero then .error .noFallbackTimeout
  else if config.probeInterval.isZero then .error .noProbeInterval
  else if config.target.isEmpty then .error .noTarget
  else .ok ()

end Config

end RevisionGuard
