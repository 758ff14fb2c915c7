import RevisionGuard.Config.File
import RevisionGuard.Config.Flags

/-!
# Merging settings

A setting on the command line wins over one in the configuration file, which
wins over the default.  The durations in the file are read even if the command
line overrides them, and what must not be zero or empty is checked only at the
end.
-/

namespace RevisionGuard

namespace Config

/-- Read a duration of the configuration file in place of another. -/
def fileDuration (fault : Duration.Fault → Fault) (written : Option String)
    (otherwise : Duration) : Except Fault Duration :=
  match written with
  | none => .ok otherwise
  | some text => (Duration.parse text).mapError fault

/-- The settings with those of a configuration file in their place. -/
def withFile (config : Config) (file : ConfigFile) : Except Fault Config := do
  let timeout ← fileDuration .fallbackTimeout file.fallbackTimeout config.fallbackTimeout
  let interval ← fileDuration .probeInterval file.probeInterval config.probeInterval
  return {
    target := file.target.getD config.target
    manifestsDir := file.manifestsDir.getD config.manifestsDir
    resourcesDir := file.resourcesDir.getD config.resourcesDir
    revision := file.revision <|> config.revision
    fallbackTimeout := timeout
    probeInterval := interval
    readyFile := file.readyFile <|> config.readyFile }

/-- The settings with those of the command line in their place. -/
def withFlags (config : Config) (flags : Flags) : Config where
  target := flags.target.getD config.target
  manifestsDir := flags.manifestsDir.getD config.manifestsDir
  resourcesDir := flags.resourcesDir.getD config.resourcesDir
  revision := flags.revision <|> config.revision
  fallbackTimeout := flags.fallbackTimeout.getD config.fallbackTimeout
  probeInterval := flags.probeInterval.getD config.probeInterval
  readyFile := flags.readyFile <|> config.readyFile

/-- The settings of a configuration file, if one is named, and of the command
line, if they can be used. -/
def merge (flags : Flags) (file : Option ConfigFile) : Except Fault Config := do
  let base ← match file with
    | some file => default.withFile file
    | none => .ok default
  let config := base.withFlags flags
  config.check
  return config

def load (flags : Flags) : Program (Except Fault Config) := do
  match flags.config with
  | none => return merge flags none
  | some path =>
    match ← ConfigFile.load path with
    | .ok file => return merge flags (some file)
    | .error fault => return .error fault

end Config

end RevisionGuard
