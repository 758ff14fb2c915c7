import RevisionGuard.Duration.Grammar
import RevisionGuard.Log
import RevisionGuard.Path

/-!
# Flags

The settings that the command line can give.  Every flag takes one value, which
is read as soon as it is complete (`Flag.read`).
-/

namespace RevisionGuard

/-- The settings given on the command line. -/
structure Flags where
  config : Option Path := none
  target : Option String := none
  manifestsDir : Option Path := none
  resourcesDir : Option Path := none
  revision : Option Revision := none
  fallbackTimeout : Option Duration := none
  probeInterval : Option Duration := none
  readyFile : Option Path := none
  /-- What is logged, unless the environment says otherwise. -/
  logLevel : String := "info"
  logFormat : LogFormat := .text
  deriving DecidableEq

/-- A flag that takes a value. -/
inductive Flag where
  | config
  | target
  | manifestsDir
  | resourcesDir
  | revision
  | fallbackTimeout
  | probeInterval
  | readyFile
  | logLevel
  | logFormat
  deriving DecidableEq, Repr

namespace Flag

/-- All flags, in the order of the help text. -/
def all : List Flag :=
  [.config, .target, .manifestsDir, .resourcesDir, .revision, .fallbackTimeout, .probeInterval,
    .readyFile, .logLevel, .logFormat]

/-- The name of a flag, which follows two hyphens. -/
def name : Flag → String
  | .config => "config"
  | .target => "target"
  | .manifestsDir => "manifests-dir"
  | .resourcesDir => "resources-dir"
  | .revision => "revision"
  | .fallbackTimeout => "fallback-timeout-duration"
  | .probeInterval => "probe-interval"
  | .readyFile => "ready-file"
  | .logLevel => "log-level"
  | .logFormat => "log-format"

def valueName : Flag → String
  | .config => "FILE"
  | .target => "TARGET"
  | .manifestsDir => "DIR"
  | .resourcesDir => "DIR"
  | .revision => "REVISION"
  | .fallbackTimeout => "FALLBACK_TIMEOUT"
  | .probeInterval => "PROBE_INTERVAL"
  | .readyFile => "PATH"
  | .logLevel => "LOG_LEVEL"
  | .logFormat => "LOG_FORMAT"

/-- A flag with its value, as messages show it. -/
def usage (flag : Flag) : String := "--" ++ flag.name ++ " <" ++ flag.valueName ++ ">"

/-- What the help text says of a flag. -/
def description : Flag → String
  | .config => "YAML file with defaults for the options below, flags take precedence"
  | .target => "Name of the static pod to watch"
  | .manifestsDir => "Directory holding the root manifests"
  | .resourcesDir => "Directory holding the revisioned manifests"
  | .revision => "Revision to watch, read from the active manifest when omitted"
  | .fallbackTimeout => "Maximum time to wait for the target to become healthy (default: 2m)"
  | .probeInterval => "How often the target's health is assessed (default: 1s)"
  | .readyFile => "The target is considered healthy while this file exists"
  | .logLevel => "Default log filter, RUST_LOG overrides it [default: info]"
  | .logFormat => "[default: text] [possible values: text, json]"

def ofName? (name : String) : Option Flag := all.find? fun flag => flag.name = name

/-- Why a value does not fit a flag. -/
inductive Fault where
  /-- There is no value, or an empty one where that is no value. -/
  | missing
  /-- The value is none of those that the flag knows. -/
  | unknown (value : String)
  | malformed (value reason : String)
  deriving DecidableEq, Repr

def nonempty (value : String) : Except Fault String :=
  if value.isEmpty then .error .missing else .ok value

def duration (value : String) : Except Fault Duration :=
  (Duration.parse value).mapError fun fault => .malformed value fault.message

def read (flags : Flags) (value : String) : Flag → Except Fault Flags
  | .config => do return { flags with config := some ⟨← nonempty value⟩ }
  | .target => return { flags with target := some value }
  | .manifestsDir => do return { flags with manifestsDir := some ⟨← nonempty value⟩ }
  | .resourcesDir => do return { flags with resourcesDir := some ⟨← nonempty value⟩ }
  | .revision =>
    match Numeral.parse value with
    | .ok number => return { flags with revision := some number }
    | .error fault => .error (.malformed value fault.message)
  | .fallbackTimeout => do return { flags with fallbackTimeout := some (← duration value) }
  | .probeInterval => do return { flags with probeInterval := some (← duration value) }
  | .readyFile => do return { flags with readyFile := some ⟨← nonempty value⟩ }
  | .logLevel => return { flags with logLevel := value }
  | .logFormat => do
    let value ← nonempty value
    match LogFormat.ofName? value with
    | some format => return { flags with logFormat := format }
    | none => .error (.unknown value)

end Flag

end RevisionGuard
