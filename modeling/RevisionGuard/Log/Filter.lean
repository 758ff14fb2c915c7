import RevisionGuard.Log
import RevisionGuard.Text.Blank
import RevisionGuard.Text.Numeral

/-!
# Log filters

A log filter is a list of directives, separated by commas.  A directive is a
level, or what it is for and behind an equals sign a level; without a level all
entries pass.  Of the directives for an entry the most specific one decides: the
one with the longest source, then the one that names the most fields.  A
directive for a span is for no entry, because entries are made outside of spans.
-/

namespace RevisionGuard

/-- The levels that pass: up to a level, or none at all. -/
abbrev LogThreshold : Type := Option LogLevel

def LogThreshold.allows (threshold : LogThreshold) (level : LogLevel) : Bool :=
  match threshold with
  | none => false
  | some least => level.rank ≤ least.rank

/-- A part of a log filter. -/
structure Directive where
  /-- What the name of an entry's source starts with. -/
  source : List Char
  hasSource : Bool
  span : Option (List Char)
  /-- The names of fields, and whether each has a value. -/
  fields : List (List Char × Bool)
  threshold : LogThreshold
  deriving DecidableEq, Repr

namespace Directive

/-- Why a text is no log filter. -/
inductive Fault where
  | malformed
  | unknownLevel
  deriving DecidableEq, Repr

def Fault.messages : Fault → List String
  | .malformed => ["invalid filter directive"]
  | .unknownLevel =>
    let text := "error parsing level filter: expected one of \"off\", \"error\", \"warn\", " ++
      "\"info\", \"debug\", \"trace\", or a number 0-5"
    [text, text]

/-- The levels in the order of their numbers. -/
def thresholds : List (String × LogThreshold) :=
  [("off", none), ("error", some .error), ("warn", some .warn), ("info", some .info),
    ("debug", some .debug), ("trace", some .trace)]

/-- A written level: a name in letters of either case, or a number. -/
def threshold? (letters : List Char) : Option LogThreshold :=
  match Numeral.parse (String.ofList letters) with
  | .ok number => (thresholds[number.toNat]?).map Prod.snd
  | .error _ =>
    if letters = [] then some (some .error)
    else thresholds.lookup (String.ofList (letters.map Char.toLower))

def startsDirective (letter : Char) : Bool :=
  ['-', ':', '_'].contains letter || letter.isAlphanum || 0x80 ≤ letter.toNat

/-- A field in a directive: a name, perhaps with a value. -/
def field (letters : List Char) : List Char × Bool :=
  (letters.takeWhile (· ≠ '='), letters.contains '=')

/-- Where the reader of a directive is.  The letters of the part that is being
read are in reverse. -/
inductive State where
  | start
  | levelOrSource (part : List Char)
  | span (part : List Char)
  | field (part : List Char)
  | fields
  | source
  | level (part : List Char)
  deriving DecidableEq, Repr

def everything : Directive := ⟨[], false, none, [], some .trace⟩

def withSource (directive : Directive) (part : List Char) : Directive :=
  { directive with source := part.reverse, hasSource := true }

def step (directive : Directive) (letter : Char) : State → Except Fault (Directive × State)
  | .start =>
    if letter = '[' then .ok (directive, .span [])
    else if startsDirective letter then .ok (directive, .levelOrSource [letter])
    else .error .malformed
  | .levelOrSource part =>
    if letter = '=' then .ok (directive.withSource part, .level [])
    else if letter = '[' then .ok (directive.withSource part, .span [])
    else .ok (directive, .levelOrSource (letter :: part))
  | .span part =>
    if letter = ']' then .ok ({ directive with span := some part.reverse }, .source)
    else if letter = Char.ofNat 0x7b then
      .ok ({ directive with span := if part = [] then none else some part.reverse }, .field [])
    else .ok (directive, .span (letter :: part))
  | .field part =>
    if letter = Char.ofNat 0x7d ∨ letter = ',' then
      if part = [] then .error .malformed
      else
        let directive :=
          { directive with fields := directive.fields ++ [field part.reverse] }
        .ok (directive, if letter = ',' then .field [] else .fields)
    else .ok (directive, .field (letter :: part))
  | .fields => if letter = ']' then .ok (directive, .source) else .error .malformed
  | .source => if letter = '=' then .ok (directive, .level []) else .error .malformed
  | .level part => .ok (directive, .level (letter :: part))

/-- The directive once all letters have been read. -/
def finish (directive : Directive) : State → Except Fault Directive
  | .levelOrSource part =>
    match threshold? part.reverse with
    | some threshold => .ok { directive with threshold := threshold }
    | none => .ok (directive.withSource part)
  | .level [] => .ok directive
  | .level part =>
    match threshold? part.reverse with
    | some threshold => .ok { directive with threshold := threshold }
    | none => .error .unknownLevel
  | .source => .ok directive
  | _ => .error .malformed

def readFrom (directive : Directive) (state : State) : List Char → Except Fault Directive
  | [] => directive.finish state
  | letter :: rest => do
    let (directive, state) ← directive.step letter state
    readFrom directive state rest

def read (letters : List Char) : Except Fault Directive :=
  readFrom everything .start (Blank.trim letters)

/-- Whether a directive can be for an entry at all. -/
def isForEntries (directive : Directive) : Bool :=
  directive.span.isNone && directive.fields.all fun named => !named.2

/-- Whether a directive is for the entries of a source.  Every entry has one
field, its message. -/
def isFor (directive : Directive) (source : LogSource) : Bool :=
  directive.isForEntries && directive.source.isPrefixOf source.name.toList &&
    directive.fields.all fun named => named.1 = "message".toList

def isMoreSpecific (directive other : Directive) : Bool :=
  let rank (directive : Directive) : Nat :=
    if directive.hasSource then (String.ofList directive.source).utf8ByteSize + 1 else 0
  if rank directive = rank other then other.fields.length < directive.fields.length
  else rank other < rank directive

end Directive

/-- What is logged. -/
structure LogFilter where
  directives : List Directive
  deriving DecidableEq, Repr

namespace LogFilter

/-- The filter that lets errors pass. -/
def errors : LogFilter := ⟨[{ Directive.everything with threshold := some .error }]⟩

/-- Read a log filter; one without directives lets errors pass. -/
def parse (text : String) : Except Directive.Fault LogFilter := do
  let directives ← ((text.toList.splitOn ',').filter (· ≠ [])).mapM Directive.read
  return if directives = [] then errors else ⟨directives⟩

/-- The directive that decides for the entries of a source: the most specific
one, and of several the last. -/
def decisive? (filter : LogFilter) (source : LogSource) : Option Directive :=
  (filter.directives.filter (·.isFor source)).foldl
    (fun best directive =>
      match best with
      | none => some directive
      | some found => if found.isMoreSpecific directive then some found else some directive)
    none

def allows (filter : LogFilter) (entry : LogEntry) : Bool :=
  match filter.decisive? entry.source with
  | none => false
  | some directive => directive.threshold.allows entry.level

end LogFilter

end RevisionGuard
