import RevisionGuard.Yaml.Fault
import RevisionGuard.Yaml.Node
import RevisionGuard.Yaml.Token.Scan

/-!
# From tokens to nodes

The nodes of a text are composed from its tokens.  A composition that meets a
fault returns the part of the node in front of it, with `Node.cut` for what is
missing, and the fault.  `Document.ofSource` composes the first document of a
text and notes whether anything follows it.
-/

namespace RevisionGuard

namespace Yaml

/-- The first document of a text. -/
structure Document where
  root : Node
  fault : Option Fault
  followed : Bool

/-- The state of a composition. -/
structure Composer where
  tokens : List Token
  /-- Why there are no more tokens. -/
  interruption : Fault
  /-- The anchors met so far and their numbers. -/
  anchors : List (List Char × Nat)
  /-- The handles of tags and what they stand for. -/
  handles : List (List Char × List UInt8)

namespace Composer

def peek (composer : Composer) : Except Fault Token :=
  match composer.tokens with
  | token :: _ => .ok token
  | [] => .error composer.interruption

def skip (composer : Composer) : Composer := { composer with tokens := composer.tokens.tail }

def fault (problem : Problem) (mark : Mark) (context : Option (Activity × Mark)) : Fault :=
  .malformed ⟨problem, mark, context⟩

/-! ## Properties of nodes -/

/-- Give an anchor its number.  A name that is used again gets a new number
without counting as a further name. -/
def register (composer : Composer) : Option (List Char) → Option Nat × Composer
  | none => (none, composer)
  | some name =>
    let number := composer.anchors.length
    let others := composer.anchors.filter fun (other, _) => other ≠ name
    (some number, { composer with anchors := (name, number) :: others })

/-- What precedes the contents of a node. -/
structure Properties where
  mark : Mark
  anchor : Option (List Char)
  tag : Option (TagText × Mark)

def properties (composer : Composer) : Except Fault (Properties × Composer) := do
  let first ← composer.peek
  match first.word with
  | .anchor name =>
    let behind := composer.skip
    let second ← behind.peek
    match second.word with
    | .tag text =>
      let further := behind.skip
      let _ ← further.peek
      return (⟨first.first, some name, some (text, second.first)⟩, further)
    | _ => return (⟨first.first, some name, none⟩, behind)
  | .tag text =>
    let behind := composer.skip
    let second ← behind.peek
    match second.word with
    | .anchor name =>
      let further := behind.skip
      let _ ← further.peek
      return (⟨first.first, some name, some (text, first.first)⟩, further)
    | _ => return (⟨first.first, none, some (text, first.first)⟩, behind)
  | _ => return (⟨first.first, none, none⟩, composer)

/-- The bytes of a tag once its handle is replaced. -/
def tagBytes (composer : Composer) (properties : Properties) : Except Fault (Option (List UInt8)) :=
  match properties.tag with
  | none => .ok none
  | some (text, mark) =>
    if text.handle.isEmpty then .ok (some text.suffix)
    else
      match composer.handles.lookup text.handle with
      | some replacement => .ok (some (replacement ++ text.suffix))
      | none => .error (fault .undefinedTagHandle mark (some (.node, properties.mark)))

/-- Read the properties of a node and give its anchor a number. -/
def head (composer : Composer) :
    Except Fault (Properties × Option (List UInt8) × Composer) := do
  let (properties, behind) ← composer.properties
  let bytes ← behind.tagBytes properties
  return (properties, bytes, behind)

/-! ## Nodes -/

/-- A part of a document, and the state behind it or the fault that cut it
short. -/
abbrev Composed (α : Type) : Type := α × Except Fault Composer

/-- Whether the value of an entry of a block mapping is left out in front of a
token. -/
def endsBlockValue : Word → Bool
  | .key | .value | .blockEnd => true
  | _ => false

/-- Whether an entry of a block sequence is left out in front of a token. -/
def endsBlockItem : Word → Bool
  | .blockEntry | .blockEnd => true
  | _ => false

/-- Whether an entry of a sequence inside a mapping is left out in front of a
token. -/
def endsIndentlessItem : Word → Bool
  | .blockEntry | .key | .value | .blockEnd => true
  | _ => false

/-- Whether a part of an entry of a flow sequence is left out in front of a
token. -/
def endsFlowItem : Word → Bool
  | .flowEntry | .flowSequenceEnd => true
  | _ => false

/-- Whether a part of an entry of a flow mapping is left out in front of a
token. -/
def endsFlowValue : Word → Bool
  | .flowEntry | .flowMappingEnd => true
  | _ => false

/-- Where a node stands. -/
inductive Position where
  /-- In a block collection or at the root. -/
  | block
  /-- In a block mapping, where a sequence needs no deeper indentation. -/
  | blockMapping
  /-- In a flow collection. -/
  | flow
  deriving DecidableEq

mutual
def node (position : Position) : Nat → Composer → Composed Node
  | 0, composer => (.cut, .error composer.interruption)
  | fuel + 1, composer =>
    match composer.peek with
    | .error fault => (.cut, .error fault)
    | .ok token =>
      match token.word with
      | .reference name =>
        match composer.anchors.lookup name with
        | some number => (.reference token.first number, .ok composer.skip)
        | none => (.cut, .error (.unknownAnchor token.first))
      | _ =>
        match composer.head with
        | .error fault => (.cut, .error fault)
        | .ok (properties, bytes, behind) => contents position properties bytes fuel behind

def contents (position : Position) (properties : Properties) (bytes : Option (List UInt8)) :
    Nat → Composer → Composed Node
  | 0, composer => (.cut, .error composer.interruption)
  | fuel + 1, composer =>
    match composer.peek with
    | .error fault => (.cut, .error fault)
    | .ok token =>
      let (anchor, known) := composer.register properties.anchor
      let head : Head := ⟨properties.mark, bytes.map Tag.ofBytes, anchor⟩
      let inside := known.skip
      match token.word with
      | .scalar text style => (.scalar head text style, .ok inside)
      | .flowSequenceStart =>
        let (items, result) := flowItems token.first true fuel inside
        (.sequence head items, result)
      | .flowMappingStart =>
        let (entries, result) := flowEntries token.first true fuel inside
        (.mapping head entries, result)
      | word =>
        if position = .blockMapping ∧ word = .blockEntry then
          let (items, result) := indentlessItems fuel known
          (.sequence head items, result)
        else if position ≠ .flow ∧ word = .blockSequenceStart then
          let (items, result) := blockItems token.first fuel inside
          (.sequence head items, result)
        else if position ≠ .flow ∧ word = .blockMappingStart then
          let (entries, result) := blockEntries token.first fuel inside
          (.mapping head entries, result)
        else if properties.anchor.isSome || properties.tag.isSome then
          (.scalar head "" .plain, .ok known)
        else
          let activity := if position = .flow then Activity.flowNode else .blockNode
          (.cut, .error (fault .noNodeContent token.first (some (activity, properties.mark))))

def blockItems (began : Mark) : Nat → Composer → Composed (List Node)
  | 0, composer => ([.cut], .error composer.interruption)
  | fuel + 1, composer =>
    match composer.peek with
    | .error fault => ([.cut], .error fault)
    | .ok token =>
      match token.word with
      | .blockEntry =>
        match optional endsBlockItem .block (fun _ => token.last) fuel composer.skip with
        | (item, .error fault) => ([item], .error fault)
        | (item, .ok behind) =>
          let (others, result) := blockItems began fuel behind
          (item :: others, result)
      | .blockEnd => ([], .ok composer.skip)
      | _ => ([.cut], .error (fault .noDash token.first (some (.blockSequence, began))))

/-- Compose the items of a sequence that is indented like the mapping around
it. -/
def indentlessItems : Nat → Composer → Composed (List Node)
  | 0, composer => ([.cut], .error composer.interruption)
  | fuel + 1, composer =>
    match composer.peek with
    | .error fault => ([.cut], .error fault)
    | .ok token =>
      match token.word with
      | .blockEntry =>
        match optional endsIndentlessItem .block (fun _ => token.last) fuel composer.skip with
        | (item, .error fault) => ([item], .error fault)
        | (item, .ok behind) =>
          let (others, result) := indentlessItems fuel behind
          (item :: others, result)
      | _ => ([], .ok composer)

def blockEntries (began : Mark) : Nat → Composer → Composed (List (Node × Node))
  | 0, composer => ([(.cut, .cut)], .error composer.interruption)
  | fuel + 1, composer =>
    match composer.peek with
    | .error fault => ([(.cut, .cut)], .error fault)
    | .ok token =>
      match token.word with
      | .key =>
        match optional endsBlockValue .blockMapping (fun _ => token.last) fuel composer.skip with
        | (key, .error fault) => ([(key, .cut)], .error fault)
        | (key, .ok behind) =>
          match blockValue fuel behind with
          | (value, .error fault) => ([(key, value)], .error fault)
          | (value, .ok behind) =>
            let (others, result) := blockEntries began fuel behind
            ((key, value) :: others, result)
      | .blockEnd => ([], .ok composer.skip)
      | _ => ([(.cut, .cut)], .error (fault .noKey token.first (some (.blockMapping, began))))

def blockValue : Nat → Composer → Composed Node
  | 0, composer => (.cut, .error composer.interruption)
  | fuel + 1, composer =>
    match composer.peek with
    | .error fault => (.cut, .error fault)
    | .ok token =>
      match token.word with
      | .value => optional endsBlockValue .blockMapping (fun _ => token.last) fuel composer.skip
      | _ => (.unwritten token.first, .ok composer)

def flowItems (began : Mark) (isFirst : Bool) : Nat → Composer → Composed (List Node)
  | 0, composer => ([.cut], .error composer.interruption)
  | fuel + 1, composer =>
    match separator .flowSequenceEnd .noCommaOrBracket (.flowSequence, began) isFirst composer with
    | .error fault => ([.cut], .error fault)
    | .ok (token, composer) =>
      match token.word with
      | .flowSequenceEnd => ([], .ok composer.skip)
      | .key =>
        let (entry, result) := singleEntry fuel composer.skip
        let item := Node.mapping ⟨token.first, none, none⟩ [entry]
        match result with
        | .error fault => ([item], .error fault)
        | .ok behind =>
          let (others, result) := flowItems began false fuel behind
          (item :: others, result)
      | _ =>
        match node .flow fuel composer with
        | (item, .error fault) => ([item], .error fault)
        | (item, .ok behind) =>
          let (others, result) := flowItems began false fuel behind
          (item :: others, result)

/-- Compose the only entry of a mapping that is an item of a flow sequence.
Where its key is left out, the token in its place counts as the key. -/
def singleEntry : Nat → Composer → Composed (Node × Node)
  | 0, composer => ((.cut, .cut), .error composer.interruption)
  | fuel + 1, composer =>
    match composer.peek with
    | .error fault => ((.cut, .cut), .error fault)
    | .ok token =>
      let (key, result) :=
        if endsFlowItem token.word || token.word = .value then
          (.unwritten token.last, .ok composer.skip)
        else node .flow fuel composer
      match result with
      | .error fault => ((key, .cut), .error fault)
      | .ok behind =>
        let (value, result) := flowValue endsFlowItem fuel behind
        ((key, value), result)

def flowValue (isEnd : Word → Bool) : Nat → Composer → Composed Node
  | 0, composer => (.cut, .error composer.interruption)
  | fuel + 1, composer =>
    match composer.peek with
    | .error fault => (.cut, .error fault)
    | .ok token =>
      match token.word with
      | .value => optional isEnd .flow Token.first fuel composer.skip
      | _ => (.unwritten token.first, .ok composer)

def flowEntries (began : Mark) (isFirst : Bool) : Nat → Composer → Composed (List (Node × Node))
  | 0, composer => ([(.cut, .cut)], .error composer.interruption)
  | fuel + 1, composer =>
    match separator .flowMappingEnd .noCommaOrBrace (.flowMapping, began) isFirst composer with
    | .error fault => ([(.cut, .cut)], .error fault)
    | .ok (token, composer) =>
      match token.word with
      | .flowMappingEnd => ([], .ok composer.skip)
      | word =>
        let (key, result) :=
          if word = .key then
            optional (fun other => endsFlowValue other || other = .value) .flow Token.first fuel
              composer.skip
          else node .flow fuel composer
        match result with
        | .error fault => ([(key, .cut)], .error fault)
        | .ok behind =>
          let (value, result) :=
            if word = .key then flowValue endsFlowValue fuel behind
            else
              match behind.peek with
              | .error fault => (.cut, .error fault)
              | .ok token => (.unwritten token.first, .ok behind)
          match result with
          | .error fault => ([(key, value)], .error fault)
          | .ok behind =>
            let (others, result) := flowEntries began false fuel behind
            ((key, value) :: others, result)

/-- Compose a node that may be left out in front of certain tokens; `mark` says
where it then stands. -/
def optional (isEnd : Word → Bool) (position : Position) (mark : Token → Mark) :
    Nat → Composer → Composed Node
  | 0, composer => (.cut, .error composer.interruption)
  | fuel + 1, composer =>
    match composer.peek with
    | .error fault => (.cut, .error fault)
    | .ok token =>
      if isEnd token.word then (.unwritten (mark token), .ok composer)
      else node position fuel composer

/-- Move behind the comma in front of an entry of a flow collection, and return
the token behind it. -/
def separator (closing : Word) (problem : Problem) (context : Activity × Mark) (isFirst : Bool)
    (composer : Composer) : Except Fault (Token × Composer) :=
  match composer.peek with
  | .error fault => .error fault
  | .ok token =>
    if token.word = closing ∨ isFirst then .ok (token, composer)
    else if token.word = .flowEntry then
      match composer.skip.peek with
      | .error fault => .error fault
      | .ok token => .ok (token, composer.skip)
    else .error (fault problem token.first (some context))
end

/-! ## Documents -/

/-- The handles that every document knows. -/
def standardHandles : List (List Char × List UInt8) :=
  [(['!'], Token.asciiBytes ['!']),
    (['!', '!'], Token.asciiBytes Tag.corePrefix.toList)]

/-- Read the directives in front of a document. -/
def directives (versioned : Bool) : Nat → Composer → Except Fault Composer
  | 0, composer => .error composer.interruption
  | fuel + 1, composer =>
    match composer.peek with
    | .error fault => .error fault
    | .ok token =>
      match token.word with
      | .versionDirective major minor =>
        if versioned then .error (fault .duplicateVersionDirective token.first none)
        else if major = 1 ∧ (minor = 1 ∨ minor = 2) then directives true fuel composer.skip
        else .error (fault .incompatibleVersion token.first none)
      | .tagDirective handle replacement =>
        if (composer.handles.lookup handle).isSome then
          .error (fault .duplicateTagDirective token.first none)
        else
          directives versioned fuel
            { composer.skip with handles := composer.handles ++ [(handle, replacement)] }
      | _ => .ok { composer with handles := composer.handles ++ standardHandles }

/-- Whether a document is empty in front of a token. -/
def endsDocument : Word → Bool
  | .versionDirective _ _ | .tagDirective _ _ | .documentStart | .documentEnd | .streamEnd => true
  | _ => false

/-- Whether nothing but ends of documents follows. -/
def isAtEnd : List Token → Bool
  | [] => false
  | token :: others =>
    match token.word with
    | .documentEnd => isAtEnd others
    | .streamEnd => true
    | _ => false

/-- Finish the document whose contents have been composed. -/
def finish : Composed Node → Document
  | (root, .error fault) => ⟨root, some fault, false⟩
  | (root, .ok composer) =>
    match composer.peek with
    | .error fault => ⟨root, some fault, false⟩
    | .ok _ => ⟨root, none, !isAtEnd composer.tokens⟩

def document (composer : Composer) : Document :=
  let fuel := 4 * composer.tokens.length + 8
  match composer.peek with
  | .error fault => ⟨.cut, some fault, false⟩
  | .ok token =>
    match token.word with
    | .streamEnd => ⟨.nothing token.first, none, false⟩
    | .versionDirective _ _ | .tagDirective _ _ | .documentStart =>
      match composer.directives false fuel with
      | .error fault => ⟨.cut, some fault, false⟩
      | .ok behind =>
        match behind.peek with
        | .error fault => ⟨.cut, some fault, false⟩
        | .ok token =>
          if token.word = .documentStart then
            finish (optional endsDocument .block Token.first fuel behind.skip)
          else ⟨.cut, some (fault .noDocumentStart token.first none), false⟩
    | _ => finish (node .block fuel { composer with handles := standardHandles })

end Composer

namespace Document

/-- The first document of a text. -/
def ofSource (source : Source) : Document :=
  let (tokens, interruption) := Token.scan source
  Composer.document ⟨tokens, interruption.getD .noValue, [], []⟩

/-- The number of parts that a document is made of. -/
def size (document : Document) : Nat := document.root.size

/-- The node that a reference stands for: the last one with the anchor's
number. -/
def target? (document : Document) (anchor : Nat) : Option Node :=
  document.root.anchored.reverse.lookup anchor

end Document

end Yaml

end RevisionGuard
