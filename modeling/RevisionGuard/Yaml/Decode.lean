import RevisionGuard.Decimal.Shortest
import RevisionGuard.Yaml.Literal
import RevisionGuard.Yaml.Node.Compose
import RevisionGuard.Yaml.Value

/-!
# Reading nodes as what is asked for

A decoder turns a node into a value of a type, or says what does not fit and
where.  It follows references, but only so often, and goes into collections, but
only so deep, so that no document makes it run without end.

`Decoder.value` reads anything; the other readers are for the parts of a type
that is known in advance.  A mapping is read entry by entry with
`Decoder.entries?`, which also accepts that nothing is written.
-/

namespace RevisionGuard

namespace Yaml

/-- A reader of nodes: it counts the references it follows. -/
abbrev Decoder (α : Type) : Type := StateT Nat (Except Fault) α

/-- Where a decoder is: the document, the steps that led there, and how many
more collections it may enter. -/
structure Scope where
  document : Document
  path : List PathStep
  depth : Nat

namespace Scope

def ofDocument (document : Document) : Scope := ⟨document, [], 128⟩

def step (scope : Scope) (step : PathStep) : Scope := { scope with path := step :: scope.path }

def valueOf (scope : Scope) : Node → Scope
  | .scalar _ key _ => scope.step (.value key)
  | _ => scope.step .unnamed

def place (scope : Scope) (mark : Mark) : Place := ⟨scope.path, mark⟩

end Scope

namespace Decoder

variable {α : Type}

def mismatch (cause : Mismatch) : Decoder α := throw (.mismatch cause none)

/-- Say of a mismatch that it is at a place, unless a nearer place is known. -/
def locatedAt (place : Place) (decoder : Decoder α) : Decoder α :=
  tryCatch decoder fun fault => throw (fault.locate place)

/-- How often references may be followed for each part of a document. -/
def referencesPerPart : Nat := 100

def interrupted (scope : Scope) : Decoder α := throw (scope.document.fault.getD .noValue)

/-- The node itself, or the one that a reference stands for. -/
def follow (scope : Scope) : Node → Decoder Node
  | .reference _ anchor => do
    let followed ← get
    set (followed + 1)
    if scope.document.size * referencesPerPart < followed + 1 then throw .tooManyReferences
    else
      match scope.document.target? anchor with
      | some node => return node
      | none => interrupted scope
  | node => return node

/-! ## Scalars -/

/-- What a scalar stands for.  A tag decides for quoted scalars too; one that
has been taken into account already is disregarded. -/
def literal (tag : Option Tag) (text : String) (style : Style) : Except Mismatch Literal :=
  let open_ : Literal := if style = .plain then .ofText text else .text
  let require (literal : Option Literal) (expected : String) : Except Mismatch Literal :=
    match literal with
    | some literal => .ok literal
    | none => .error (.invalidValue text expected)
  match tag with
  | none => .ok open_
  | some (.core .boolean) => require ((Literal.boolean? text).map .boolean) "a boolean"
  | some (.core .integer) => require (Literal.integer? text.toList) "an integer"
  | some (.core .float) => require ((Literal.float? text.toList).map .float) "a float"
  | some (.core .null) => require (if Literal.isNull text then some .null else none) "null"
  | some (.named _) => .ok open_
  | some .unreadable => .ok open_
  | some .foreign => .ok .text

/-- What a message calls a literal. -/
def found (text : String) : Literal → Found
  | .null => .nothing
  | .boolean value => .boolean value
  | .integer value => .integer value
  | .wideUnsigned value => .wideInteger value "u128"
  | .wideSigned value => .wideInteger value "i128"
  | .float value => .float value.messageText
  | .text => .text text

/-- Report that a node is not of the expected type. -/
def unexpected (scope : Scope) (expected : String) : Node → Decoder α
  | .scalar head text style =>
    match literal head.tag text style with
    | .ok literal => mismatch (.invalidType (found text literal) expected)
    | .error cause => mismatch cause
  | .sequence _ _ => mismatch (.invalidType .sequence expected)
  | .mapping _ _ => mismatch (.invalidType .mapping expected)
  | .nothing _ => throw .noValue
  | .reference _ _ => interrupted scope
  | .cut => interrupted scope

def markOf : Node → Mark
  | .scalar head _ _ => head.mark
  | .sequence head _ => head.mark
  | .mapping head _ => head.mark
  | .reference mark _ => mark
  | .nothing mark => mark
  | .cut => Mark.start

def text (expected : String) (scope : Scope) (node : Node) : Decoder String := do
  let node ← follow scope node
  locatedAt (scope.place (markOf node)) <|
    match node with
    | .scalar _ text _ => return text
    | other => unexpected scope expected other

/-- Read a natural number of 64 bits. -/
def unsigned (expected : String) (scope : Scope) (node : Node) : Decoder UInt64 := do
  let node ← follow scope node
  locatedAt (scope.place (markOf node)) <|
    match node with
    | .scalar head text style =>
      let readable :=
        style = .plain || (style = .literal && head.tag = some (.core .integer))
      match if readable then Literal.unsigned? Numeral.bound text.toList else none with
      | some value => return UInt64.ofNat value
      | none => unexpected scope expected node
    | other => unexpected scope expected other

/-- Whether a scalar spells that there is nothing. -/
def isAbsent (tag : Option Tag) (text : String) (style : Style) : Except Mismatch Bool :=
  if style ≠ .plain then .ok false
  else
    match tag with
    | some (.core .null) =>
      if Literal.isNull text then .ok true else .error (.invalidValue text "null")
    | some _ => .ok false
    | none => .ok (text.isEmpty || Literal.isNull text)

def optional (read : Scope → Node → Decoder α) (scope : Scope) (node : Node) :
    Decoder (Option α) := do
  let node ← follow scope node
  match node with
  | .scalar head text style =>
    match isAbsent head.tag text style with
    | .ok true => return none
    | .ok false => some <$> read scope node
    | .error cause => mismatch cause
  | .nothing _ => return none
  | other => some <$> read scope other

/-! ## Mappings of a known type -/

/-- Read the entries of a mapping with a reader of its own.  Nothing written
counts as a mapping without entries. -/
def mapping (expected : String) (read : Scope → List (Node × Node) → Decoder α) (scope : Scope)
    (node : Node) : Decoder α := do
  let node ← follow scope node
  locatedAt (scope.place (markOf node)) <|
    match node with
    | .mapping head entries =>
      if scope.depth = 0 then throw (.tooDeep head.mark)
      else read { scope with depth := scope.depth - 1 } entries
    | .nothing _ => read scope []
    | .scalar head text style =>
      if text.isEmpty && style = .plain then read scope []
      else unexpected scope expected (.scalar head text style)
    | other => unexpected scope expected other

/-- Read a mapping from texts to texts; of two entries with one key the later
counts. -/
def texts (scope : Scope) (node : Node) : Decoder (List (String × String)) :=
  mapping "a map"
    (fun inside entries =>
      entries.mapM fun (key, value) => do
        let name ← text "a string" inside key
        let contents ← text "a string" (inside.valueOf key) value
        return (name, contents))
    scope node

/-- A place for a field that has not been met yet. -/
def fill (name : String) (slot : Option α) (read : Decoder α) : Decoder (Option α) :=
  match slot with
  | some _ => mismatch (.duplicateField name)
  | none => some <$> read

def require (name : String) (slot : Option α) : Decoder α :=
  match slot with
  | some value => return value
  | none => mismatch (.missingField name)

/-! ## Anything -/

def keyDescription : Value → String
  | .null => "with null key"
  | .boolean value => "with key `" ++ (if value then "true" else "false") ++ "`"
  | .integer value => "with key " ++ integerText value
  | .float value => "with key " ++ value.documentText
  | .text value => "with key " ++ quoted value
  | _ => "in YAML map"

def valueOf (expected text : String) : Literal → Decoder Value
  | .null => return .null
  | .boolean value => return .boolean value
  | .integer value => return .integer value
  | .float value => return .float value
  | .text => return .text text
  | wide => mismatch (.invalidType (found text wide) expected)

/-- What happens to tags of the document's own and to keys that come twice. -/
inductive Mode where
  /-- Tags are kept, and a key may come only once. -/
  | exact
  /-- There must be no tags, and keys are not compared. -/
  | loose
  deriving DecidableEq

def Mode.expected : Mode → String
  | .exact => "any YAML value"
  | .loose => "any value"

/-- The tag of the document's own that a node has. -/
def ownTag? : Node → Option String
  | .scalar head _ _ | .sequence head _ | .mapping head _ =>
    match head.tag with
    | some (.named name) => some name
    | _ => none
  | _ => none

def items (read : Scope → Node → Decoder Value) (scope : Scope) :
    Nat → List Node → Decoder (List Value)
  | _, [] => return []
  | position, node :: others => do
    let item ← read (scope.step (.item position)) node
    let rest ← items read scope (position + 1) others
    return item :: rest

/-- Read the entries of a mapping behind those found so far, which are in
reverse. -/
def entries (mode : Mode) (read : Scope → Node → Decoder Value) (scope : Scope) :
    List (Value × Value) → List (Node × Node) → Decoder (List (Value × Value))
  | found, [] => return found.reverse
  | found, (keyNode, valueNode) :: others => do
    let key ← read scope keyNode
    match found.find? fun entry => mode = .exact && key.same entry.1 with
    | some (earlier, _) => mismatch (.duplicateEntry (keyDescription earlier))
    | none =>
      let value ← read (scope.valueOf keyNode) valueNode
      entries mode read scope ((key, value) :: found) others

/-- Read the contents of a node apart from a tag of the document's own.  `inner`
reads what is inside of a collection, unless the node is too deep for one. -/
def untagged (mode : Mode) (inner : Option (Scope → Node → Decoder Value)) (tagged : Bool)
    (scope : Scope) : Node → Decoder Value
  | .scalar head text style =>
    match literal (if tagged then none else head.tag) text style with
    | .ok literal => valueOf mode.expected text literal
    | .error cause => mismatch cause
  | .sequence head nodes =>
    match inner with
    | none => throw (.tooDeep head.mark)
    | some read => .sequence <$> items read scope 0 nodes
  | .mapping head nodes =>
    match inner with
    | none => throw (.tooDeep head.mark)
    | some read => .mapping <$> entries mode read scope [] nodes
  | .nothing _ => return .null
  | .reference _ _ => interrupted scope
  | .cut => interrupted scope

def layer (mode : Mode) (inner : Option (Scope → Node → Decoder Value)) (scope : Scope)
    (node : Node) : Decoder Value := do
  let node ← follow scope node
  locatedAt (scope.place (markOf node)) <|
    match ownTag? node with
    | none => untagged mode inner false scope node
    | some tag =>
      match mode with
      | .exact => .tagged tag <$> untagged mode inner true scope node
      | .loose => mismatch .misplacedTag

/-- Read a node as a value, at most so many collections deep. -/
def valueWithin (mode : Mode) : Nat → Scope → Node → Decoder Value
  | 0 => layer mode none
  | depth + 1 => layer mode (some (valueWithin mode depth))

def value (mode : Mode) (scope : Scope) (node : Node) : Decoder Value :=
  valueWithin mode scope.depth scope node

mutual
/-- Check that no mapping in a value has a key twice. -/
def distinct : Value → Decoder Unit
  | .sequence items => distinctItems items
  | .mapping entries => distinctEntries [] entries
  | .tagged _ value => distinct value
  | _ => return ()

/-- Check the items of a sequence. -/
def distinctItems : List Value → Decoder Unit
  | [] => return ()
  | item :: others => do
    distinct item
    distinctItems others

/-- Check the entries of a mapping behind those with the given keys. -/
def distinctEntries (seen : List Value) : List (Value × Value) → Decoder Unit
  | [] => return ()
  | (key, value) :: others => do
    distinct key
    match seen.find? fun other => key.same other with
    | some earlier => mismatch (.duplicateEntry (keyDescription earlier))
    | none =>
      distinct value
      distinctEntries (key :: seen) others
end

end Decoder

namespace Document

/-- Read the only document of a text.  A fault behind what was read counts as
well, and so does a further document. -/
def decode {α : Type} (document : Document) (decoder : Scope → Node → Decoder α) :
    Except Fault α := do
  let (result, _) ← (decoder (Scope.ofDocument document) document.root).run 0
  match document.fault with
  | some fault => .error fault
  | none => if document.followed then .error .severalDocuments else .ok result

end Document

end Yaml

end RevisionGuard
