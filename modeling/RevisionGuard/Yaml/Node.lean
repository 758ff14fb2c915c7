import RevisionGuard.Text.Utf8
import RevisionGuard.Yaml.Token

/-!
# The nodes of a document

A document as its text says it, before it is known what it is to hold: scalars
with their style, sequences, mappings, and references to nodes with an anchor.
Where a fault interrupts the text, what was read before it is still a node, and
`Node.cut` stands at the place where the rest is missing.
-/

namespace RevisionGuard

namespace Yaml

/-- The types that a document can ask for by name. -/
inductive CoreType where
  | boolean
  | integer
  | float
  | null
  deriving DecidableEq, Repr

/-- A tag, as far as it makes a difference. -/
inductive Tag where
  | core (type : CoreType)
  | named (name : String)
  /-- A tag of the document's own that is no text. -/
  | unreadable
  | foreign
  deriving DecidableEq, Repr

namespace Tag

/-- What the tags of the core types start with. -/
def corePrefix : String := "tag:yaml.org,2002:"

/-- The core types by the end of their tags. -/
def coreTypes : List (String × CoreType) :=
  [("bool", .boolean), ("int", .integer), ("float", .float), ("null", .null)]

/-- Drop the exclamation mark in front of a name, unless it is all there is. -/
def withoutMark : List Char → List Char
  | '!' :: letter :: rest => letter :: rest
  | letters => letters

/-- The name in a tag of the document's own. -/
def nameOf (letters : List Char) : String :=
  String.ofList (withoutMark (withoutMark letters))

/-- The tag with a written form. -/
def ofBytes (bytes : List UInt8) : Tag :=
  match Utf8.letters? bytes with
  | none => if bytes.head? = some (UInt8.ofNat '!'.toNat) then .unreadable else .foreign
  | some letters =>
    if letters.head? = some '!' then .named (nameOf letters)
    else
      match coreTypes.find? fun (name, _) => letters = (corePrefix ++ name).toList with
      | some (_, type) => .core type
      | none => .foreign

end Tag

/-- What is said of a node apart from its contents. -/
structure Head where
  mark : Mark
  tag : Option Tag
  anchor : Option Nat

/-- A node of a document. -/
inductive Node where
  | scalar (head : Head) (text : String) (style : Style)
  | sequence (head : Head) (items : List Node)
  | mapping (head : Head) (entries : List (Node × Node))
  | reference (mark : Mark) (anchor : Nat)
  /-- What a text without a document holds. -/
  | nothing (mark : Mark)
  /-- The rest is missing because of a fault. -/
  | cut

namespace Node

/-- A scalar that is not written at all. -/
def unwritten (mark : Mark) : Node := .scalar ⟨mark, none, none⟩ "" .plain

mutual
/-- The number of starts, ends, scalars and references that a node is made
of. -/
def size : Node → Nat
  | .scalar _ _ _ => 1
  | .sequence _ items => 2 + sizeOfItems items
  | .mapping _ entries => 2 + sizeOfEntries entries
  | .reference _ _ => 1
  | .nothing _ => 1
  | .cut => 0

def sizeOfItems : List Node → Nat
  | [] => 0
  | item :: others => item.size + sizeOfItems others

def sizeOfEntries : List (Node × Node) → Nat
  | [] => 0
  | (key, value) :: others => key.size + value.size + sizeOfEntries others
end

/-- A node with its anchor's number, if it has one. -/
def bearing (head : Head) (node : Node) : List (Nat × Node) :=
  match head.anchor with
  | some anchor => [(anchor, node)]
  | none => []

mutual
/-- The nodes with an anchor, in the order in which they start. -/
def anchored : Node → List (Nat × Node)
  | .scalar head text style => bearing head (.scalar head text style)
  | .sequence head items => bearing head (.sequence head items) ++ anchoredItems items
  | .mapping head entries => bearing head (.mapping head entries) ++ anchoredEntries entries
  | .reference _ _ => []
  | .nothing _ => []
  | .cut => []

def anchoredItems : List Node → List (Nat × Node)
  | [] => []
  | item :: others => anchored item ++ anchoredItems others

def anchoredEntries : List (Node × Node) → List (Nat × Node)
  | [] => []
  | (key, value) :: others => anchored key ++ anchored value ++ anchoredEntries others
end

end Node

end Yaml

end RevisionGuard
