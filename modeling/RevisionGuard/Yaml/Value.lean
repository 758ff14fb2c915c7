import RevisionGuard.Decimal.Double

/-!
# Values

What a document says once its references are followed and its scalars are
resolved.  Mappings keep the order of their entries, but two values are the
same (`Value.same`) whatever the order of the entries in their mappings.
-/

namespace RevisionGuard

namespace Yaml

/-- A value of arbitrary shape. -/
inductive Value where
  | null
  | boolean (value : Bool)
  | integer (value : Int)
  | float (value : Double)
  | text (value : String)
  | sequence (items : List Value)
  | mapping (entries : List (Value × Value))
  /-- A value under a tag of the document's own. -/
  | tagged (tag : String) (value : Value)

namespace Value

/-- Whether a value is null, with or without a tag. -/
def isNull : Value → Bool
  | .null => true
  | .tagged _ value => isNull value
  | _ => false

mutual
def same : Value → Value → Bool
  | .null, .null => true
  | .boolean left, .boolean right => left = right
  | .integer left, .integer right => left = right
  | .float left, .float right => left.same right
  | .text left, .text right => left = right
  | .sequence left, .sequence right => sameItems left right
  | .mapping left, .mapping right => left.length = right.length && allEntriesIn left right
  | .tagged leftTag left, .tagged rightTag right => leftTag = rightTag && same left right
  | _, _ => false

def sameItems : List Value → List Value → Bool
  | [], [] => true
  | left :: lefts, right :: rights => same left right && sameItems lefts rights
  | _, _ => false

/-- Whether each entry has its key with its value among others. -/
def allEntriesIn : List (Value × Value) → List (Value × Value) → Bool
  | [], _ => true
  | (key, value) :: others, entries =>
    (entries.any fun entry => same key entry.1 && same value entry.2) &&
      allEntriesIn others entries
end

end Value

end Yaml

end RevisionGuard
