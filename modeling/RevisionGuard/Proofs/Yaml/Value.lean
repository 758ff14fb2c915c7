import RevisionGuard.Yaml.Value
import Mathlib.Tactic.Common

/-!
# Equality of values

Values nest in sequences and mappings, so that equality is decided by one pass over a value,
its items and its entries (`Value.equals_iff`).  Sameness, for which the order of entries
does not matter, is weaker: a value is the same as itself (`Value.same_self`).
-/

namespace RevisionGuard

namespace Yaml

namespace Value

/-! ## Deciding equality -/

mutual
/-- Whether two values are equal, with the entries of their mappings in the same order. -/
def equals : Value → Value → Bool
  | .null, .null => true
  | .boolean left, .boolean right => left = right
  | .integer left, .integer right => left = right
  | .float left, .float right => left = right
  | .text left, .text right => left = right
  | .sequence left, .sequence right => equalsItems left right
  | .mapping left, .mapping right => equalsEntries left right
  | .tagged leftTag left, .tagged rightTag right => leftTag = rightTag && equals left right
  | _, _ => false

def equalsItems : List Value → List Value → Bool
  | [], [] => true
  | left :: lefts, right :: rights => equals left right && equalsItems lefts rights
  | _, _ => false

def equalsEntries : List (Value × Value) → List (Value × Value) → Bool
  | [], [] => true
  | (leftKey, left) :: lefts, (rightKey, right) :: rights =>
    equals leftKey rightKey && equals left right && equalsEntries lefts rights
  | _, _ => false
end

mutual
theorem equals_iff : ∀ left right : Value, equals left right = true ↔ left = right
  | .null, right => by cases right <;> simp [equals]
  | .boolean _, right => by cases right <;> simp [equals]
  | .integer _, right => by cases right <;> simp [equals]
  | .float _, right => by cases right <;> simp [equals]
  | .text _, right => by cases right <;> simp [equals]
  | .sequence items, right => by cases right <;> simp [equals, equalsItems_iff items]
  | .mapping entries, right => by cases right <;> simp [equals, equalsEntries_iff entries]
  | .tagged _ value, right => by cases right <;> simp [equals, equals_iff value]

theorem equalsItems_iff : ∀ left right : List Value, equalsItems left right = true ↔ left = right
  | [], right => by cases right <;> simp [equalsItems]
  | item :: items, right => by
      cases right <;> simp [equalsItems, equals_iff item, equalsItems_iff items]

theorem equalsEntries_iff :
    ∀ left right : List (Value × Value), equalsEntries left right = true ↔ left = right
  | [], right => by cases right <;> simp [equalsEntries]
  | (key, value) :: entries, right => by
      cases right <;>
        simp [equalsEntries, Prod.ext_iff, equals_iff key, equals_iff value,
          equalsEntries_iff entries]
end

instance : DecidableEq Value := fun left right => decidable_of_iff _ (equals_iff left right)

/-! ## Values that are the same -/

mutual
/-- A value is the same as itself. -/
theorem same_self : ∀ value : Value, value.same value = true
  | .null => by rw [same]
  | .boolean _ => by rw [same, decide_eq_true rfl]
  | .integer _ => by rw [same, decide_eq_true rfl]
  | .float value => by
      rw [same, Double.same, decide_eq_true rfl, Bool.or_true]
  | .text _ => by rw [same, decide_eq_true rfl]
  | .sequence items => by rw [same, sameItems_self items]
  | .mapping entries => by
      rw [same, decide_eq_true rfl, allEntriesIn_of_subset entries entries (List.Subset.refl _)]
      rfl
  | .tagged _ value => by
      rw [same, decide_eq_true rfl, same_self value]
      rfl

theorem sameItems_self : ∀ items : List Value, sameItems items items = true
  | [] => by rw [sameItems]
  | item :: items => by
      rw [sameItems, same_self item, sameItems_self items]
      rfl

theorem allEntriesIn_of_subset : ∀ front entries : List (Value × Value), front ⊆ entries →
    allEntriesIn front entries = true
  | [], _, _ => by rw [allEntriesIn]
  | (key, value) :: front, entries, hsubset => by
      have hfound : (entries.any fun entry => key.same entry.1 && value.same entry.2) = true := by
        refine List.any_eq_true.mpr ⟨(key, value), hsubset List.mem_cons_self, ?_⟩
        rw [same_self key, same_self value]
        rfl
      have hfront := allEntriesIn_of_subset front entries fun entry hentry =>
        hsubset (List.mem_cons_of_mem _ hentry)
      rw [allEntriesIn, hfound, hfront]
      rfl
end

theorem eq_null_of_same {value : Value} (hsame : Value.null.same value = true) : value = .null := by
  cases value <;> simp [same] at hsame ⊢

end Value

end Yaml

end RevisionGuard
