import RevisionGuard.Proofs.Yaml.Readers

/-!
# Values are read alike everywhere

What a node says as a value depends on the document and on the references followed so
far, and not on the steps that led to the node: those appear in messages only.  The two
ways to read arbitrary values agree as well, as far as both can read them:

* what is read with tags and has none is also what is read without
  (`Decoder.agrees_valueWithin`);
* what is read without tags has none (`Decoder.isUntagged_of_gives`);
* in what is read with tags no mapping has a key twice (`Decoder.isDistinct_of_gives`),
  so the check that follows the reading without tags passes.
-/

namespace RevisionGuard

namespace Yaml

namespace Value

mutual
/-- Whether there is no tag in a value. -/
def isUntagged : Value → Bool
  | .sequence items => areUntagged items
  | .mapping entries => areEntriesUntagged entries
  | .tagged _ _ => false
  | _ => true

def areUntagged : List Value → Bool
  | [] => true
  | item :: others => isUntagged item && areUntagged others

def areEntriesUntagged : List (Value × Value) → Bool
  | [] => true
  | (key, value) :: others => isUntagged key && isUntagged value && areEntriesUntagged others
end

/-- A value that holds no others. -/
def IsLeaf : Value → Prop
  | .sequence _ | .mapping _ | .tagged _ _ => False
  | _ => True

variable {values : List Value} {pairs : List (Value × Value)}

theorem areUntagged_iff :
    areUntagged values = true ↔ ∀ item ∈ values, item.isUntagged = true := by
  induction values with
  | nil => simp [areUntagged]
  | cons item others ih => simp [areUntagged, ih]

theorem areEntriesUntagged_iff :
    areEntriesUntagged pairs = true ↔
      ∀ pair ∈ pairs, pair.1.isUntagged = true ∧ pair.2.isUntagged = true := by
  induction pairs with
  | nil => simp [areEntriesUntagged]
  | cons pair others ih =>
      obtain ⟨key, value⟩ := pair
      rw [areEntriesUntagged, Bool.and_eq_true, Bool.and_eq_true, ih, List.forall_mem_cons]

end Value

open Value

namespace Decoder

variable {scope other : Scope} {node : Node} {before after : Nat} {value : Value} {mode : Mode}
  {read reread : Scope → Node → Decoder Value}
  {inner reinner : Option (Scope → Node → Decoder Value)} {own : Bool}

/-! ## With tags and without -/

/-- What one reader gives with tags, another gives in a mode, wherever in the same
document. -/
def Agrees (mode : Mode) (read reread : Scope → Node → Decoder Value) : Prop :=
  ∀ {scope other : Scope} {node : Node} {before after : Nat} {value : Value},
    scope.document = other.document → (mode = .loose → value.isUntagged = true) →
      Gives (read scope node) before value after → Gives (reread other node) before value after

theorem valueOf_document (scope : Scope) (node : Node) :
    (scope.valueOf node).document = scope.document := by
  cases node <;> rfl

theorem Listed.agree {position : Nat} {nodes : List Node} {values : List Value}
    (hagrees : Agrees mode read reread) (hdocument : scope.document = other.document)
    (hlisted : Listed read scope position nodes before values after)
    (huntagged : mode = .loose → areUntagged values = true) :
    Listed reread other position nodes before values after := by
  induction hlisted with
  | nil => exact .nil
  | cons hitem _ ih =>
      simp only [areUntagged, Bool.and_eq_true] at huntagged
      have hstep (position : Nat) : (scope.step (.item position)).document =
          (other.step (.item position)).document := hdocument
      exact .cons (hagrees (hstep _) (fun hloose => (huntagged hloose).1) hitem)
        (ih fun hloose => (huntagged hloose).2)

theorem Entered.agree {seen : List Value} {nodes : List (Node × Node)}
    {pairs : List (Value × Value)} (hagrees : Agrees mode read reread)
    (hdocument : scope.document = other.document)
    (hentered : Entered .exact read scope seen nodes before pairs after)
    (huntagged : mode = .loose → areEntriesUntagged pairs = true) :
    Entered mode reread other seen nodes before pairs after := by
  induction hentered with
  | nil => exact .nil
  | @cons _ _ _ _ _ keyNode _ _ _ _ _ hkey hnew hvalue _ ih =>
      simp only [areEntriesUntagged, Bool.and_eq_true] at huntagged
      refine .cons (hagrees hdocument (fun hloose => (huntagged hloose).1.1) hkey) ?_
        (hagrees ?_ (fun hloose => (huntagged hloose).1.2) hvalue)
        (ih fun hloose => (huntagged hloose).2)
      · cases mode with
        | exact => exact hnew
        | loose => simp
      · rw [valueOf_document, valueOf_document, hdocument]

/-- The two modes call what they expect by different names only. -/
theorem gives_valueOf_congr {expected called text : String} {meant : Literal}
    (hvalue : Gives (valueOf expected text meant) before value after) :
    Gives (valueOf called text meant) before value after := by
  cases meant with
  | wideUnsigned _ | wideSigned _ => exact (not_gives_mismatch hvalue).elim
  | _ => exact hvalue

theorem Contents.agree
    (hinner : ∀ read, inner = some read →
      ∃ reread, reinner = some reread ∧ Agrees mode read reread)
    (hdocument : scope.document = other.document)
    (hcontents : Contents .exact inner own scope node before value after)
    (huntagged : mode = .loose → value.isUntagged = true) :
    Contents mode reinner own other node before value after := by
  cases hcontents with
  | scalar hmeant hvalue => exact .scalar hmeant (gives_valueOf_congr hvalue)
  | sequence hread hlisted =>
      obtain ⟨reread, hreread, hagrees⟩ := hinner _ hread
      exact .sequence hreread (hlisted.agree hagrees hdocument huntagged)
  | mapping hread hentered =>
      obtain ⟨reread, hreread, hagrees⟩ := hinner _ hread
      exact .mapping hreread (hentered.agree hagrees hdocument huntagged)
  | nothing => exact .nothing

theorem agrees_layer
    (hinner : ∀ read, inner = some read →
      ∃ reread, reinner = some reread ∧ Agrees mode read reread) :
    Agrees mode (layer .exact inner) (layer mode reinner) := by
  intro scope other node before after value hdocument huntagged hgives
  obtain ⟨target, middle, hfollow, hcontents⟩ := gives_layer_iff.mp hgives
  rw [follow_congr hdocument] at hfollow
  refine gives_layer_iff.mpr ⟨target, middle, hfollow, ?_⟩
  cases htag : ownTag? target with
  | none =>
      rw [htag] at hcontents
      exact hcontents.agree hinner hdocument huntagged
  | some tag =>
      rw [htag] at hcontents
      obtain ⟨-, content, rfl, hcontents⟩ := hcontents
      cases mode with
      | exact =>
          exact ⟨rfl, content, rfl, hcontents.agree hinner hdocument fun hloose => by cases hloose⟩
      | loose =>
          have hfalse := huntagged rfl
          simp [isUntagged] at hfalse

/-- What is read with tags, and without the tags being needed, is read in either mode and
everywhere alike. -/
theorem agrees_valueWithin (mode : Mode) (depth : Nat) :
    Agrees mode (valueWithin .exact depth) (valueWithin mode depth) := by
  induction depth with
  | zero => exact agrees_layer (by simp)
  | succ depth ih =>
      refine agrees_layer fun read hread => ?_
      obtain rfl := Option.some.inj hread
      exact ⟨_, rfl, ih⟩

/-! ## What is known of the values read -/

theorem isLeaf_of_valueOf {expected text : String} {meant : Literal}
    (hvalue : Gives (valueOf expected text meant) before value after) : value.IsLeaf := by
  cases meant with
  | wideUnsigned _ | wideSigned _ => exact (not_gives_mismatch hvalue).elim
  | _ =>
      obtain ⟨rfl, -⟩ := gives_pure_iff.mp hvalue
      trivial

theorem Listed.forall {motive : Value → Prop} {position : Nat} {nodes : List Node}
    {values : List Value}
    (hread : ∀ {scope node before value after}, Gives (read scope node) before value after →
      motive value)
    (hlisted : Listed read scope position nodes before values after) :
    ∀ item ∈ values, motive item := by
  induction hlisted with
  | nil => simp
  | cons hitem _ ih => exact List.forall_mem_cons.mpr ⟨hread hitem, ih⟩

theorem Entered.forall {motive : Value → Prop} {seen : List Value} {nodes : List (Node × Node)}
    {pairs : List (Value × Value)}
    (hread : ∀ {scope node before value after}, Gives (read scope node) before value after →
      motive value)
    (hentered : Entered mode read scope seen nodes before pairs after) :
    ∀ pair ∈ pairs, motive pair.1 ∧ motive pair.2 := by
  induction hentered with
  | nil => simp
  | cons hkey _ hvalue _ ih =>
      exact List.forall_mem_cons.mpr ⟨⟨hread hkey, hread hvalue⟩, ih⟩

section Induction

/- What holds of leaves, and of a collection or a tagged value if it holds of what is read
inside. -/
variable {motive : Value → Prop} (leaf : ∀ {value : Value}, value.IsLeaf → motive value)
  (sequence : ∀ {read scope nodes before values after},
    (∀ {scope node before value after}, Gives (read scope node) before value after →
      motive value) →
    Listed read scope 0 nodes before values after → motive (.sequence values))
  (mapping : ∀ {read scope nodes before pairs after},
    (∀ {scope node before value after}, Gives (read scope node) before value after →
      motive value) →
    Entered mode read scope [] nodes before pairs after → motive (.mapping pairs))
  (tagged : mode = .exact → ∀ {tag content}, motive content → motive (.tagged tag content))

include leaf sequence mapping

theorem motive_of_contents
    (hinner : ∀ read, inner = some read → ∀ {scope node before value after},
      Gives (read scope node) before value after → motive value)
    (hcontents : Contents mode inner own scope node before value after) : motive value := by
  cases hcontents with
  | scalar _ hvalue => exact leaf (isLeaf_of_valueOf hvalue)
  | sequence hread hlisted => exact sequence (hinner _ hread) hlisted
  | mapping hread hentered => exact mapping (hinner _ hread) hentered
  | nothing => exact leaf trivial

include tagged

theorem motive_of_layer
    (hinner : ∀ read, inner = some read → ∀ {scope node before value after},
      Gives (read scope node) before value after → motive value)
    (hgives : Gives (layer mode inner scope node) before value after) : motive value := by
  obtain ⟨target, middle, -, hcontents⟩ := gives_layer_iff.mp hgives
  cases htag : ownTag? target with
  | none =>
      rw [htag] at hcontents
      exact motive_of_contents leaf sequence mapping hinner hcontents
  | some tag =>
      rw [htag] at hcontents
      obtain ⟨hexact, content, rfl, hcontents⟩ := hcontents
      exact tagged hexact (motive_of_contents leaf sequence mapping hinner hcontents)

/-- An induction over the values that can be read. -/
theorem motive_of_gives {depth : Nat}
    (hgives : Gives (valueWithin mode depth scope node) before value after) : motive value := by
  induction depth generalizing scope node before value after with
  | zero => exact motive_of_layer leaf sequence mapping tagged (by simp) hgives
  | succ depth ih =>
      refine motive_of_layer leaf sequence mapping tagged (fun read hread => ?_) hgives
      obtain rfl := Option.some.inj hread
      exact ih

end Induction

/-- What is read without tags has none. -/
theorem isUntagged_of_gives {depth : Nat}
    (hgives : Gives (valueWithin .loose depth scope node) before value after) :
    value.isUntagged = true := by
  refine motive_of_gives (motive := fun value => value.isUntagged = true) ?_ ?_ ?_ ?_ hgives
  · intro value hleaf
    cases value <;> first | rfl | cases hleaf
  · intro _ _ _ _ _ _ hread hlisted
    rw [isUntagged]
    exact areUntagged_iff.mpr (hlisted.forall hread)
  · intro _ _ _ _ _ _ hread hentered
    rw [isUntagged]
    exact areEntriesUntagged_iff.mpr (hentered.forall hread)
  · intro hexact
    cases hexact

/-- The keys of mappings are distinct in a value. -/
def IsDistinct (value : Value) : Prop := ∀ count, Gives (distinct value) count () count

theorem gives_distinctItems {values : List Value} (hdistinct : ∀ item ∈ values, IsDistinct item)
    (count : Nat) : Gives (distinctItems values) count () count := by
  induction values with
  | nil => exact gives_pure_iff.mpr ⟨rfl, rfl⟩
  | cons item others ih =>
      rw [List.forall_mem_cons] at hdistinct
      rw [distinctItems]
      exact gives_bind_iff.mpr ⟨(), count, hdistinct.1 count, ih hdistinct.2⟩

/-- Reading with tags compares the keys that the check compares. -/
theorem Entered.gives_distinctEntries {seen : List Value} {nodes : List (Node × Node)}
    {pairs : List (Value × Value)}
    (hread : ∀ {scope node before value after}, Gives (read scope node) before value after →
      IsDistinct value)
    (hentered : Entered .exact read scope seen nodes before pairs after) (count : Nat) :
    Gives (distinctEntries seen pairs) count () count := by
  induction hentered with
  | nil => exact gives_pure_iff.mpr ⟨rfl, rfl⟩
  | @cons seen _ _ _ _ _ _ _ key _ _ hkey hnew hvalue _ ih =>
      have hnone : (seen.find? fun other => key.same other) = none := by simpa using hnew
      simp only [distinctEntries, hnone, gives_bind_iff]
      exact ⟨(), count, hread hkey count, (), count, hread hvalue count, ih⟩

/-- In what is read with tags no mapping has a key twice. -/
theorem isDistinct_of_gives {depth : Nat}
    (hgives : Gives (valueWithin .exact depth scope node) before value after) :
    IsDistinct value := by
  refine motive_of_gives ?_ ?_ ?_ ?_ hgives
  · intro value hleaf count
    cases value <;> first | exact gives_pure_iff.mpr ⟨rfl, rfl⟩ | cases hleaf
  · intro _ _ _ _ _ _ hread hlisted count
    rw [distinct]
    exact gives_distinctItems (hlisted.forall hread) count
  · intro _ _ _ _ _ _ hread hentered count
    rw [distinct]
    exact hentered.gives_distinctEntries hread count
  · intro _ tag content hcontent count
    rw [distinct]
    exact hcontent count

end Decoder

end Yaml

end RevisionGuard
