import RevisionGuard.Yaml.Decode
import Mathlib.Tactic.Common

/-!
# What readers give

A reader gives a result or fails, and counts the references it follows.  `Decoder.Gives`
says what it gives from one count to the next, and has a law for each way to combine
readers.  With these laws the reader of arbitrary values is taken apart once, layer by
layer: what a node says apart from its own tag (`Decoder.Contents`), the items of a
sequence (`Decoder.Listed`) and the entries of a mapping (`Decoder.Entered`).
-/

namespace RevisionGuard

namespace Yaml

namespace Decoder

variable {α β : Type} {decoder : Decoder α} {before middle after : Nat} {result : α}

/-! ## Laws -/

/-- A reader that has followed so many references gives a result, and has followed so
many then. -/
def Gives (decoder : Decoder α) (before : Nat) (result : α) (after : Nat) : Prop :=
  decoder.run before = .ok (result, after)

@[simp] theorem gives_pure_iff {value : α} :
    Gives (pure value) before result after ↔ value = result ∧ before = after := by
  unfold Gives
  rw [StateT.run_pure]
  simp [pure, Except.pure]

@[simp] theorem gives_bind_iff {next : α → Decoder β} {final : β} :
    Gives (decoder >>= next) before final after ↔
      ∃ value middle, Gives decoder before value middle ∧
        Gives (next value) middle final after := by
  unfold Gives
  rw [StateT.run_bind]
  cases decoder.run before with
  | error fault => simp [bind, Except.bind]
  | ok pair => simp [bind, Except.bind, Prod.ext_iff, and_assoc]

@[simp] theorem gives_map_iff {convert : α → β} {final : β} :
    Gives (convert <$> decoder) before final after ↔
      ∃ value, Gives decoder before value after ∧ convert value = final := by
  rw [← bind_pure_comp, gives_bind_iff]
  simp

@[simp] theorem not_gives_throw {fault : Fault} :
    ¬ Gives (throw fault : Decoder α) before result after := by
  intro hgives
  cases hgives

@[simp] theorem not_gives_mismatch {cause : Mismatch} :
    ¬ Gives (mismatch cause : Decoder α) before result after :=
  not_gives_throw

@[simp] theorem gives_locatedAt_iff {place : Place} :
    Gives (locatedAt place decoder) before result after ↔ Gives decoder before result after := by
  have hrun : (locatedAt place decoder).run before =
      (decoder.run before).mapError (Fault.locate place) := by
    change (tryCatch (decoder.run before) _ : Except Fault (α × Nat)) = _
    cases decoder.run before <;> rfl
  unfold Gives
  rw [hrun]
  cases decoder.run before <;> simp [Except.mapError]

theorem not_gives_interrupted {scope : Scope} :
    ¬ Gives (interrupted scope : Decoder α) before result after :=
  not_gives_throw

/-- What holds of the first state and is kept by each step holds of the last state. -/
theorem motive_of_foldlM {step : β → α → Decoder β} {motive : β → Prop} {items : List α}
    {state final : β} (hfold : Gives (items.foldlM step state) before final after)
    (hstep : ∀ {state item before next after}, Gives (step state item) before next after →
      motive state → motive next)
    (hstate : motive state) : motive final := by
  induction items generalizing state before with
  | nil =>
      obtain ⟨rfl, -⟩ := gives_pure_iff.mp hfold
      exact hstate
  | cons item items ih =>
      rw [List.foldlM_cons] at hfold
      obtain ⟨next, middle, hnext, hrest⟩ := gives_bind_iff.mp hfold
      exact ih hrest (hstep hnext hstate)

/-- A document is read as what the reader gives for its root, if nothing is behind it. -/
theorem decode_eq_ok_iff {document : Document} {reader : Scope → Node → Decoder α} :
    document.decode reader = .ok result ↔
      (∃ after, Gives (reader (Scope.ofDocument document) document.root) 0 result after) ∧
        document.fault = none ∧ document.followed = false := by
  unfold Document.decode Gives
  cases (reader (Scope.ofDocument document) document.root).run 0 with
  | error fault => simp [bind, Except.bind]
  | ok pair =>
      obtain ⟨found, count⟩ := pair
      cases document.fault with
      | some fault => simp [bind, Except.bind]
      | none => cases document.followed <;> simp [bind, Except.bind]

/-! ## References -/

variable {scope other : Scope} {node : Node}

/-- Where a reference leads depends on the document only. -/
theorem follow_congr (hdocument : scope.document = other.document) (node : Node) :
    follow scope node = follow other node := by
  unfold follow interrupted
  rw [hdocument]

/-! ## Mappings of a known type -/

theorem not_gives_unexpected {expected : String} :
    ¬ Gives (unexpected scope expected node : Decoder α) before result after := by
  intro hgives
  cases node with
  | scalar head text style =>
      rw [unexpected] at hgives
      split at hgives <;> exact not_gives_mismatch hgives
  | sequence _ _ | mapping _ _ => exact not_gives_mismatch hgives
  | nothing _ | reference _ _ | cut => exact not_gives_throw hgives

/-- A reader of mappings gives what its reader of entries gives for some entries. -/
theorem exists_of_gives_mapping {expected : String}
    {read : Scope → List (Node × Node) → Decoder α}
    (hgives : Gives (mapping expected read scope node) before result after) :
    ∃ inside entries middle, Gives (read inside entries) middle result after := by
  obtain ⟨target, middle, -, hgives⟩ := gives_bind_iff.mp hgives
  rw [gives_locatedAt_iff] at hgives
  cases target with
  | scalar head text style =>
      dsimp only at hgives
      split at hgives
      · exact ⟨_, _, _, hgives⟩
      · exact (not_gives_unexpected hgives).elim
  | mapping head nodes =>
      dsimp only at hgives
      split at hgives
      · exact (not_gives_throw hgives).elim
      · exact ⟨_, _, _, hgives⟩
  | nothing mark => exact ⟨_, _, _, hgives⟩
  | _ => exact (not_gives_unexpected hgives).elim

/-! ## Layers of arbitrary values -/

/-- What is read item by item in a sequence, from a position on. -/
inductive Listed (read : Scope → Node → Decoder Value) (scope : Scope) :
    Nat → List Node → Nat → List Value → Nat → Prop where
  | nil {position count : Nat} : Listed read scope position [] count [] count
  | cons {position before middle after : Nat} {node : Node} {nodes : List Node} {item : Value}
      {others : List Value}
      (hitem : Gives (read (scope.step (.item position)) node) before item middle)
      (hothers : Listed read scope (position + 1) nodes middle others after) :
      Listed read scope position (node :: nodes) before (item :: others) after

/-- What is read entry by entry in a mapping behind entries with the given keys. -/
inductive Entered (mode : Mode) (read : Scope → Node → Decoder Value) (scope : Scope) :
    List Value → List (Node × Node) → Nat → List (Value × Value) → Nat → Prop where
  | nil {seen : List Value} {count : Nat} : Entered mode read scope seen [] count [] count
  | cons {seen : List Value} {before reached middle after : Nat} {keyNode valueNode : Node}
      {nodes : List (Node × Node)} {key value : Value} {others : List (Value × Value)}
      (hkey : Gives (read scope keyNode) before key reached)
      (hnew : (seen.find? fun other => mode = .exact && key.same other) = none)
      (hvalue : Gives (read (scope.valueOf keyNode) valueNode) reached value middle)
      (hothers : Entered mode read scope (key :: seen) nodes middle others after) :
      Entered mode read scope seen ((keyNode, valueNode) :: nodes) before
        ((key, value) :: others) after

/-- What a node says apart from a tag of the document's own. -/
inductive Contents (mode : Mode) (inner : Option (Scope → Node → Decoder Value)) (tagged : Bool)
    (scope : Scope) : Node → Nat → Value → Nat → Prop where
  | scalar {head : Head} {text : String} {style : Style} {meant : Literal} {before after : Nat}
      {value : Value}
      (hmeant : literal (if tagged then none else head.tag) text style = .ok meant)
      (hvalue : Gives (valueOf mode.expected text meant) before value after) :
      Contents mode inner tagged scope (.scalar head text style) before value after
  | sequence {head : Head} {nodes : List Node} {read : Scope → Node → Decoder Value}
      {before after : Nat} {values : List Value} (hread : inner = some read)
      (hlisted : Listed read scope 0 nodes before values after) :
      Contents mode inner tagged scope (.sequence head nodes) before (.sequence values) after
  | mapping {head : Head} {nodes : List (Node × Node)} {read : Scope → Node → Decoder Value}
      {before after : Nat} {pairs : List (Value × Value)} (hread : inner = some read)
      (hentered : Entered mode read scope [] nodes before pairs after) :
      Contents mode inner tagged scope (.mapping head nodes) before (.mapping pairs) after
  | nothing {mark : Mark} {count : Nat} :
      Contents mode inner tagged scope (.nothing mark) count .null count

variable {mode : Mode} {inner : Option (Scope → Node → Decoder Value)} {tagged : Bool}
  {read : Scope → Node → Decoder Value} {value : Value}

theorem gives_items_iff {position : Nat} {nodes : List Node} {values : List Value} :
    Gives (items read scope position nodes) before values after ↔
      Listed read scope position nodes before values after := by
  induction nodes generalizing position before values after with
  | nil =>
      rw [items, gives_pure_iff]
      constructor
      · rintro ⟨rfl, rfl⟩
        exact .nil
      · rintro ⟨⟩
        exact ⟨rfl, rfl⟩
  | cons node nodes ih =>
      simp only [items, gives_bind_iff, gives_pure_iff, ih]
      constructor
      · rintro ⟨item, middle, hitem, others, _, hothers, rfl, rfl⟩
        exact .cons hitem hothers
      · rintro (_ | ⟨hitem, hothers⟩)
        exact ⟨_, _, hitem, _, _, hothers, rfl, rfl⟩

theorem gives_entries_iff {found pairs : List (Value × Value)} {nodes : List (Node × Node)} :
    Gives (entries mode read scope found nodes) before pairs after ↔
      ∃ others, Entered mode read scope (found.map Prod.fst) nodes before others after ∧
        pairs = found.reverse ++ others := by
  induction nodes generalizing found before with
  | nil =>
      rw [entries, gives_pure_iff]
      constructor
      · rintro ⟨rfl, rfl⟩
        exact ⟨[], .nil, by simp⟩
      · rintro ⟨others, ⟨⟩, rfl⟩
        simp
  | cons entry nodes ih =>
      obtain ⟨keyNode, valueNode⟩ := entry
      have hseen (key : Value) :
          ((found.map Prod.fst).find? fun other => mode = .exact && key.same other) = none ↔
            (found.find? fun entry => mode = .exact && key.same entry.1) = none := by
        simp [List.find?_map]
      simp only [entries, gives_bind_iff]
      constructor
      · rintro ⟨key, reached, hkey, hnext⟩
        split at hnext
        · exact (not_gives_mismatch hnext).elim
        · rename_i hnew
          obtain ⟨value, middle, hvalue, hothers⟩ := gives_bind_iff.mp hnext
          obtain ⟨others, hentered, rfl⟩ := ih.mp hothers
          exact ⟨(key, value) :: others, .cons hkey ((hseen key).mpr hnew) hvalue hentered,
            by simp⟩
      · rintro ⟨_, _ | ⟨hkey, hnew, hvalue, hothers⟩, rfl⟩
        refine ⟨_, _, hkey, ?_⟩
        rw [(hseen _).mp hnew]
        exact gives_bind_iff.mpr ⟨_, _, hvalue, ih.mpr ⟨_, hothers, by simp⟩⟩

theorem gives_untagged_iff :
    Gives (untagged mode inner tagged scope node) before value after ↔
      Contents mode inner tagged scope node before value after := by
  constructor
  · intro hgives
    cases node with
    | scalar head text style =>
        rw [untagged] at hgives
        split at hgives
        · rename_i hmeant
          exact .scalar hmeant hgives
        · exact (not_gives_mismatch hgives).elim
    | sequence head nodes =>
        cases inner with
        | none => exact (not_gives_throw hgives).elim
        | some read =>
            obtain ⟨values, hitems, rfl⟩ := gives_map_iff.mp hgives
            exact .sequence rfl (gives_items_iff.mp hitems)
    | mapping head nodes =>
        cases inner with
        | none => exact (not_gives_throw hgives).elim
        | some read =>
            obtain ⟨values, hentries, rfl⟩ := gives_map_iff.mp hgives
            obtain ⟨pairs, hentered, rfl⟩ := gives_entries_iff.mp hentries
            exact .mapping rfl hentered
    | nothing mark =>
        obtain ⟨rfl, rfl⟩ := gives_pure_iff.mp hgives
        exact .nothing
    | reference mark anchor => exact (not_gives_interrupted hgives).elim
    | cut => exact (not_gives_interrupted hgives).elim
  · rintro (⟨hmeant, hvalue⟩ | ⟨rfl, hlisted⟩ | ⟨rfl, hentered⟩ | _)
    · rw [untagged, hmeant]
      exact hvalue
    · rw [untagged]
      exact gives_map_iff.mpr ⟨_, gives_items_iff.mpr hlisted, rfl⟩
    · rw [untagged]
      exact gives_map_iff.mpr ⟨_, gives_entries_iff.mpr ⟨_, hentered, rfl⟩, rfl⟩
    · exact gives_pure_iff.mpr ⟨rfl, rfl⟩

/-- A node says what the node it leads to says, under the own tag of that if it is read
with tags; without tags it must have none. -/
theorem gives_layer_iff :
    Gives (layer mode inner scope node) before value after ↔
      ∃ target middle, Gives (follow scope node) before target middle ∧
        match ownTag? target with
        | none => Contents mode inner false scope target middle value after
        | some tag => mode = .exact ∧ ∃ content, value = .tagged tag content ∧
            Contents mode inner true scope target middle content after := by
  simp only [layer, gives_bind_iff, gives_locatedAt_iff]
  refine exists_congr fun target => exists_congr fun middle => and_congr_right fun _ => ?_
  cases ownTag? target with
  | none => exact gives_untagged_iff
  | some tag =>
      cases mode with
      | exact =>
          simp only [gives_map_iff, gives_untagged_iff, true_and]
          exact exists_congr fun content => and_comm.trans (and_congr_left' eq_comm)
      | loose => simp

end Decoder

end Yaml

end RevisionGuard
