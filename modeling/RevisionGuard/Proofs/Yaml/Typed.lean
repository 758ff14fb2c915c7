import RevisionGuard.Proofs.Yaml.Agreement

/-!
# Values of known types are read alike

A reader for a known type goes through the same nodes as the reader for arbitrary
values, in the same order, so it follows the same references.  Where a node says a text
(`Document.Means`), it is read as that text, and is not taken to be absent; where it says
a mapping, its entries are read one after the other (`Document.MeansEach`).
-/

namespace RevisionGuard

namespace Yaml

open Decoder Value

variable {α : Type} {document : Document} {depth before middle after : Nat} {scope : Scope}
  {node : Node} {nodes : List (Node × Node)} {said : Value} {pairs : List (Value × Value)}
  {spelled expected : String} {result : α}

/-- What a node of a document says, at most so many collections deep, between two counts
of references. -/
def Document.Means (document : Document) (depth : Nat) (node : Node) (before : Nat)
    (value : Value) (after : Nat) : Prop :=
  ∀ scope : Scope, scope.document = document →
    Gives (valueWithin .exact depth scope node) before value after

/-- What the entries of a mapping say one after the other. -/
inductive Document.MeansEach (document : Document) (depth : Nat) :
    List (Node × Node) → Nat → List (Value × Value) → Nat → Prop where
  | nil {count : Nat} : MeansEach document depth [] count [] count
  | cons {keyNode valueNode : Node} {nodes : List (Node × Node)}
      {before reached middle after : Nat} {key value : Value} {others : List (Value × Value)}
      (hkey : document.Means depth keyNode before key reached)
      (hvalue : document.Means depth valueNode reached value middle)
      (hothers : MeansEach document depth nodes middle others after) :
      MeansEach document depth ((keyNode, valueNode) :: nodes) before ((key, value) :: others) after

namespace Document

theorem means_of_gives
    (hgives : Gives (valueWithin .exact depth scope node) before said after) :
    scope.document.Means depth node before said after :=
  fun _ hdocument => agrees_valueWithin .exact depth hdocument.symm (fun hloose => nomatch hloose)
    hgives

theorem meansEach_of_entered {seen : List Value}
    (hentered : Entered .exact (valueWithin .exact depth) scope seen nodes before pairs after) :
    scope.document.MeansEach depth nodes before pairs after := by
  induction hentered with
  | nil => exact .nil
  | cons hkey _ hvalue _ ih =>
      have hvalue := means_of_gives hvalue
      rw [valueOf_document] at hvalue
      exact .cons (means_of_gives hkey) hvalue ih

/-- Entries are read in two parts like the nodes that say them. -/
theorem MeansEach.split (front : List (Value × Value)) {back : List (Value × Value)}
    (hmeans : document.MeansEach depth nodes before (front ++ back) after) :
    ∃ first second middle, nodes = first ++ second ∧
      document.MeansEach depth first before front middle ∧
        document.MeansEach depth second middle back after := by
  induction front generalizing nodes before with
  | nil => exact ⟨[], nodes, before, rfl, .nil, hmeans⟩
  | cons pair front ih =>
      obtain _ | ⟨hkey, hvalue, hothers⟩ := hmeans
      obtain ⟨first, second, middle, rfl, hfirst, hsecond⟩ := ih hothers
      exact ⟨_ :: first, second, middle, rfl, .cons hkey hvalue hfirst, hsecond⟩

/-! ## Arbitrary values -/

/-- A value is read in either mode, without tags if it has none. -/
theorem Means.value {mode : Mode} (hmeans : document.Means scope.depth node before said after)
    (hdocument : scope.document = document)
    (huntagged : mode = .loose → said.isUntagged = true) :
    Gives (Decoder.value mode scope node) before said after :=
  agrees_valueWithin mode scope.depth rfl huntagged (hmeans scope hdocument)

/-- The reader of what is inside of a collection at a depth. -/
def inside? : Nat → Option (Scope → Node → Decoder Value)
  | 0 => none
  | depth + 1 => some (valueWithin .exact depth)

/-- A node that says a value without a tag in front leads to a node without one. -/
theorem Means.contents (hmeans : document.Means depth node before said after)
    (hdocument : scope.document = document)
    (huntagged : ∀ tag content, said ≠ .tagged tag content) :
    ∃ target middle, Gives (follow scope node) before target middle ∧
      Contents .exact (inside? depth) false scope target middle said after := by
  have hgives := hmeans scope hdocument
  have hlayer : valueWithin .exact depth = layer .exact (inside? depth) := by
    cases depth <;> rfl
  rw [hlayer] at hgives
  obtain ⟨target, middle, hfollow, hcontents⟩ := gives_layer_iff.mp hgives
  cases htag : ownTag? target with
  | none =>
      rw [htag] at hcontents
      exact ⟨target, middle, hfollow, hcontents⟩
  | some tag =>
      rw [htag] at hcontents
      obtain ⟨-, content, htagged, -⟩ := hcontents
      exact (huntagged tag content htagged).elim

/-! ## Texts -/

theorem Means.scalar (hmeans : document.Means depth node before (.text spelled) after)
    (hdocument : scope.document = document) :
    ∃ head style, Gives (follow scope node) before (.scalar head spelled style) after ∧
      literal head.tag spelled style = .ok .text := by
  obtain ⟨target, middle, hfollow, hcontents⟩ := hmeans.contents hdocument (by simp)
  obtain @⟨head, text, style, meant, _, _, _, hmeant, hvalue⟩ := hcontents
  cases meant with
  | wideUnsigned _ | wideSigned _ => exact (not_gives_mismatch hvalue).elim
  | text =>
      obtain ⟨hspelled, rfl⟩ := gives_pure_iff.mp hvalue
      obtain rfl := Value.text.inj hspelled
      exact ⟨head, style, hfollow, hmeant⟩
  | _ =>
      obtain ⟨hother, -⟩ := gives_pure_iff.mp hvalue
      cases hother

theorem Means.text (hmeans : document.Means depth node before (.text spelled) after)
    (hdocument : scope.document = document) :
    Gives (Decoder.text expected scope node) before spelled after := by
  obtain ⟨head, style, hfollow, -⟩ := hmeans.scalar hdocument
  exact gives_bind_iff.mpr ⟨_, _, hfollow, gives_locatedAt_iff.mpr (gives_pure_iff.mpr ⟨rfl, rfl⟩)⟩

/-- A text does not spell that there is nothing. -/
theorem isAbsent_of_literal {tag : Option Tag} {style : Style}
    (hliteral : literal tag spelled style = .ok .text) :
    isAbsent tag spelled style = .ok false := by
  unfold isAbsent
  split
  · rfl
  · rename_i hplain
    rw [not_not] at hplain
    subst hplain
    unfold literal at hliteral
    cases tag with
    | none =>
        -- a plain scalar without a tag stands for nothing if it is empty or spells null
        simp only [↓reduceIte, Except.ok.injEq, Literal.ofText] at hliteral
        split at hliteral
        · cases hliteral
        · rename_i hspelled
          simp [hspelled]
    | some tag =>
        cases tag with
        | core type => cases type <;> grind
        | _ => rfl

theorem Means.optional (hmeans : document.Means depth node before (.text spelled) after)
    (hdocument : scope.document = document) :
    Gives (Decoder.optional (Decoder.text expected) scope node) before (some spelled) after := by
  obtain ⟨head, style, hfollow, hliteral⟩ := hmeans.scalar hdocument
  refine gives_bind_iff.mpr ⟨_, _, hfollow, ?_⟩
  simp only [isAbsent_of_literal hliteral]
  -- the scalar is no reference, so it is not counted a second time
  have hagain : Gives (follow scope (.scalar head spelled style)) after
      (.scalar head spelled style) after := gives_pure_iff.mpr ⟨rfl, rfl⟩
  exact gives_map_iff.mpr ⟨spelled, gives_bind_iff.mpr ⟨_, _, hagain,
    gives_locatedAt_iff.mpr (gives_pure_iff.mpr ⟨rfl, rfl⟩)⟩, rfl⟩

/-! ## Mappings -/

/-- A node that says a mapping is read by a reader of its entries. -/
theorem Means.mapping {read : Scope → List (Node × Node) → Decoder α}
    (hmeans : document.Means scope.depth node before (.mapping pairs) after)
    (hdocument : scope.document = document)
    (hread : ∀ {inside nodes middle}, inside.document = document →
      document.MeansEach inside.depth nodes middle pairs after →
        Gives (read inside nodes) middle result after) :
    Gives (Decoder.mapping expected read scope node) before result after := by
  obtain ⟨target, middle, hfollow, hcontents⟩ := hmeans.contents hdocument (by simp)
  cases hcontents with
  | scalar _ hvalue => exact (isLeaf_of_valueOf hvalue).elim
  | mapping hreader hentered =>
      cases hdepth : scope.depth with
      | zero =>
          rw [hdepth] at hreader
          cases hreader
      | succ depth =>
          rw [hdepth] at hreader
          obtain rfl := Option.some.inj hreader
          have hmeansEach := meansEach_of_entered hentered
          rw [hdocument] at hmeansEach
          refine gives_bind_iff.mpr ⟨_, _, hfollow, gives_locatedAt_iff.mpr ?_⟩
          simp only [hdepth, Nat.add_one_sub_one]
          exact hread hdocument hmeansEach

/-- A mapping from texts to texts is read as such. -/
theorem Means.texts {texts : List (String × String)}
    (hmeans : document.Means scope.depth node before
      (.mapping (texts.map fun (key, value) => (.text key, .text value))) after)
    (hdocument : scope.document = document) :
    Gives (Decoder.texts scope node) before texts after := by
  refine hmeans.mapping hdocument fun {inside nodes middle} hinside hmeansEach => ?_
  clear hmeans
  induction texts generalizing nodes middle with
  | nil =>
      obtain ⟨⟩ := hmeansEach
      exact gives_pure_iff.mpr ⟨rfl, rfl⟩
  | cons pair texts ih =>
      obtain _ | @⟨keyNode, valueNode, _, _, _, _, _, _, _, _, hkey, hvalue, hothers⟩ := hmeansEach
      have hentry := (valueOf_document inside keyNode).trans hinside
      rw [List.mapM_cons]
      simp only [gives_bind_iff, gives_pure_iff]
      exact ⟨_, _, ⟨_, _, hkey.text hinside, _, _, hvalue.text hentry, rfl, rfl⟩, texts, after,
        ih hothers, rfl, rfl⟩

end Document

end Yaml

end RevisionGuard
