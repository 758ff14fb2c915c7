import RevisionGuard.Pod.Encoding
import RevisionGuard.Proofs.Pod.Decoded
import RevisionGuard.Proofs.Yaml.Typed
import RevisionGuard.Proofs.Yaml.Value

/-!
# Manifests are read as they were written

A manifest is written as a mapping of values, and read field by field.  If the text of
that mapping means the mapping again (`Yaml.RoundTrips`), every field is read as it was
written:

* a field with a use is met once, under its own name, so it fills the slot that is
  empty until then, and a field that was left out leaves the slot empty;
* the fields without a use come last, under other names and without tags
  (`Pod.Readable`), and their order is that of a dictionary.

One field does not come back: the spec is left out if it is null, with or without a tag,
and is plain null then (`Pod.written`).
-/

namespace RevisionGuard

open Yaml Yaml.Decoder

/-- The written form of a mapping is read as the mapping. -/
def Yaml.RoundTrips (entries : List (Value × Value)) : Prop :=
  ∀ text, Value.write? entries = some text →
    (Document.ofSource (Source.ofBytes (Utf8.ofText text))).decode (Decoder.value .exact) =
      .ok (.mapping entries)

/-- Writing and reading both compute, so it can be tried out. -/
instance (entries : List (Value × Value)) : Decidable (RoundTrips entries) :=
  inferInstanceAs (Decidable (∀ text ∈ Value.write? entries,
    (Document.ofSource (Source.ofBytes (Utf8.ofText text))).decode (Decoder.value .exact) =
      .ok (.mapping entries)))

namespace Pod

/-- What can be read again of a manifest that is written: a null spec loses its tags. -/
def written (pod : Pod) : Pod :=
  { pod with spec := if pod.spec.isNull then .null else pod.spec }

/-- Nothing is lost unless the spec is null under a tag. -/
theorem written_eq_iff {pod : Pod} :
    pod.written = pod ↔ (pod.spec.isNull = true → pod.spec = .null) := by
  constructor
  · intro hwritten hnull
    have hspec := congrArg Pod.spec hwritten
    rw [written, if_pos hnull] at hspec
    exact hspec.symm
  · intro hplain
    unfold written
    split
    · rename_i hnull
      rw [← hplain hnull]
    · rfl

variable {document : Document} {scope : Scope} {nodes first second : List (Node × Node)}
  {node : Node} {before middle after : Nat} {name : String} {names : List String}

/-! ## Field by field -/

section Fields

/- `step` reads one more field into what has been collected. -/
variable {State : Type} {step : State → Node × Node → Decoder State} {state next final : State}

theorem gives_fill {α : Type} {slot : Option α} {read : Decoder α} {found : α}
    (hslot : slot = none) (hread : Gives read before found after) :
    Gives (fill name slot read) before (some found) after := by
  subst hslot
  exact gives_map_iff.mpr ⟨found, hread, rfl⟩

theorem gives_foldlM_append (hfirst : Gives (first.foldlM step state) before next middle)
    (hsecond : Gives (second.foldlM step next) middle final after) :
    Gives ((first ++ second).foldlM step state) before final after := by
  rw [List.foldlM_append]
  exact gives_bind_iff.mpr ⟨next, middle, hfirst, hsecond⟩

theorem gives_foldlM_nil :
    Gives (([] : List (Node × Node)).foldlM step state) before state before :=
  gives_pure_iff.mpr ⟨rfl, rfl⟩

/-- A field is read by the step for its name. -/
theorem gives_field {value : Value}
    (hmeans : document.MeansEach scope.depth nodes before [field name value] after)
    (hdocument : scope.document = document)
    (hstep : ∀ {keyNode node middle},
      Gives (text "field identifier" scope keyNode) before name middle →
        (scope.valueOf keyNode).document = document →
          document.Means (scope.valueOf keyNode).depth node middle value after →
            Gives (step state (keyNode, node)) before next after) :
    Gives (nodes.foldlM step state) before next after := by
  obtain _ | @⟨keyNode, node, _, _, middle, _, _, _, _, _, hkey, hvalue, hnone⟩ := hmeans
  obtain _ | _ := hnone
  have hinside : (scope.valueOf keyNode).document = document := by
    rw [valueOf_document, hdocument]
  have hdepth : (scope.valueOf keyNode).depth = scope.depth := by
    cases keyNode <;> rfl
  rw [← hdepth] at hvalue
  rw [List.foldlM_cons]
  exact gives_bind_iff.mpr ⟨next, after, hstep (hkey.text hdocument) hinside hvalue,
    gives_foldlM_nil⟩

/-- What stands in a mapping for a slot: no field if the slot is empty, and else one field,
which is read as what the slot holds. -/
inductive StandsFor {α : Type} (document : Document) (name : String)
    (read : Scope → Node → Decoder α) : List (Value × Value) → Option α → Prop
  | empty : StandsFor document name read [] none
  | filled {value : Value} {content : α}
      (hread : ∀ {scope : Scope} {node : Node} {before after : Nat}, scope.document = document →
        document.Means scope.depth node before value after →
          Gives (read scope node) before content after) :
      StandsFor document name read [field name value] (some content)

theorem standsFor_text (name content : String) :
    StandsFor document name (text "a string") [field name (.text content)] (some content) :=
  .filled fun hdocument hmeans => hmeans.text hdocument

theorem standsFor_optionalField (name : String) (content : Option String) :
    StandsFor document name (Decoder.optional (text "a string")) (optionalField name content)
      (content.map some) := by
  cases content with
  | none => exact .empty
  | some content => exact .filled fun hdocument hmeans => hmeans.optional hdocument

/-- What is in the slot for a mapping between texts, which is left empty for an empty
mapping. -/
def textsSlot (contents : Dictionary String) : Option (List (String × String)) :=
  if contents.isEmpty then none else some contents.entries

theorem ofList_textsSlot (contents : Dictionary String) :
    Dictionary.ofList ((textsSlot contents).getD []) = contents := by
  unfold textsSlot
  split
  · rename_i hempty
    have hentries : contents.entries = [] := List.isEmpty_iff.mp hempty
    exact Dictionary.eq_of_entries hentries.symm
  · exact Dictionary.ofList_entries contents

theorem standsFor_textsField (name : String) (contents : Dictionary String) :
    StandsFor document name texts (textsField name contents) (textsSlot contents) := by
  unfold textsField textsSlot
  split
  · exact .empty
  · exact .filled fun hdocument hmeans => hmeans.texts hdocument

/-- A spec that is null is left out. -/
theorem standsFor_specField (spec : Value) :
    StandsFor document "spec" (Decoder.value .exact) (specField spec)
      (if spec.isNull then none else some spec) := by
  unfold specField
  split
  · exact .empty
  · exact .filled fun hdocument hmeans => hmeans.value hdocument fun hloose => nomatch hloose

/-- The fields that stand for a slot fill it.  The step reads a name first; under the name of
the slot it goes on to fill the slot. -/
theorem gives_slot {α : Type} (step : State → Node × Node → Decoder State) (state : State)
    (put : State → Option α → State) {read : Scope → Node → Decoder α}
    {pairs : List (Value × Value)} {slot : Option α}
    (hstands : StandsFor document name read pairs slot)
    (hmeans : document.MeansEach scope.depth nodes before pairs after)
    (hdocument : scope.document = document) (hempty : put state none = state)
    (hstep : ∀ keyNode node, ∃ next,
      step state (keyNode, node) = text "field identifier" scope keyNode >>= next ∧
        next name = do return put state (← fill name none (read (scope.valueOf keyNode) node))) :
    Gives (nodes.foldlM step state) before (put state slot) after := by
  cases hstands with
  | empty =>
      obtain _ | _ := hmeans
      rw [hempty]
      exact gives_foldlM_nil
  | filled hread =>
      refine gives_field hmeans hdocument fun {keyNode node middle} hkey hinside hvalue => ?_
      obtain ⟨next, hfirst, hnext⟩ := hstep keyNode node
      rw [hfirst]
      refine gives_bind_iff.mpr ⟨name, middle, hkey, ?_⟩
      rw [hnext]
      exact gives_bind_iff.mpr
        ⟨_, after, gives_fill rfl (hread hinside hvalue), gives_pure_iff.mpr ⟨rfl, rfl⟩⟩

/-- The fields without a use are kept, in reverse. -/
theorem gives_extraFields (put : List (String × Value) → State) {fields : List (String × Value)}
    (hothers : AreOthers names fields) (hdocument : scope.document = document)
    (hmeans : document.MeansEach scope.depth nodes before
      (fields.map fun (name, value) => field name value) after)
    (hstep : ∀ {keyNode node before middle after name value kept}, name ∉ names →
      Gives (text "field identifier" scope keyNode) before name middle →
        Gives (Decoder.value .loose (scope.valueOf keyNode) node) middle value after →
          Gives (step (put kept) (keyNode, node)) before (put ((name, value) :: kept)) after)
    (kept : List (String × Value)) :
    Gives (nodes.foldlM step (put kept)) before (put (fields.reverse ++ kept)) after := by
  induction fields generalizing nodes before kept with
  | nil =>
      obtain _ | _ := hmeans
      exact gives_foldlM_nil
  | cons entry fields ih =>
      obtain ⟨name, value⟩ := entry
      obtain ⟨⟨hname, huntagged⟩, hrest⟩ := List.forall_mem_cons.mp hothers
      obtain ⟨first, second, middle, rfl, hfirst, hsecond⟩ :=
        Document.MeansEach.split [field name value] hmeans
      have hentry : Gives (first.foldlM step (put kept)) before (put ((name, value) :: kept))
          middle := by
        refine gives_field hfirst hdocument fun hkey hinside hvalue => ?_
        exact hstep hname hkey (hvalue.value hinside fun _ => huntagged)
      have hothers := ih hrest hsecond ((name, value) :: kept)
      rw [List.reverse_cons, List.append_assoc]
      exact gives_foldlM_append hentry hothers

/-- The fields without a use fill the slot for them, in reverse. -/
theorem gives_extra (step : State → Node × Node → Decoder State) (state : State)
    (put : State → List (String × Value) → State) {extra : Dictionary Value}
    (hothers : AreOthers names extra.entries)
    (hmeans : document.MeansEach scope.depth nodes before (extraFields extra) after)
    (hdocument : scope.document = document) (hempty : put state [] = state)
    (hstep : ∀ {keyNode node before middle after name value kept}, name ∉ names →
      Gives (text "field identifier" scope keyNode) before name middle →
        Gives (Decoder.value .loose (scope.valueOf keyNode) node) middle value after →
          Gives (step (put state kept) (keyNode, node)) before
            (put state ((name, value) :: kept)) after) :
    Gives (nodes.foldlM step state) before (put state extra.entries.reverse) after := by
  have hkept := gives_extraFields (put state) hothers hdocument hmeans hstep []
  rwa [List.append_nil, hempty] at hkept

end Fields

/-! ## The metadata -/

theorem gives_otherFields (fields : List (String × Value))
    (hdistinct : ∀ field ∈ fields, IsDistinct field.2) (count : Nat) :
    Gives (otherFields fields) count (Dictionary.ofList fields) count := by
  have hchecked : Gives (fields.forM fun (_, value) => distinct value) count () count := by
    induction fields with
    | nil => exact gives_pure_iff.mpr ⟨rfl, rfl⟩
    | cons field fields ih =>
        obtain ⟨hfield, hrest⟩ := List.forall_mem_cons.mp hdistinct
        exact gives_bind_iff.mpr ⟨(), count, hfield count, ih hrest⟩
  exact gives_bind_iff.mpr ⟨(), count, hchecked, gives_pure_iff.mpr ⟨rfl, rfl⟩⟩

/-- No mapping that a document means has a key twice. -/
theorem isDistinct_of_meansEach {depth : Nat} {pairs : List (Value × Value)}
    (hmeans : document.MeansEach depth nodes before pairs after) :
    ∀ pair ∈ pairs, IsDistinct pair.2 := by
  induction hmeans with
  | nil => simp
  | cons _ hvalue _ ih =>
      exact List.forall_mem_cons.mpr ⟨isDistinct_of_gives (hvalue ⟨document, [], 0⟩ rfl), ih⟩

/-- The fields without a use make up the dictionary they were written from. -/
theorem gives_otherFields_of_means {depth : Nat} {extra : Dictionary Value}
    (hmeans : document.MeansEach depth nodes before (extraFields extra) after) (count : Nat) :
    Gives (otherFields extra.entries) count extra count := by
  have hdistinct := isDistinct_of_meansEach hmeans
  have hgives := gives_otherFields extra.entries (fun field hfield =>
    hdistinct _ (List.mem_map_of_mem hfield)) count
  rwa [Dictionary.ofList_entries] at hgives

namespace MetadataDraft

variable {draft : MetadataDraft}

/-- A field with a name without a use is kept. -/
theorem gives_other {keyNode : Node} {other : Value} (hname : name ∉ metadataNames)
    (hkey : Gives (text "field identifier" scope keyNode) before name middle)
    (hvalue : Gives (Decoder.value .loose (scope.valueOf keyNode) node) middle other after) :
    Gives (read scope draft (keyNode, node)) before
      { draft with extra := (name, other) :: draft.extra } after := by
  refine gives_bind_iff.mpr ⟨name, middle, hkey, ?_⟩
  dsimp only
  split
  case h_6 => exact gives_bind_iff.mpr ⟨other, after, hvalue, gives_pure_iff.mpr ⟨rfl, rfl⟩⟩
  all_goals simp [metadataNames] at hname

/-- What has been collected makes up the metadata. -/
theorem gives_finish {metadata : Metadata} {count : Nat} (hname : draft.name = some metadata.name)
    (hnamespace : draft.podNamespace = metadata.podNamespace.map some)
    (huid : draft.uid = metadata.uid.map some) (hlabels : draft.labels = textsSlot metadata.labels)
    (hannotations : draft.annotations = textsSlot metadata.annotations)
    (hextra : draft.extra = metadata.extra.entries.reverse)
    (hkept : Gives (otherFields metadata.extra.entries) count metadata.extra count) :
    Gives draft.finish count metadata count := by
  have hjoin (slot : Option String) : (slot.map some).join = slot := by
    cases slot <;> rfl
  unfold finish
  rw [hname, hnamespace, huid, hlabels, hannotations, hextra, List.reverse_reverse, hjoin, hjoin,
    ofList_textsSlot, ofList_textsSlot]
  exact gives_bind_iff.mpr ⟨metadata.name, count, gives_pure_iff.mpr ⟨rfl, rfl⟩,
    gives_bind_iff.mpr ⟨metadata.extra, count, hkept, gives_pure_iff.mpr ⟨rfl, rfl⟩⟩⟩

end MetadataDraft

theorem gives_decodeMetadata {metadata : Metadata}
    (hothers : AreOthers metadataNames metadata.extra.entries)
    (hmeans : document.Means scope.depth node before (.mapping (metadataFields metadata)) after)
    (hdocument : scope.document = document) :
    Gives (decodeMetadata scope node) before metadata after := by
  refine hmeans.mapping hdocument fun {inside nodes middle} hinside heach => ?_
  obtain ⟨_, extraNodes, _, rfl, heach, hextra⟩ := heach.split _
  obtain ⟨_, annotationNodes, _, rfl, heach, hannotations⟩ := heach.split _
  obtain ⟨_, labelNodes, _, rfl, heach, hlabels⟩ := heach.split _
  obtain ⟨_, uidNodes, _, rfl, heach, huid⟩ := heach.split _
  obtain ⟨nameNodes, namespaceNodes, _, rfl, hname, hnamespace⟩ :=
    heach.split [field "name" (.text metadata.name)]
  -- every slot is empty until its field is met
  have hread := gives_slot (MetadataDraft.read inside) {}
    (fun draft slot => { draft with name := slot })
    (standsFor_text "name" metadata.name) hname hinside rfl fun _ _ => ⟨_, rfl, rfl⟩
  have hread := gives_foldlM_append hread (gives_slot _ _
    (fun draft slot => { draft with podNamespace := slot })
    (standsFor_optionalField "namespace" _) hnamespace hinside rfl fun _ _ => ⟨_, rfl, rfl⟩)
  have hread := gives_foldlM_append hread (gives_slot _ _
    (fun draft slot => { draft with uid := slot })
    (standsFor_optionalField "uid" _) huid hinside rfl fun _ _ => ⟨_, rfl, rfl⟩)
  have hread := gives_foldlM_append hread (gives_slot _ _
    (fun draft slot => { draft with labels := slot })
    (standsFor_textsField "labels" _) hlabels hinside rfl fun _ _ => ⟨_, rfl, rfl⟩)
  have hread := gives_foldlM_append hread (gives_slot _ _
    (fun draft slot => { draft with annotations := slot })
    (standsFor_textsField "annotations" _) hannotations hinside rfl fun _ _ => ⟨_, rfl, rfl⟩)
  have hread := gives_foldlM_append hread (gives_extra _ _
    (fun draft kept => { draft with extra := kept })
    hothers hextra hinside rfl MetadataDraft.gives_other)
  have hkept := gives_otherFields_of_means hextra after
  exact gives_bind_iff.mpr
    ⟨_, after, hread, MetadataDraft.gives_finish rfl rfl rfl rfl rfl rfl hkept⟩

theorem standsFor_metadata {metadata : Metadata}
    (hothers : AreOthers metadataNames metadata.extra.entries) :
    StandsFor document "metadata" decodeMetadata
      [field "metadata" (.mapping (metadataFields metadata))] (some metadata) :=
  .filled fun hdocument hmeans => gives_decodeMetadata hothers hmeans hdocument

/-! ## The manifest -/

namespace Draft

variable {draft : Draft}

/-- A field with a name without a use is kept. -/
theorem gives_other {keyNode : Node} {other : Value} (hname : name ∉ fieldNames)
    (hkey : Gives (text "field identifier" scope keyNode) before name middle)
    (hvalue : Gives (Decoder.value .loose (scope.valueOf keyNode) node) middle other after) :
    Gives (read scope draft (keyNode, node)) before
      { draft with extra := (name, other) :: draft.extra } after := by
  refine gives_bind_iff.mpr ⟨name, middle, hkey, ?_⟩
  dsimp only
  split
  case h_5 => exact gives_bind_iff.mpr ⟨other, after, hvalue, gives_pure_iff.mpr ⟨rfl, rfl⟩⟩
  all_goals simp [fieldNames] at hname

/-- What has been collected makes up the manifest, with a null spec if there was none. -/
theorem gives_finish {pod : Pod} {count : Nat}
    (hapiVersion : draft.apiVersion = some pod.apiVersion)
    (hkind : draft.kind = some pod.kind) (hmetadata : draft.metadata = some pod.metadata)
    (hspec : draft.spec = if pod.spec.isNull then none else some pod.spec)
    (hextra : draft.extra = pod.extra.entries.reverse)
    (hkept : Gives (otherFields pod.extra.entries) count pod.extra count) :
    Gives draft.finish count pod.written count := by
  have hwritten : (if pod.spec.isNull then none else some pod.spec).getD .null =
      if pod.spec.isNull then .null else pod.spec := by
    split <;> rfl
  unfold finish written
  rw [hapiVersion, hkind, hmetadata, hspec, hextra, List.reverse_reverse, hwritten]
  exact gives_bind_iff.mpr ⟨_, count, gives_pure_iff.mpr ⟨rfl, rfl⟩,
    gives_bind_iff.mpr ⟨_, count, gives_pure_iff.mpr ⟨rfl, rfl⟩,
      gives_bind_iff.mpr ⟨_, count, gives_pure_iff.mpr ⟨rfl, rfl⟩,
        gives_bind_iff.mpr ⟨pod.extra, count, hkept, gives_pure_iff.mpr ⟨rfl, rfl⟩⟩⟩⟩⟩

end Draft

variable {pod : Pod}

theorem gives_decodeNode (hreadable : pod.Readable)
    (hmeans : document.Means scope.depth node before (.mapping pod.fields) after)
    (hdocument : scope.document = document) :
    Gives (decodeNode scope node) before pod.written after := by
  refine hmeans.mapping hdocument fun {inside nodes middle} hinside heach => ?_
  obtain ⟨_, extraNodes, _, rfl, heach, hextra⟩ := heach.split _
  obtain ⟨_, specNodes, _, rfl, heach, hspec⟩ := heach.split _
  obtain ⟨apiVersionNodes, _, _, rfl, hapiVersion, heach⟩ :=
    heach.split [field "apiVersion" (.text pod.apiVersion)]
  obtain ⟨kindNodes, metadataNodes, _, rfl, hkind, hmetadata⟩ :=
    heach.split [field "kind" (.text pod.kind)]
  have hread := gives_foldlM_append
    (gives_slot (Draft.read inside) {} (fun draft slot => { draft with apiVersion := slot })
      (standsFor_text "apiVersion" _) hapiVersion hinside rfl fun _ _ => ⟨_, rfl, rfl⟩)
    (gives_foldlM_append
      (gives_slot _ _ (fun draft slot => { draft with kind := slot })
        (standsFor_text "kind" _) hkind hinside rfl fun _ _ => ⟨_, rfl, rfl⟩)
      (gives_slot _ _ (fun draft slot => { draft with metadata := slot })
        (standsFor_metadata hreadable.metadata) hmetadata hinside rfl fun _ _ => ⟨_, rfl, rfl⟩))
  have hread := gives_foldlM_append hread (gives_slot _ _
    (fun draft slot => { draft with spec := slot })
    (standsFor_specField _) hspec hinside rfl fun _ _ => ⟨_, rfl, rfl⟩)
  have hread := gives_foldlM_append hread (gives_extra _ _
    (fun draft kept => { draft with extra := kept })
    hreadable.extra hextra hinside rfl Draft.gives_other)
  have hkept := gives_otherFields_of_means hextra after
  exact gives_bind_iff.mpr ⟨_, after, hread, Draft.gives_finish rfl rfl rfl rfl rfl hkept⟩

theorem write_of_toText {text : String} (htext : pod.toText = .ok text) :
    Value.write? pod.fields = some text := by
  unfold toText at htext
  split at htext
  · rename_i hwrite
    obtain rfl := Except.ok.inj htext
    exact hwrite
  · cases htext

/-- If the text of a manifest means the mapping that was written, the manifest is read
from it again, but for the tags of a null spec. -/
theorem ofBytes_toText {text : String} (hreadable : pod.Readable) (htext : pod.toText = .ok text)
    (htrips : RoundTrips pod.fields) : ofBytes (Utf8.ofText text) = .ok pod.written := by
  have hdecode := htrips text (write_of_toText htext)
  obtain ⟨⟨after, hgives⟩, hfault, hfollowed⟩ := decode_eq_ok_iff.mp hdecode
  have hmeans := Document.means_of_gives hgives
  have hpod := gives_decodeNode hreadable hmeans rfl
  exact ofBytes_eq_ok_iff.mpr (decode_eq_ok_iff.mpr ⟨⟨after, hpod⟩, hfault, hfollowed⟩)

end Pod

end RevisionGuard
