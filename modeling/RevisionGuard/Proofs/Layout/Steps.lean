import RevisionGuard.Files.Tree
import RevisionGuard.Layout
import Mathlib.Data.List.Basic
import Mathlib.Tactic.Common

/-!
# The steps to the files of a target

Every file of a target ends in a name of its own, behind a text that the target
and the directories decide.  The name is the last step of the walk to the file,
whatever that text is: it may hold separators, and it may be empty.  So the
active manifest and the marker are in one directory, and no two files of
different kinds have the same name.
-/

namespace RevisionGuard

namespace Path

/-- What is put behind the last separator of a text stays in the last piece. -/
private theorem pieces_append (letters : List Char) :
    ∃ outer tip, ∀ suffix, '/' ∉ suffix →
      pieces (letters ++ suffix) = outer ++ [tip ++ suffix] := by
  induction letters with
  | nil =>
      refine ⟨[], [], fun suffix hslash => ?_⟩
      induction suffix with
      | nil => rfl
      | cons letter suffix ih =>
          obtain ⟨hletter, hrest⟩ := List.ne_and_not_mem_of_not_mem_cons hslash
          simp only [List.nil_append] at ih ⊢
          rw [pieces, if_neg (Ne.symm hletter), ih hrest]
  | cons letter letters ih =>
      obtain ⟨outer, tip, hsplit⟩ := ih
      by_cases hletter : letter = '/'
      · refine ⟨[] :: outer, tip, fun suffix hslash => ?_⟩
        rw [List.cons_append, pieces, if_pos hletter, hsplit suffix hslash, List.cons_append]
      · cases outer with
        | nil =>
            refine ⟨[], letter :: tip, fun suffix hslash => ?_⟩
            rw [List.cons_append, pieces, if_neg hletter, hsplit suffix hslash]
            rfl
        | cons first outer =>
            refine ⟨(letter :: first) :: outer, tip, fun suffix hslash => ?_⟩
            rw [List.cons_append, pieces, if_neg hletter, hsplit suffix hslash]
            rfl

/-- A piece with a dash is a name. -/
private theorem step?_of_dash {piece : List Char} (hdash : '-' ∈ piece) :
    step? piece = some (.into piece) := by
  have hapart : ∀ other : List Char, '-' ∉ other → piece ≠ other :=
    fun other hother heq => hother (heq ▸ hdash)
  rw [step?, if_neg (hapart _ (by decide)), if_neg (hapart _ (by decide)),
    if_neg (hapart _ (by decide))]

/-- A piece with a dash is a component. -/
private theorem component?_of_dash {piece : List Char} (hdash : '-' ∈ piece) :
    component? piece = some (.entry piece) := by
  have hapart : ∀ other : List Char, '-' ∉ other → piece ≠ other :=
    fun other hother heq => hother (heq ▸ hdash)
  rw [component?, if_neg (not_or.mpr ⟨hapart _ (by decide), hapart _ (by decide)⟩),
    if_neg (hapart _ (by decide))]

/-- A text that ends in a name leads to an entry of a name with that end. -/
theorem steps_append (front : String) :
    ∃ before tip, ∀ suffix : String, '/' ∉ suffix.toList → '-' ∈ suffix.toList →
      (⟨front ++ suffix⟩ : Path).steps = before ++ [.into (tip ++ suffix.toList)] := by
  obtain ⟨outer, tip, hsplit⟩ := pieces_append front.toList
  refine ⟨outer.filterMap step?, tip, fun suffix hslash hdash => ?_⟩
  have hlast : (front.toList ++ suffix.toList).getLast? ≠ some '/' := by
    intro hend
    have hmem : suffix.toList ≠ [] := List.ne_nil_of_mem hdash
    rw [List.getLast?_append_of_ne_nil _ hmem] at hend
    exact hslash (List.mem_of_getLast? hend)
  have hstep := step?_of_dash (List.mem_append_right tip hdash)
  simp only [steps, String.toList_append, if_neg hlast, hsplit _ hslash, List.filterMap_append,
    List.filterMap_cons, hstep, List.filterMap_nil]

/-- A text that ends in a name has a name with that end as its last component. -/
theorem getLast?_components_append (front : String) :
    ∃ tip, ∀ suffix : String, '/' ∉ suffix.toList → '-' ∈ suffix.toList →
      (⟨front ++ suffix⟩ : Path).components.getLast? = some (.entry (tip ++ suffix.toList)) := by
  obtain ⟨outer, tip, hsplit⟩ := pieces_append front.toList
  refine ⟨tip, fun suffix hslash hdash => ?_⟩
  have hcomponent := component?_of_dash (List.mem_append_right tip hdash)
  simp only [components, String.toList_append, hsplit _ hslash, List.filterMap_append,
    List.filterMap_cons, hcomponent, List.filterMap_nil]
  rw [← List.append_assoc, List.getLast?_concat]

private theorem startsAtRoot_append {letters suffix : List Char} (hslash : '/' ∉ suffix) :
    startsAtRoot (letters ++ suffix) = startsAtRoot letters := by
  cases letters with
  | cons letter letters => rfl
  | nil =>
      cases suffix with
      | nil => rfl
      | cons letter suffix =>
          obtain ⟨hletter, -⟩ := List.ne_and_not_mem_of_not_mem_cons hslash
          simpa [startsAtRoot] using Ne.symm hletter

theorem isAbsolute_append {front suffix : String} (hslash : '/' ∉ suffix.toList) :
    (⟨front ++ suffix⟩ : Path).isAbsolute = (⟨front⟩ : Path).isAbsolute := by
  simp only [isAbsolute, String.toList_append, startsAtRoot_append hslash]

theorem same_comm (path other : Path) : path.same other = other.same path :=
  decide_eq_decide.mpr eq_comm

/-- The end of a name is put behind a directory like the name. -/
theorem join_append (directory : Path) {name suffix : String} (hslash : '/' ∉ suffix.toList) :
    directory.join ⟨name ++ suffix⟩ = ⟨(directory.join ⟨name⟩).text ++ suffix⟩ := by
  simp only [join, isAbsolute_append hslash]
  split
  · rfl
  · split <;> simp [String.append_assoc]

/-- A separator stands between the pieces in front of it and those behind it. -/
private theorem pieces_append_separator (front back : List Char) :
    pieces (front ++ '/' :: back) = pieces front ++ pieces back := by
  induction front with
  | nil =>
      rw [List.nil_append, pieces.eq_2, if_pos rfl]
      rfl
  | cons letter front ih =>
      by_cases hletter : letter = '/'
      · rw [List.cons_append, pieces, if_pos hletter, ih, pieces, if_pos hletter, List.cons_append]
      · obtain ⟨outer, tip, hsplit⟩ := pieces_append front
        have hfront := hsplit [] (List.not_mem_nil)
        rw [List.append_nil, List.append_nil] at hfront
        rw [List.cons_append, pieces, if_neg hletter, ih, pieces, if_neg hletter, hfront]
        cases outer with
        | nil => rfl
        | cons first outer => rfl

private theorem pieces_of_notMem {letters : List Char} (hslash : '/' ∉ letters) :
    pieces letters = [letters] := by
  induction letters with
  | nil => rfl
  | cons letter letters ih =>
      obtain ⟨hletter, hrest⟩ := List.ne_and_not_mem_of_not_mem_cons hslash
      rw [pieces, if_neg (Ne.symm hletter), ih hrest]

private theorem steps_of_entry {front name : List Char} (hslash : '/' ∉ name) (hdash : '-' ∈ name) :
    (⟨String.ofList (front ++ '/' :: name)⟩ : Path).steps =
      (pieces front).filterMap step? ++ [.into name] := by
  have hne : name ≠ [] := List.ne_nil_of_mem hdash
  have hlast : (front ++ '/' :: name).getLast? ≠ some '/' := by
    rw [List.getLast?_append_of_ne_nil _ (List.cons_ne_nil _ _), List.getLast?_cons_of_ne_nil hne]
    exact fun hend => hslash (List.mem_of_getLast? hend)
  have hstep := step?_of_dash hdash
  simp only [steps, String.toList_ofList, if_neg hlast, pieces_append_separator,
    pieces_of_notMem hslash, List.filterMap_append, List.filterMap_cons, hstep, List.filterMap_nil]

private theorem not_isAbsolute_of_notMem {name : String} (hslash : '/' ∉ name.toList) :
    ¬ (⟨name⟩ : Path).isAbsolute = true := by
  intro habsolute
  simp only [isAbsolute, startsAtRoot, decide_eq_true_eq] at habsolute
  exact hslash (List.mem_of_head? habsolute)

/-- The way to a name in a directory starts where the way to the directory starts. -/
theorem isAbsolute_join_entry {directory : Path} {name : String}
    (hdirectory : directory.text.toList ≠ []) (hslash : '/' ∉ name.toList) :
    (directory.join ⟨name⟩).isAbsolute = directory.isAbsolute := by
  have hhead : ∀ behind : List Char,
      startsAtRoot (directory.text.toList ++ behind) = startsAtRoot directory.text.toList := by
    intro behind
    obtain ⟨letter, letters, hletters⟩ := List.exists_cons_of_ne_nil hdirectory
    rw [hletters]
    rfl
  simp only [join, if_neg (not_isAbsolute_of_notMem hslash)]
  split
  · simp only [isAbsolute, String.toList_append, hhead]
  · simp only [isAbsolute, String.toList_append, List.append_assoc, hhead]

/-- The way to a name in a directory is the way to the directory and a step into the name. -/
theorem steps_join_entry {directory : Path} {name : String}
    (hdirectory : directory.text.toList ≠ []) (hslash : '/' ∉ name.toList) (hdash : '-' ∈ name.toList) :
    ∃ before, (directory.steps = before ∨ directory.steps = before ++ [.slash]) ∧
      (directory.join ⟨name⟩).steps = before ++ [.into name.toList] := by
  simp only [join, if_neg (not_isAbsolute_of_notMem hslash), hdirectory, false_or]
  by_cases hlast : directory.text.toList.getLast? = some '/'
  · obtain ⟨front, hfront⟩ := List.getLast?_eq_some_iff.mp hlast
    refine ⟨(pieces front).filterMap step?, Or.inr ?_, ?_⟩
    · simp only [steps, if_pos hlast]
      rw [hfront, pieces_append_separator, List.filterMap_append]
      exact congrArg (· ++ [WalkStep.slash]) (List.append_nil _)
    · rw [if_pos hlast]
      have htext : directory.text ++ name = String.ofList (front ++ '/' :: name.toList) := by
        apply String.toList_inj.mp
        rw [String.toList_append, String.toList_ofList, hfront, List.append_assoc]
        rfl
      rw [htext]
      exact steps_of_entry hslash hdash
  · refine ⟨directory.steps, Or.inl rfl, ?_⟩
    rw [if_neg hlast]
    have htext : directory.text ++ "/" ++ name =
        String.ofList (directory.text.toList ++ '/' :: name.toList) := by
      apply String.toList_inj.mp
      simp
    rw [htext, steps_of_entry hslash hdash]
    simp only [steps, if_neg hlast]

private theorem pieces_ne_nil (letters : List Char) : pieces letters ≠ [] := by
  obtain ⟨outer, tip, hsplit⟩ := pieces_append letters
  have hletters := hsplit [] List.not_mem_nil
  rw [List.append_nil] at hletters
  rw [hletters]
  exact List.append_ne_nil_of_right_ne_nil _ (List.cons_ne_nil _ _)

/-- What is behind a separator adds its own components. -/
private theorem components_append_separator (front back : List Char) :
    (⟨String.ofList (front ++ '/' :: back)⟩ : Path).components =
      (⟨String.ofList (front ++ ['/'])⟩ : Path).components ++
        (pieces back).filterMap component? := by
  have hstart : startsAtRoot (front ++ '/' :: back) = startsAtRoot (front ++ ['/']) := by
    cases front <;> rfl
  have hhead : ∀ rest, (pieces front ++ rest).head? = (pieces front).head? := by
    intro rest
    exact List.head?_append_of_ne_nil _ (pieces_ne_nil front)
  have hempty : (pieces []).filterMap component? = [] := rfl
  simp only [components, String.toList_ofList, hstart, pieces_append_separator, hhead,
    List.filterMap_append, hempty, List.append_nil, List.append_assoc]

/-- A separator at the end makes no difference. -/
private theorem components_append_slash {letters : List Char} (hletters : letters ≠ []) :
    (⟨String.ofList (letters ++ ['/'])⟩ : Path).components =
      (⟨String.ofList letters⟩ : Path).components := by
  have hstart : startsAtRoot (letters ++ ['/']) = startsAtRoot letters := by
    obtain ⟨letter, rest, rfl⟩ := List.exists_cons_of_ne_nil hletters
    rfl
  have hhead : (pieces letters ++ pieces []).head? = (pieces letters).head? :=
    List.head?_append_of_ne_nil _ (pieces_ne_nil letters)
  have hempty : (pieces []).filterMap component? = [] := rfl
  simp only [components, String.toList_ofList, hstart, pieces_append_separator, hhead,
    List.filterMap_append, hempty, List.append_nil]

/-- A name in a directory is one component behind those of the directory. -/
theorem components_join_entry (directory : Path) {name : String} (hslash : '/' ∉ name.toList)
    (hdash : '-' ∈ name.toList) :
    (directory.join ⟨name⟩).components = directory.components ++ [.entry name.toList] := by
  have hname : (pieces name.toList).filterMap component? = [.entry name.toList] := by
    rw [pieces_of_notMem hslash, List.filterMap_cons, component?_of_dash hdash,
      List.filterMap_nil]
  have htext : (⟨String.ofList directory.text.toList⟩ : Path) = directory := by
    rw [String.ofList_toList]
  simp only [join, if_neg (not_isAbsolute_of_notMem hslash)]
  by_cases hempty : directory.text.toList = []
  · -- nothing stands in front of the name
    have hdirectory : directory.components = [] := by
      simp only [components, hempty]
      rfl
    have hdot : name.toList ≠ ['.'] := fun heq => absurd (heq ▸ hdash) (by decide)
    have hroot : startsAtRoot name.toList = false :=
      Bool.eq_false_iff.mpr (not_isAbsolute_of_notMem hslash)
    rw [if_pos (Or.inl hempty), hdirectory, List.nil_append, String.toList_eq_nil_iff.mp hempty]
    simp only [components, String.empty_append, hname, hroot]
    rw [pieces_of_notMem hslash]
    simp [hdot]
  · by_cases hlast : directory.text.toList.getLast? = some '/'
    · obtain ⟨front, hfront⟩ := List.getLast?_eq_some_iff.mp hlast
      have hjoined : directory.text ++ name = String.ofList (front ++ '/' :: name.toList) := by
        apply String.toList_inj.mp
        rw [String.toList_append, String.toList_ofList, hfront, List.append_assoc]
        rfl
      rw [if_pos (Or.inr hlast), hjoined, components_append_separator, hname, ← hfront, htext]
    · have hjoined : directory.text ++ "/" ++ name =
          String.ofList (directory.text.toList ++ '/' :: name.toList) := by
        apply String.toList_inj.mp
        simp
      rw [if_neg (not_or.mpr ⟨hempty, hlast⟩), hjoined, components_append_separator, hname,
        components_append_slash hempty, htext]

theorem isAbsolute_join {directory name : Path} (habsolute : directory.isAbsolute = true) :
    (directory.join name).isAbsolute = true := by
  have hhead : ∀ behind : List Char, startsAtRoot (directory.text.toList ++ behind) = true := by
    intro behind
    unfold isAbsolute at habsolute
    cases hletters : directory.text.toList with
    | nil => rw [hletters] at habsolute; cases habsolute
    | cons letter letters => rw [hletters] at habsolute; exact habsolute
  by_cases hname : name.isAbsolute = true
  · simpa only [join, if_pos hname] using hname
  · simp only [join, if_neg hname]
    split
    · simpa only [isAbsolute, String.toList_append] using hhead name.text.toList
    · simpa only [isAbsolute, String.toList_append, List.append_assoc] using hhead _

end Path

namespace Layout

variable (layout : Layout) (revision : Revision)

/-- How the names of the manifests end. -/
def manifestEnd : EntryName := "-pod.yaml".toList

/-- How the name of the marker ends. -/
def markerEnd : EntryName := "-startup-monitor.yaml".toList

/-- How the name of the pointer ends. -/
def pointerEnd : EntryName := "-last-known-good".toList

/-- The active manifest and the marker are in one directory. -/
theorem steps_manifests :
    ∃ before tip, layout.activeManifest.steps = before ++ [.into (tip ++ manifestEnd)] ∧
      layout.selfMarker.steps = before ++ [.into (tip ++ markerEnd)] := by
  obtain ⟨before, tip, hsteps⟩ := Path.steps_append (layout.manifestsDir.join ⟨layout.target⟩).text
  refine ⟨before, tip, ?_, ?_⟩
  · rw [activeManifest, manifestName, Path.join_append _ (by decide)]
    exact hsteps _ (by decide) (by decide)
  · rw [selfMarker, Path.join_append _ (by decide)]
    exact hsteps _ (by decide) (by decide)

theorem start_selfMarker (directory : Location) :
    layout.selfMarker.start directory = layout.activeManifest.start directory := by
  rw [selfMarker, activeManifest, manifestName, Path.join_append _ (by decide),
    Path.join_append _ (by decide)]
  simp only [Path.start]
  rw [Path.isAbsolute_append (by decide), Path.isAbsolute_append (by decide)]

theorem steps_lastKnownGood :
    ∃ before tip, layout.lastKnownGood.steps = before ++ [.into (tip ++ pointerEnd)] := by
  obtain ⟨before, tip, hsteps⟩ := Path.steps_append (layout.resourcesDir.join ⟨layout.target⟩).text
  refine ⟨before, tip, ?_⟩
  rw [lastKnownGood, Path.join_append _ (by decide)]
  exact hsteps _ (by decide) (by decide)

theorem steps_revisionedManifest :
    ∃ before tip,
      (layout.revisionedManifest revision).steps = before ++ [.into (tip ++ manifestEnd)] := by
  obtain ⟨before, tip, hsteps⟩ := Path.steps_append
    ((layout.resourcesDir.join ⟨layout.revisionDirName revision⟩).join ⟨layout.target⟩).text
  refine ⟨before, tip, ?_⟩
  rw [revisionedManifest, manifestName, Path.join_append _ (by decide)]
  exact hsteps _ (by decide) (by decide)

/-! ## The last components -/

theorem getLast?_activeManifest :
    ∃ tip, layout.activeManifest.components.getLast? = some (.entry (tip ++ manifestEnd)) := by
  obtain ⟨tip, hlast⟩ :=
    Path.getLast?_components_append (layout.manifestsDir.join ⟨layout.target⟩).text
  refine ⟨tip, ?_⟩
  rw [activeManifest, manifestName, Path.join_append _ (by decide)]
  exact hlast _ (by decide) (by decide)

theorem getLast?_selfMarker :
    ∃ tip, layout.selfMarker.components.getLast? = some (.entry (tip ++ markerEnd)) := by
  obtain ⟨tip, hlast⟩ :=
    Path.getLast?_components_append (layout.manifestsDir.join ⟨layout.target⟩).text
  refine ⟨tip, ?_⟩
  rw [selfMarker, Path.join_append _ (by decide)]
  exact hlast _ (by decide) (by decide)

theorem getLast?_lastKnownGood :
    ∃ tip, layout.lastKnownGood.components.getLast? = some (.entry (tip ++ pointerEnd)) := by
  obtain ⟨tip, hlast⟩ :=
    Path.getLast?_components_append (layout.resourcesDir.join ⟨layout.target⟩).text
  refine ⟨tip, ?_⟩
  rw [lastKnownGood, Path.join_append _ (by decide)]
  exact hlast _ (by decide) (by decide)

theorem getLast?_revisionedManifest :
    ∃ tip, (layout.revisionedManifest revision).components.getLast? =
      some (.entry (tip ++ manifestEnd)) := by
  obtain ⟨tip, hlast⟩ := Path.getLast?_components_append
    ((layout.resourcesDir.join ⟨layout.revisionDirName revision⟩).join ⟨layout.target⟩).text
  refine ⟨tip, ?_⟩
  rw [revisionedManifest, manifestName, Path.join_append _ (by decide)]
  exact hlast _ (by decide) (by decide)

theorem isAbsolute_revisionedManifest (habsolute : layout.resourcesDir.isAbsolute = true) :
    (layout.revisionedManifest revision).isAbsolute = true :=
  Path.isAbsolute_join (Path.isAbsolute_join habsolute)

/-! ## Names of different kinds -/

theorem manifestEnd_ne_markerEnd (tip other : EntryName) :
    tip ++ manifestEnd ≠ other ++ markerEnd := by
  intro heq
  have hsplit : other ++ markerEnd =
      (other ++ markerEnd.take 12) ++ markerEnd.drop 12 := by
    rw [List.append_assoc, List.take_append_drop]
  obtain ⟨-, hends⟩ := List.append_inj' (heq.trans hsplit) (by decide)
  exact absurd hends (by decide)

theorem pointerEnd_ne_manifestEnd (tip other : EntryName) :
    tip ++ pointerEnd ≠ other ++ manifestEnd := by
  intro heq
  have hlast := congrArg List.getLast? heq
  rw [List.getLast?_append_of_ne_nil _ (by decide), List.getLast?_append_of_ne_nil _ (by decide)]
    at hlast
  exact absurd hlast (by decide)

theorem pointerEnd_ne_markerEnd (tip other : EntryName) :
    tip ++ pointerEnd ≠ other ++ markerEnd := by
  intro heq
  have hlast := congrArg List.getLast? heq
  rw [List.getLast?_append_of_ne_nil _ (by decide), List.getLast?_append_of_ne_nil _ (by decide)]
    at hlast
  exact absurd hlast (by decide)

/-! ## Paths of different kinds -/

theorem lastKnownGood_same_activeManifest :
    layout.lastKnownGood.same layout.activeManifest = false := by
  obtain ⟨tip, hpointer⟩ := layout.getLast?_lastKnownGood
  obtain ⟨other, hactive⟩ := layout.getLast?_activeManifest
  refine decide_eq_false fun hsame => ?_
  rw [hsame, hactive] at hpointer
  exact (pointerEnd_ne_manifestEnd tip other)
    (Path.Component.entry.inj (Option.some.inj hpointer)).symm

theorem activeManifest_same_lastKnownGood :
    layout.activeManifest.same layout.lastKnownGood = false :=
  (Path.same_comm _ _).trans layout.lastKnownGood_same_activeManifest

theorem revisionedManifest_same_lastKnownGood :
    (layout.revisionedManifest revision).same layout.lastKnownGood = false := by
  obtain ⟨tip, hmanifest⟩ := layout.getLast?_revisionedManifest revision
  obtain ⟨other, hpointer⟩ := layout.getLast?_lastKnownGood
  refine decide_eq_false fun hsame => ?_
  rw [hsame, hpointer] at hmanifest
  exact pointerEnd_ne_manifestEnd other tip
    (Path.Component.entry.inj (Option.some.inj hmanifest))

theorem selfMarker_same_lastKnownGood :
    layout.selfMarker.same layout.lastKnownGood = false := by
  obtain ⟨tip, hmarker⟩ := layout.getLast?_selfMarker
  obtain ⟨other, hpointer⟩ := layout.getLast?_lastKnownGood
  refine decide_eq_false fun hsame => ?_
  rw [hsame, hpointer] at hmarker
  exact pointerEnd_ne_markerEnd other tip (Path.Component.entry.inj (Option.some.inj hmarker))

theorem selfMarker_same_activeManifest :
    layout.selfMarker.same layout.activeManifest = false := by
  obtain ⟨tip, hmarker⟩ := layout.getLast?_selfMarker
  obtain ⟨other, hactive⟩ := layout.getLast?_activeManifest
  refine decide_eq_false fun hsame => ?_
  rw [hsame, hactive] at hmarker
  exact manifestEnd_ne_markerEnd other tip (Path.Component.entry.inj (Option.some.inj hmarker))

end Layout

end RevisionGuard
