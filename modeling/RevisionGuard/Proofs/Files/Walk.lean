import RevisionGuard.Files.Tree
import Mathlib.Tactic.Common

/-!
# Walks that succeed

`Tree.Leads` is the derivation of a walk that comes to its end: one constructor
for each way in which a walk takes a step.  What is said of such a walk is said
by induction on it.

* A walk along two runs of steps is two walks in a row (`Leads.append_iff`).
* The number of links only decides how far a walk comes, never where it goes
  (`Leads.with_links`, `Leads.walk_eq_tooManyLinks`).
* A place from which nothing of a kind is reached may be changed without harm to
  a walk that ends at something of that kind (`Leads.frame`).
-/

namespace RevisionGuard

namespace Tree

variable {tree other : Tree} {links left : Nat} {here there ending : Location}
  {step : WalkStep} {steps front back rest : List WalkStep} {name : EntryName}

/-- Where a step leads that does not go into an entry. -/
def around? (here : Location) : WalkStep → Option Location
  | .into _ => none
  | .up => some here.tail
  | .stay => some here
  | .slash => some here

/-- A walk from a location with so many links to follow succeeds, with so many
links left and at that end. -/
inductive Leads (tree : Tree) : Nat → Location → List WalkStep → Nat → Location → Prop where
  | nil (links : Nat) (here : Location) : Leads tree links here [] links here
  /-- A step stays in a directory or goes above it. -/
  | around {links left : Nat} {here there ending : Location} {step : WalkStep}
      {rest : List WalkStep} (hhere : tree.at? here = some .directory)
      (hstep : around? here step = some there) (hrest : Leads tree links there rest left ending) :
      Leads tree links here (step :: rest) left ending
  /-- A step goes into an entry that is no link, or is missing. -/
  | into {links left : Nat} {here ending : Location} {name : EntryName} {rest : List WalkStep}
      (hhere : tree.at? here = some .directory) (hshort : isTooLong name = false)
      (hentry : ∀ target, tree.at? (name :: here) ≠ some (.link target))
      (hrest : Leads tree links (name :: here) rest left ending) :
      Leads tree links here (.into name :: rest) left ending
  /-- A step goes into a link, which is followed. -/
  | follow {links left : Nat} {here ending : Location} {name : EntryName}
      {rest : List WalkStep} {target : Path} (hhere : tree.at? here = some .directory)
      (hshort : isTooLong name = false) (hlink : tree.at? (name :: here) = some (.link target))
      (hrest : Leads tree links (target.start here) (target.steps ++ rest) left ending) :
      Leads tree (links + 1) here (.into name :: rest) left ending

/-! ## Single steps -/

theorem enter_eq_ok_iff {location : Location} :
    tree.enter location = .ok () ↔ tree.at? location = some .directory := by
  unfold enter
  cases tree.at? location with
  | none => simp
  | some entry => cases entry <;> simp

/-- How a walk goes on behind a link. -/
def following (tree : Tree) (making : Bool) :
    Nat → Location → List WalkStep → Except FileFault (Nat × Location)
  | 0 => fun _ _ => .error .tooManyLinks
  | left + 1 => tree.walk making left

theorem walk_eq_walkBy (making : Bool) (links : Nat) :
    tree.walk making links = tree.walkBy making links (tree.following making links) := by
  cases links <;> rfl

theorem walk_nil (making : Bool) (links : Nat) (here : Location) :
    tree.walk making links here [] = .ok (links, here) := by
  rw [walk_eq_walkBy, walkBy]

theorem walk_around {making : Bool} (hhere : tree.at? here = some .directory)
    (hstep : around? here step = some there) :
    tree.walk making links here (step :: rest) = tree.walk making links there rest := by
  rw [walk_eq_walkBy]
  cases step with
  | into name => cases hstep
  | up =>
      obtain rfl : here.tail = there := Option.some.inj hstep
      rw [walkBy, enter_eq_ok_iff.mpr hhere]
  | stay =>
      obtain rfl : here = there := Option.some.inj hstep
      rw [walkBy, enter_eq_ok_iff.mpr hhere]
  | slash =>
      obtain rfl : here = there := Option.some.inj hstep
      rw [walkBy, enter_eq_ok_iff.mpr hhere]

private theorem not_endsHere_iff {making : Bool} :
    ¬ (making && decide (rest = [.slash])) = true ↔ making = false ∨ rest ≠ [.slash] := by
  cases making <;> simp

theorem walk_into {making : Bool} (hhere : tree.at? here = some .directory)
    (hmaking : making = false ∨ rest ≠ [.slash]) (hshort : isTooLong name = false)
    (hentry : ∀ target, tree.at? (name :: here) ≠ some (.link target)) :
    tree.walk making links here (.into name :: rest) =
      tree.walk making links (name :: here) rest := by
  rw [walk_eq_walkBy, walkBy, enter_eq_ok_iff.mpr hhere]
  simp only [if_neg (not_endsHere_iff.mpr hmaking), hshort]
  cases hfound : tree.at? (name :: here) with
  | none => rfl
  | some entry =>
      cases entry with
      | link target => exact absurd hfound (hentry target)
      | file contents mode => rfl
      | directory => rfl

theorem walk_follow {making : Bool} {target : Path} (hhere : tree.at? here = some .directory)
    (hmaking : making = false ∨ rest ≠ [.slash]) (hshort : isTooLong name = false)
    (hlink : tree.at? (name :: here) = some (.link target)) :
    tree.walk making links here (.into name :: rest) =
      tree.following making links (target.start here) (target.steps ++ rest) := by
  rw [walk_eq_walkBy, walkBy, enter_eq_ok_iff.mpr hhere]
  simp only [if_neg (not_endsHere_iff.mpr hmaking), hshort, hlink]
  rfl

/-! ## Walks and derivations -/

theorem Leads.walk_eq (hleads : tree.Leads links here steps left ending) :
    tree.walk false links here steps = .ok (left, ending) := by
  induction hleads with
  | nil links here => exact walk_nil _ _ _
  | around hhere hstep _ ih => rw [walk_around hhere hstep, ih]
  | into hhere hshort hentry _ ih => rw [walk_into hhere (Or.inl rfl) hshort hentry, ih]
  | follow hhere hshort hlink _ ih => rw [walk_follow hhere (Or.inl rfl) hshort hlink]; exact ih

private theorem leads_of_walkBy {making : Bool}
    (hfollow : ∀ {here steps left ending},
      tree.following making links here steps = .ok (left, ending) →
        ∃ fewer, links = fewer + 1 ∧ tree.Leads fewer here steps left ending)
    (hwalk : tree.walk making links here steps = .ok (left, ending)) :
    tree.Leads links here steps left ending := by
  induction steps generalizing here with
  | nil =>
      rw [walk_nil] at hwalk
      cases hwalk
      exact .nil _ _
  | cons step rest ih =>
      cases henter : tree.enter here with
      | error fault =>
          rw [walk_eq_walkBy, walkBy.eq_def] at hwalk
          simp [henter] at hwalk
      | ok value =>
          have hhere := enter_eq_ok_iff.mp henter
          cases step with
          | stay => exact .around hhere rfl (ih ((walk_around hhere rfl).symm.trans hwalk))
          | slash => exact .around hhere rfl (ih ((walk_around hhere rfl).symm.trans hwalk))
          | up => exact .around hhere rfl (ih ((walk_around hhere rfl).symm.trans hwalk))
          | into name =>
              -- a walk that fails at the name does not end anywhere
              by_cases hends : (making && decide (rest = [.slash])) = true
              · rw [walk_eq_walkBy, walkBy.eq_def] at hwalk
                simp [henter, hends] at hwalk
              have hmaking := not_endsHere_iff.mp hends
              cases hshort : isTooLong name with
              | true =>
                  rw [walk_eq_walkBy, walkBy.eq_def] at hwalk
                  simp [henter, hends, hshort] at hwalk
              | false =>
                  by_cases hlink : ∃ target, tree.at? (name :: here) = some (.link target)
                  · obtain ⟨target, hlink⟩ := hlink
                    rw [walk_follow hhere hmaking hshort hlink] at hwalk
                    obtain ⟨fewer, rfl, hrest⟩ := hfollow hwalk
                    exact .follow hhere hshort hlink hrest
                  · rw [not_exists] at hlink
                    rw [walk_into hhere hmaking hshort hlink] at hwalk
                    exact .into hhere hshort hlink (ih hwalk)

theorem leads_of_walk (making : Bool)
    (hwalk : tree.walk making links here steps = .ok (left, ending)) :
    tree.Leads links here steps left ending := by
  induction links generalizing here steps left ending with
  -- without links to follow there is no walk behind a link
  | zero => exact leads_of_walkBy (fun hfault => nomatch hfault) hwalk
  | succ links ih => exact leads_of_walkBy (fun hfollow => ⟨links, rfl, ih hfollow⟩) hwalk

theorem leads_iff :
    tree.Leads links here steps left ending ↔
      tree.walk false links here steps = .ok (left, ending) :=
  ⟨Leads.walk_eq, leads_of_walk false⟩

/-- A walk has one end. -/
theorem Leads.unique {others : Nat} {elsewhere : Location}
    (hleads : tree.Leads links here steps left ending)
    (hother : tree.Leads links here steps others elsewhere) :
    others = left ∧ elsewhere = ending := by
  have hpair := Except.ok.inj (hother.walk_eq.symm.trans hleads.walk_eq)
  exact Prod.mk.inj hpair

theorem Leads.nil_iff : tree.Leads links here [] left ending ↔ left = links ∧ ending = here := by
  constructor
  · rintro ⟨⟩
    exact ⟨rfl, rfl⟩
  · rintro ⟨rfl, rfl⟩
    exact .nil _ _

/-- A walk takes its first step from a directory. -/
theorem Leads.at?_of_cons (hleads : tree.Leads links here (step :: rest) left ending) :
    tree.at? here = some .directory := by
  cases hleads <;> assumption

/-! ## Walks in a row -/

theorem Leads.append {between : Nat} {middle : Location}
    (hfront : tree.Leads links here front between middle)
    (hback : tree.Leads between middle back left ending) :
    tree.Leads links here (front ++ back) left ending := by
  induction hfront with
  | nil links here => exact hback
  | around hhere hstep _ ih => exact .around hhere hstep (ih hback)
  | into hhere hshort hentry _ ih => exact .into hhere hshort hentry (ih hback)
  | follow hhere hshort hlink _ ih =>
      have hrest := ih hback
      rw [List.append_assoc] at hrest
      exact .follow hhere hshort hlink hrest

/-- A walk along two runs of steps is two walks in a row. -/
theorem Leads.append_iff :
    tree.Leads links here (front ++ back) left ending ↔
      ∃ between middle, tree.Leads links here front between middle ∧
        tree.Leads between middle back left ending := by
  refine ⟨fun hleads => ?_, fun ⟨_, _, hfront, hback⟩ => hfront.append hback⟩
  -- the steps of a link that is followed stand in front of the others, so the first
  -- run of steps changes along the way
  generalize hsteps : front ++ back = steps at hleads
  induction hleads generalizing front with
  | nil links here =>
      obtain ⟨rfl, rfl⟩ := List.append_eq_nil_iff.mp hsteps
      exact ⟨links, here, .nil _ _, .nil _ _⟩
  | @around links left here there ending step rest hhere hstep hrest ih =>
      rcases List.append_eq_cons_iff.mp hsteps with ⟨rfl, rfl⟩ | ⟨front, rfl, hrest'⟩
      · exact ⟨links, here, .nil _ _, .around hhere hstep hrest⟩
      · obtain ⟨between, middle, hfront, hback⟩ := ih hrest'.symm
        exact ⟨between, middle, .around hhere hstep hfront, hback⟩
  | @into links left here ending name rest hhere hshort hentry hrest ih =>
      rcases List.append_eq_cons_iff.mp hsteps with ⟨rfl, rfl⟩ | ⟨front, rfl, hrest'⟩
      · exact ⟨links, here, .nil _ _, .into hhere hshort hentry hrest⟩
      · obtain ⟨between, middle, hfront, hback⟩ := ih hrest'.symm
        exact ⟨between, middle, .into hhere hshort hentry hfront, hback⟩
  | @follow links left here ending name rest target hhere hshort hlink hrest ih =>
      rcases List.append_eq_cons_iff.mp hsteps with ⟨rfl, rfl⟩ | ⟨front, rfl, hrest'⟩
      · exact ⟨links + 1, here, .nil _ _, .follow hhere hshort hlink hrest⟩
      · subst hrest'
        obtain ⟨between, middle, hfront, hback⟩ := ih (List.append_assoc _ _ _)
        exact ⟨between, middle, .follow hhere hshort hlink hfront, hback⟩

/-- A walk goes on as it would from where its first steps lead.  A walk to a
file that is to be made looks at the end of the path, which the remaining steps
must hold. -/
theorem Leads.walk_append {between : Nat} {middle : Location} (making : Bool)
    (hfront : tree.Leads links here front between middle) (hback : back ≠ [])
    (hslash : back ≠ [.slash]) :
    tree.walk making links here (front ++ back) = tree.walk making between middle back := by
  have hopen : ∀ rest : List WalkStep, rest ++ back ≠ [.slash] := by
    intro rest hrest
    rcases List.append_eq_cons_iff.mp hrest with ⟨-, hback'⟩ | ⟨_, -, hnil⟩
    · exact hslash hback'
    · exact hback (List.append_eq_nil_iff.mp hnil.symm).2
  induction hfront with
  | nil links here => rfl
  | around hhere hstep _ ih => rw [List.cons_append, walk_around hhere hstep, ih]
  | into hhere hshort hentry _ ih =>
      rw [List.cons_append, walk_into hhere (Or.inr (hopen _)) hshort hentry, ih]
  | follow hhere hshort hlink _ ih =>
      rw [List.cons_append, walk_follow hhere (Or.inr (hopen _)) hshort hlink, following,
        ← List.append_assoc]
      exact ih

/-! ## The number of links -/

theorem Leads.le (hleads : tree.Leads links here steps left ending) : left ≤ links := by
  induction hleads with
  | nil links here => exact Nat.le_refl _
  | around _ _ _ ih => exact ih
  | into _ _ _ _ ih => exact ih
  | follow _ _ _ _ ih => omega

/-- A walk with enough links goes the same way. -/
theorem Leads.with_links {more : Nat} (hleads : tree.Leads links here steps left ending)
    (hmore : links ≤ more + left) : tree.Leads more here steps (more + left - links) ending := by
  induction hleads generalizing more with
  | nil links here =>
      rw [Nat.add_sub_cancel]
      exact .nil _ _
  | around hhere hstep _ ih => exact .around hhere hstep (ih hmore)
  | into hhere hshort hentry _ ih => exact .into hhere hshort hentry (ih hmore)
  | @follow links left here ending name rest target hhere hshort hlink hrest ih =>
      have hle := hrest.le
      obtain ⟨fewer, rfl⟩ : ∃ fewer, more = fewer + 1 := ⟨more - 1, by omega⟩
      have hleft : fewer + 1 + left - (links + 1) = fewer + left - links := by omega
      rw [hleft]
      exact .follow hhere hshort hlink (ih (by omega))

/-- A walk with too few links says so. -/
theorem Leads.walk_eq_tooManyLinks {fewer : Nat}
    (hleads : tree.Leads links here steps left ending) (hfewer : fewer + left < links) :
    tree.walk false fewer here steps = .error .tooManyLinks := by
  induction hleads generalizing fewer with
  | nil links here => omega
  | around hhere hstep _ ih => rw [walk_around hhere hstep, ih hfewer]
  | into hhere hshort hentry _ ih => rw [walk_into hhere (Or.inl rfl) hshort hentry, ih hfewer]
  | follow hhere hshort hlink _ ih =>
      rw [walk_follow hhere (Or.inl rfl) hshort hlink]
      cases fewer with
      | zero => rfl
      | succ fewer => exact ih (by omega)

/-! ## Changes off the way -/

/-- Nothing of a kind is reached by way of an entry: it is missing, or of another
kind, or a link that leads to nothing of the kind. -/
def DeadEnd (tree : Tree) (kept : Entry → Prop) (directory : Location) (name : EntryName) : Prop :=
  match tree.at? (name :: directory) with
  | none => True
  | some (.link target) => ∀ links left ending entry,
      tree.Leads links (target.start directory) target.steps left ending →
      tree.at? ending = some entry → ¬ kept entry
  | some entry => ¬ kept entry

section Frame

variable {kept : Entry → Prop} {directory : Location} {entry : Entry}

theorem DeadEnd.ne {location : Location} (hdead : tree.DeadEnd kept directory name)
    (hlinks : ∀ target, ¬ kept (.link target)) (hentry : tree.at? location = some entry)
    (hkept : kept entry) : location ≠ name :: directory := by
  rintro rfl
  unfold DeadEnd at hdead
  rw [hentry] at hdead
  cases entry with
  | link target => exact hlinks target hkept
  | file contents mode => exact hdead hkept
  | directory => exact hdead hkept

theorem DeadEnd.mono {fewer : Entry → Prop} (hdead : tree.DeadEnd kept directory name)
    (hfewer : ∀ {entry}, fewer entry → kept entry) : tree.DeadEnd fewer directory name := by
  unfold DeadEnd at hdead ⊢
  split at hdead
  · trivial
  · exact fun links left ending entry hleads hentry hkept =>
      hdead links left ending entry hleads hentry (hfewer hkept)
  · exact fun hkept => hdead (hfewer hkept)

/-- A walk that ends at something of a kind starts at something of it. -/
theorem Leads.kept_of_start (hleads : tree.Leads links here steps left ending)
    (hdirectory : kept .directory) (hentry : tree.at? ending = some entry) (hkept : kept entry) :
    ∃ first, tree.at? here = some first ∧ kept first := by
  cases steps with
  | nil =>
      obtain ⟨-, rfl⟩ := nil_iff.mp hleads
      exact ⟨entry, hentry, hkept⟩
  | cons step rest => exact ⟨.directory, hleads.at?_of_cons, hdirectory⟩

/-- A walk that ends at something of a kind does not notice what happens to an
entry by way of which nothing of that kind is reached. -/
theorem Leads.frame
    (hsame : ∀ location, location ≠ name :: directory → other.at? location = tree.at? location)
    (hdirectory : kept .directory) (hlinks : ∀ target, ¬ kept (.link target))
    (hdead : tree.DeadEnd kept directory name) (hleads : tree.Leads links here steps left ending)
    (hentry : tree.at? ending = some entry) (hkept : kept entry) :
    other.Leads links here steps left ending := by
  have hagree : ∀ {location found}, tree.at? location = some found → kept found →
      other.at? location = some found := fun hfound hkeeps =>
    (hsame _ (hdead.ne hlinks hfound hkeeps)).trans hfound
  induction hleads with
  | nil links here => exact .nil _ _
  | around hhere hstep _ ih => exact .around (hagree hhere hdirectory) hstep (ih hentry)
  | @into links left here ending inner rest hhere hshort hnolink hrest ih =>
      obtain ⟨first, hfirst, hkeeps⟩ := hrest.kept_of_start hdirectory hentry hkept
      refine .into (hagree hhere hdirectory) hshort (fun target htarget => ?_) (ih hentry)
      rw [hagree hfirst hkeeps] at htarget
      exact hnolink target (hfirst.trans htarget)
  | @follow links left here ending inner rest target hhere hshort hlink hrest ih =>
      have hapart : inner :: here ≠ name :: directory := by
        -- Otherwise the walk would go on from where the entry leads.
        intro heq
        obtain ⟨rfl, rfl⟩ := List.cons.inj heq
        obtain ⟨between, middle, hfront, hback⟩ := append_iff.mp hrest
        obtain ⟨first, hfirst, hkeeps⟩ := hback.kept_of_start hdirectory hentry hkept
        unfold DeadEnd at hdead
        rw [hlink] at hdead
        exact hdead _ _ _ _ hfront hfirst hkeeps
      exact .follow (hagree hhere hdirectory) hshort ((hsame _ hapart).trans hlink) (ih hentry)

end Frame

end Tree

end RevisionGuard
