/-!
# Dictionaries

A dictionary keeps values under texts, in the order of the texts and with each
text once.  `Dictionary.insert` puts a value under a text and replaces the one
that was there; the lemmas say what is found afterwards.
-/

namespace RevisionGuard

/-- Values under texts. -/
structure Dictionary (α : Type) where
  entries : List (String × α)
  /-- The texts come in ascending order, so none comes twice. -/
  ascending : entries.Pairwise fun left right => left.1 < right.1

namespace Dictionary

variable {α : Type}

/-- The dictionary without entries. -/
def empty : Dictionary α := ⟨[], .nil⟩

def isEmpty (dictionary : Dictionary α) : Bool := dictionary.entries.isEmpty

def get? (dictionary : Dictionary α) (key : String) : Option α := dictionary.entries.lookup key

def insertEntry (key : String) (value : α) : List (String × α) → List (String × α)
  | [] => [(key, value)]
  | entry :: others =>
    if key < entry.1 then (key, value) :: entry :: others
    else if key = entry.1 then (key, value) :: others
    else entry :: insertEntry key value others

theorem mem_insertEntry {key : String} {value : α} {entry : String × α}
    {entries : List (String × α)} (hmem : entry ∈ insertEntry key value entries) :
    entry = (key, value) ∨ entry ∈ entries := by
  induction entries with
  | nil => simpa [insertEntry] using hmem
  | cons first others ih => grind [insertEntry]

theorem pairwise_insertEntry {key : String} {value : α} {entries : List (String × α)}
    (hascending : entries.Pairwise fun left right => left.1 < right.1) :
    (insertEntry key value entries).Pairwise fun left right => left.1 < right.1 := by
  induction entries with
  | nil => simp [insertEntry]
  | cons first others ih =>
      obtain ⟨hfirst, hothers⟩ := List.pairwise_cons.mp hascending
      unfold insertEntry
      split
      · rename_i hlt
        refine List.pairwise_cons.mpr
          ⟨fun entry hmem => ?_, List.pairwise_cons.mpr ⟨hfirst, hothers⟩⟩
        rcases List.mem_cons.mp hmem with rfl | hmem
        · exact hlt
        · exact String.lt_trans hlt (hfirst entry hmem)
      · split
        · rename_i heq
          exact List.pairwise_cons.mpr ⟨fun entry hmem => heq ▸ hfirst entry hmem, hothers⟩
        · rename_i hnotLt hne
          refine List.pairwise_cons.mpr ⟨fun entry hmem => ?_, ih hothers⟩
          rcases mem_insertEntry hmem with rfl | hmem
          · grind
          · exact hfirst entry hmem

def insert (dictionary : Dictionary α) (key : String) (value : α) : Dictionary α :=
  ⟨insertEntry key value dictionary.entries, pairwise_insertEntry dictionary.ascending⟩

/-- The dictionary of a list of entries; of two with the same text the later
counts. -/
def ofList (entries : List (String × α)) : Dictionary α :=
  entries.foldl (fun dictionary entry => dictionary.insert entry.1 entry.2) empty

theorem lookup_insertEntry_self (key : String) (value : α) (entries : List (String × α)) :
    (insertEntry key value entries).lookup key = some value := by
  induction entries with
  | nil => simp [insertEntry]
  | cons first others ih =>
      unfold insertEntry
      split
      · simp
      · split
        · simp
        · rename_i hne
          have hbeq : (key == first.1) = false := by simpa using hne
          rw [List.lookup_cons, hbeq]
          exact ih

theorem lookup_insertEntry_of_ne {key other : String} (hne : other ≠ key) (value : α)
    (entries : List (String × α)) :
    (insertEntry key value entries).lookup other = entries.lookup other := by
  have hbeq : (other == key) = false := by simpa using hne
  induction entries with
  | nil => simp [insertEntry, hne]
  | cons first others ih =>
      unfold insertEntry
      split
      · rw [List.lookup_cons, hbeq]
      · split
        · rename_i heq
          rw [List.lookup_cons, List.lookup_cons, hbeq, ← heq, hbeq]
        · rw [List.lookup_cons, List.lookup_cons, ih]

/-- A value is found under the text it was put under. -/
@[simp] theorem get?_insert_self (dictionary : Dictionary α) (key : String) (value : α) :
    (dictionary.insert key value).get? key = some value :=
  lookup_insertEntry_self key value dictionary.entries

/-- What is under other texts stays. -/
theorem get?_insert_of_ne (dictionary : Dictionary α) {key other : String} (hne : other ≠ key)
    (value : α) : (dictionary.insert key value).get? other = dictionary.get? other :=
  lookup_insertEntry_of_ne hne value dictionary.entries

/-! ## Dictionaries of lists -/

theorem mem_entries_foldl_insert {entry : String × α} {entries : List (String × α)}
    {dictionary : Dictionary α}
    (hmem : entry ∈ (entries.foldl (fun dictionary entry => dictionary.insert entry.1 entry.2)
      dictionary).entries) : entry ∈ dictionary.entries ∨ entry ∈ entries := by
  induction entries generalizing dictionary with
  | nil => exact Or.inl hmem
  | cons first rest ih =>
      rcases ih hmem with hearlier | hlater
      · rcases mem_insertEntry hearlier with rfl | hearlier
        · exact Or.inr List.mem_cons_self
        · exact Or.inl hearlier
      · exact Or.inr (List.mem_cons_of_mem first hlater)

/-- Nothing is in a dictionary that was not put into it. -/
theorem mem_entries_ofList {entry : String × α} {entries : List (String × α)}
    (hmem : entry ∈ (ofList entries).entries) : entry ∈ entries := by
  rcases mem_entries_foldl_insert hmem with hnone | hentry
  · cases hnone
  · exact hentry

/-- What comes behind all texts is put at the end. -/
theorem insertEntry_last {key : String} {value : α} {entries : List (String × α)}
    (hlast : ∀ entry ∈ entries, entry.1 < key) :
    insertEntry key value entries = entries ++ [(key, value)] := by
  induction entries with
  | nil => rfl
  | cons first others ih =>
      obtain ⟨hfirst, hothers⟩ := List.forall_mem_cons.mp hlast
      have hnotLt : ¬ key < first.1 := fun hlt =>
        String.lt_irrefl key (String.lt_trans hlt hfirst)
      have hne : key ≠ first.1 := fun heq => String.lt_irrefl key (heq ▸ hfirst)
      rw [insertEntry, if_neg hnotLt, if_neg hne, List.cons_append, ih hothers]

theorem eq_of_entries {left right : Dictionary α} (hentries : left.entries = right.entries) :
    left = right := by
  cases left
  cases right
  cases hentries
  rfl

/-- Entries in ascending order are put behind one another. -/
theorem entries_foldl_insert {front : Dictionary α} {back : List (String × α)}
    (hascending : (front.entries ++ back).Pairwise fun left right => left.1 < right.1) :
    (back.foldl (fun dictionary entry => dictionary.insert entry.1 entry.2) front).entries =
      front.entries ++ back := by
  induction back generalizing front with
  | nil => simp
  | cons entry back ih =>
      have hlast : ∀ other ∈ front.entries, other.1 < entry.1 := fun other hmem =>
        (List.pairwise_append.mp hascending).2.2 other hmem entry List.mem_cons_self
      have hinserted : (front.insert entry.1 entry.2).entries = front.entries ++ [entry] :=
        insertEntry_last hlast
      rw [List.append_cons, ← hinserted] at hascending ⊢
      exact ih hascending

/-- A dictionary is the dictionary of its entries. -/
theorem ofList_entries (dictionary : Dictionary α) : ofList dictionary.entries = dictionary :=
  eq_of_entries (entries_foldl_insert (show ((empty : Dictionary α).entries ++ _).Pairwise _ from
    dictionary.ascending))

end Dictionary

end RevisionGuard
