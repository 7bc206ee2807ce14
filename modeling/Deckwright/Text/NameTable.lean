/-!
# Sets and tables of names

A set of names lists each name once, in ascending order, and a table has one entry for each of
its keys, in ascending order of the keys. The order belongs to the type, so that equal sets and
equal tables are equal values and are written in one way.
-/

namespace Deckwright.Text

/-! ## Sets -/

/-- Insert a name into an ascending list. -/
def insertName (name : String) : List String → List String
  | [] => [name]
  | first :: rest =>
    if name < first then name :: first :: rest
    else if first < name then first :: insertName name rest
    else first :: rest

/-- Names of which neither precedes the other are equal. -/
theorem eq_of_not_lt {a b : String} (h : ¬a < b) (h' : ¬b < a) : a = b :=
  String.le_antisymm (String.not_lt.mp h') (String.not_lt.mp h)

/-- An insertion adds its name and no other. -/
theorem mem_insertName {name other : String} {names : List String} :
    other ∈ insertName name names ↔ other = name ∨ other ∈ names := by
  induction names with
  | nil => simp [insertName]
  | cons first rest ih =>
    simp only [insertName]
    split
    · simp
    · rename_i h
      split
      · simp only [List.mem_cons, ih]
        grind
      · rename_i h'
        have := eq_of_not_lt h h'
        simp only [List.mem_cons]
        grind

/-- An insertion keeps names in ascending order. -/
theorem pairwise_insertName {name : String} {names : List String}
    (h : names.Pairwise (· < ·)) : (insertName name names).Pairwise (· < ·) := by
  induction names with
  | nil => simp [insertName]
  | cons first rest ih =>
    rw [List.pairwise_cons] at h
    simp only [insertName]
    split
    · rename_i lt
      rw [List.pairwise_cons, List.pairwise_cons]
      refine ⟨?_, h⟩
      intro other hm
      rcases List.mem_cons.mp hm with rfl | hm
      · exact lt
      · exact String.lt_trans lt (h.1 other hm)
    · split
      · rename_i lt
        rw [List.pairwise_cons]
        refine ⟨?_, ih h.2⟩
        intro other hm
        rcases mem_insertName.mp hm with rfl | hm
        · exact lt
        · exact h.1 other hm
      · exact List.pairwise_cons.mpr h

/-- A name after all others is inserted at the end. -/
theorem insertName_of_forall_lt {name : String} {names : List String}
    (after : ∀ other ∈ names, other < name) : insertName name names = names ++ [name] := by
  induction names with
  | nil => rfl
  | cons first rest ih =>
    have first_lt : first < name := after first List.mem_cons_self
    have rest_lt : ∀ other ∈ rest, other < name :=
      fun other mem => after other (List.mem_cons_of_mem first mem)
    rw [insertName, if_neg (fun h => String.lt_irrefl _ (String.lt_trans h first_lt)),
      if_pos first_lt, ih rest_lt, List.cons_append]

/-- A set of names. -/
structure NameSet where
  /-- The names, each once. -/
  toList : List String
  /-- The names ascend. -/
  ascending : toList.Pairwise (· < ·)
  deriving DecidableEq

namespace NameSet

/-- The set with no name. -/
def empty : NameSet := ⟨[], .nil⟩

instance : Inhabited NameSet := ⟨empty⟩

/-- Add a name. -/
def insert (s : NameSet) (name : String) : NameSet :=
  ⟨insertName name s.toList, pairwise_insertName s.ascending⟩

/-- The set of the names in a list. -/
def ofList (names : List String) : NameSet := names.foldl insert empty

/-- Sets with the same list of names are equal. -/
theorem eq_of_toList {s t : NameSet} (same : s.toList = t.toList) : s = t := by
  cases s
  cases t
  rw [mk.injEq]
  exact same

/-- The name is in the set. -/
def contains (s : NameSet) (name : String) : Bool := s.toList.contains name

/-- An added name is in the set, beside those that were. -/
@[simp] theorem contains_insert (s : NameSet) (name other : String) :
    (s.insert name).contains other = (other == name || s.contains other) := by
  rw [Bool.eq_iff_iff, Bool.or_eq_true, contains, contains, List.contains_iff_mem,
    List.contains_iff_mem, beq_iff_eq, insert, mem_insertName]

/-- Names added one after the other are in the set, beside those that were. -/
theorem contains_foldl_insert (names : List String) (s : NameSet) (name : String) :
    (names.foldl insert s).contains name = (names.contains name || s.contains name) := by
  induction names generalizing s with
  | nil => rfl
  | cons first rest ih =>
    rw [List.foldl_cons, ih, contains_insert, List.contains_cons]
    cases rest.contains name <;> simp

/-- A set made of a list holds the names in the list. -/
@[simp] theorem contains_ofList (names : List String) (name : String) :
    (ofList names).contains name = names.contains name := by
  rw [ofList, contains_foldl_insert]
  simp [contains, empty]

/-- Names in ascending order, all after those of a set, are added at the end of it. -/
theorem toList_foldl_insert {names : List String} (s : NameSet)
    (ascending : (s.toList ++ names).Pairwise (· < ·)) :
    (names.foldl insert s).toList = s.toList ++ names := by
  induction names generalizing s with
  | nil => rw [List.foldl_nil, List.append_nil]
  | cons first rest ih =>
    have step : (s.insert first).toList = s.toList ++ [first] := by
      refine insertName_of_forall_lt ?_
      intro other mem
      exact (List.pairwise_append.1 ascending).2.2 other mem first List.mem_cons_self
    rw [List.foldl_cons, ih _ (by simpa [step] using ascending), step, List.append_assoc]
    rfl

/-- The set of the names of a set is that set. -/
theorem ofList_toList (s : NameSet) : ofList s.toList = s := by
  refine eq_of_toList ?_
  rw [ofList, toList_foldl_insert empty s.ascending]
  rfl

end NameSet

/-! ## Tables -/

/-- Give a key its value in a list of entries with ascending keys. -/
def insertEntry {α : Type} (key : String) (value : α) : List (String × α) → List (String × α)
  | [] => [(key, value)]
  | first :: rest =>
    if key < first.1 then (key, value) :: first :: rest
    else if first.1 < key then first :: insertEntry key value rest
    else (key, value) :: rest

/-- The keys after an insertion are those before with the key inserted. -/
theorem keys_insertEntry {α : Type} (key : String) (value : α) (entries : List (String × α)) :
    (insertEntry key value entries).map (·.1) = insertName key (entries.map (·.1)) := by
  induction entries with
  | nil => rfl
  | cons first rest ih =>
    simp only [insertEntry, List.map_cons, insertName]
    split
    · simp
    · rename_i h
      split
      · simp [ih]
      · rename_i h'
        simp [eq_of_not_lt h h']

/-- Looking up a key after an insertion. -/
theorem lookup_insertEntry {α : Type} (key other : String) (value : α)
    (entries : List (String × α)) :
    (insertEntry key value entries).lookup other =
      if other = key then some value else entries.lookup other := by
  induction entries with
  | nil =>
    simp only [insertEntry, List.lookup_cons, List.lookup_nil]
    split <;> simp_all
  | cons first rest ih =>
    obtain ⟨firstKey, firstValue⟩ := first
    simp only [insertEntry]
    split
    · simp only [List.lookup_cons]
      split <;> simp_all
    · rename_i notBefore
      split
      · rename_i after
        rw [List.lookup_cons, ih, List.lookup_cons]
        split
        · rename_i same
          have : other ≠ key := by
            rintro rfl
            rw [beq_iff_eq] at same
            subst same
            exact String.lt_irrefl _ after
          rw [if_neg this]
        · rfl
      · rename_i notAfter
        have same : key = firstKey := eq_of_not_lt notBefore notAfter
        subst same
        simp only [List.lookup_cons]
        split <;> simp_all

/-- An entry whose key is after all others is inserted at the end. -/
theorem insertEntry_of_forall_lt {α : Type} {key : String} {value : α}
    {entries : List (String × α)} (after : ∀ entry ∈ entries, entry.1 < key) :
    insertEntry key value entries = entries ++ [(key, value)] := by
  induction entries with
  | nil => rfl
  | cons first rest ih =>
    have first_lt : first.1 < key := after first List.mem_cons_self
    have rest_lt : ∀ entry ∈ rest, entry.1 < key :=
      fun entry mem => after entry (List.mem_cons_of_mem first mem)
    rw [insertEntry, if_neg (fun h => String.lt_irrefl _ (String.lt_trans h first_lt)),
      if_pos first_lt, ih rest_lt, List.cons_append]

/-- An entry with a new key is added to the others. -/
theorem perm_insertEntry {α : Type} {key : String} {value : α} {entries : List (String × α)}
    (fresh : key ∉ entries.map (·.1)) :
    (insertEntry key value entries).Perm ((key, value) :: entries) := by
  induction entries with
  | nil => exact .refl _
  | cons first rest ih =>
    rw [List.map_cons, List.mem_cons, not_or] at fresh
    rw [insertEntry]
    split
    · exact .refl _
    · rename_i notBefore
      split
      · exact ((ih fresh.2).cons first).trans (.swap _ _ rest)
      · rename_i notAfter
        exact absurd (eq_of_not_lt notBefore notAfter) fresh.1

/-- In entries with ascending keys, a key is looked up to the value of its entry. -/
theorem lookup_eq_some_iff {α : Type} {key : String} {value : α} {entries : List (String × α)}
    (ascending : (entries.map (·.1)).Pairwise (· < ·)) :
    entries.lookup key = some value ↔ (key, value) ∈ entries := by
  induction entries with
  | nil => simp
  | cons first rest ih =>
    obtain ⟨firstKey, firstValue⟩ := first
    obtain ⟨after, ascending⟩ := List.pairwise_cons.1 ascending
    rw [List.lookup_cons, List.mem_cons, Prod.mk.injEq]
    by_cases same : key = firstKey
    · subst same
      have absent : (key, value) ∉ rest := by
        intro mem
        exact String.lt_irrefl key (after key (List.mem_map_of_mem (f := (·.1)) mem))
      simp [absent, eq_comm]
    · have differ : (key == firstKey) = false := by simpa using same
      simp only [differ, same, false_and, false_or]
      exact ih ascending

/-- A table from names to values. -/
structure NameTable (α : Type) where
  /-- The entries, one for each key. -/
  entries : List (String × α)
  /-- The keys ascend. -/
  ascending : (entries.map (·.1)).Pairwise (· < ·)

namespace NameTable

variable {α : Type}

instance [DecidableEq α] : DecidableEq (NameTable α) := fun a b =>
  if h : a.entries = b.entries then .isTrue (by cases a; cases b; simp_all)
  else .isFalse fun e => h (congrArg entries e)

/-- The table with no entry. -/
def empty : NameTable α := ⟨[], .nil⟩

instance : Inhabited (NameTable α) := ⟨empty⟩

/-- Give a key a value, in place of the one it has. -/
def insert (t : NameTable α) (key : String) (value : α) : NameTable α :=
  ⟨insertEntry key value t.entries, by
    rw [keys_insertEntry]
    exact pairwise_insertName t.ascending⟩

/-- The table of a list of entries; of two with one key, the later counts. -/
def ofList (entries : List (String × α)) : NameTable α :=
  entries.foldl (fun t e => t.insert e.1 e.2) empty

/-- The value of a key, if the table has one. -/
def find? (t : NameTable α) (key : String) : Option α := t.entries.lookup key

/-- After an insertion the key has its new value, and all other keys have the values they had. -/
theorem find?_insert (t : NameTable α) (key other : String) (value : α) :
    (t.insert key value).find? other = if other = key then some value else t.find? other :=
  lookup_insertEntry key other value t.entries

/-- After insertions one after the other a key has its last new value, or the one it had. -/
theorem find?_foldl_insert (entries : List (String × α)) (t : NameTable α) (key : String) :
    (entries.foldl (fun t e => t.insert e.1 e.2) t).find? key =
      (entries.reverse.lookup key).or (t.find? key) := by
  induction entries generalizing t with
  | nil => rfl
  | cons first rest ih =>
    obtain ⟨firstKey, firstValue⟩ := first
    rw [List.foldl_cons, ih, find?_insert, List.reverse_cons, List.lookup_append, Option.or_assoc]
    by_cases same : key = firstKey
    · simp [same]
    · have differ : (key == firstKey) = false := by simpa using same
      simp [same, differ, List.lookup_cons]

/-- A table made of a list has for each key the value of the last entry with it. -/
theorem find?_ofList (entries : List (String × α)) (key : String) :
    (ofList entries).find? key = entries.reverse.lookup key := by
  rw [ofList, find?_foldl_insert]
  exact Option.or_none

/-- A key has the value of its entry. -/
theorem find?_eq_some_iff (t : NameTable α) (key : String) (value : α) :
    t.find? key = some value ↔ (key, value) ∈ t.entries :=
  lookup_eq_some_iff t.ascending

/-- Entries with new and different keys are added to those of a table. -/
theorem perm_entries_foldl_insert {entries : List (String × α)} (t : NameTable α)
    (nodup : ((t.entries ++ entries).map (·.1)).Nodup) :
    (entries.foldl (fun t e => t.insert e.1 e.2) t).entries.Perm (t.entries ++ entries) := by
  induction entries generalizing t with
  | nil => rw [List.foldl_nil, List.append_nil]
  | cons first rest ih =>
    have fresh : first.1 ∉ t.entries.map (·.1) := by
      intro taken
      rw [List.map_append, List.nodup_append] at nodup
      exact nodup.2.2 first.1 taken first.1 (by simp) rfl
    have step : (t.insert first.1 first.2).entries.Perm (first :: t.entries) :=
      perm_insertEntry fresh
    have grown : ((t.insert first.1 first.2).entries ++ rest).Perm (t.entries ++ first :: rest) :=
      (step.append_right rest).trans List.perm_middle.symm
    exact (ih _ ((grown.map _).nodup_iff.2 nodup)).trans grown

/-- A table of entries with different keys has these entries. -/
theorem perm_entries_ofList {entries : List (String × α)}
    (nodup : (entries.map (·.1)).Nodup) : (ofList entries).entries.Perm entries :=
  perm_entries_foldl_insert empty nodup

/-- Tables with the same entries are equal. -/
theorem eq_of_entries {s t : NameTable α} (same : s.entries = t.entries) : s = t := by
  cases s
  cases t
  rw [mk.injEq]
  exact same

/-- Entries with ascending keys, all after those of a table, are added at the end of it. -/
theorem entries_foldl_insert {entries : List (String × α)} (t : NameTable α)
    (ascending : ((t.entries ++ entries).map (·.1)).Pairwise (· < ·)) :
    (entries.foldl (fun t e => t.insert e.1 e.2) t).entries = t.entries ++ entries := by
  induction entries generalizing t with
  | nil => rw [List.foldl_nil, List.append_nil]
  | cons first rest ih =>
    have step : (t.insert first.1 first.2).entries = t.entries ++ [first] := by
      refine insertEntry_of_forall_lt ?_
      intro entry mem
      rw [List.map_append] at ascending
      exact (List.pairwise_append.1 ascending).2.2 entry.1 (List.mem_map_of_mem mem) first.1
        (by simp)
    rw [List.foldl_cons, ih _ (by simpa [step] using ascending), step, List.append_assoc]
    rfl

/-- The table of the entries of a table is that table. -/
theorem ofList_entries (t : NameTable α) : ofList t.entries = t := by
  refine eq_of_entries ?_
  rw [ofList, entries_foldl_insert empty t.ascending]
  rfl

end NameTable

end Deckwright.Text
