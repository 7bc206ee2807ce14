import Mathlib.Data.List.Nodup

/-!
# First items of each key

Cards are found under several names and by several searches, and the first find counts. Of a list
of items with keys, `firstPerKey` keeps the first item of each key. What is kept depends on the
keys alone, so a test that tells no items of one key apart may be made before or after.
-/

namespace Deckwright

variable {α κ : Type} [DecidableEq κ] {key : α → κ}

/-- The first item of each key, in order. -/
def firstPerKey (key : α → κ) : List α → List α
  | [] => []
  | first :: rest => first :: (firstPerKey key rest).filter fun later => key later ≠ key first

/-- The first items are some of the items, in their order. -/
theorem firstPerKey_sublist (key : α → κ) (items : List α) :
    (firstPerKey key items).Sublist items := by
  induction items with
  | nil => exact .refl _
  | cons first rest ih => exact (List.filter_sublist.trans ih).cons_cons first

/-- No key occurs twice among the first items. -/
theorem nodup_map_firstPerKey (key : α → κ) (items : List α) :
    ((firstPerKey key items).map key).Nodup := by
  induction items with
  | nil => exact .nil
  | cons first rest ih =>
    rw [firstPerKey, List.map_cons, List.nodup_cons]
    refine ⟨?_, ih.sublist (List.filter_sublist.map key)⟩
    intro repeated
    obtain ⟨later, kept, same⟩ := List.mem_map.1 repeated
    exact of_decide_eq_true (List.mem_filter.1 kept).2 same

/-- Each key that occurs has a first item. -/
theorem mem_map_firstPerKey {items : List α} {k : κ} :
    k ∈ (firstPerKey key items).map key ↔ k ∈ items.map key := by
  induction items with
  | nil => rfl
  | cons first rest ih =>
    rw [firstPerKey, List.map_cons, List.map_cons, List.mem_cons, List.mem_cons, ← ih]
    by_cases same : k = key first
    · simp [same]
    · have apart : k ∈ ((firstPerKey key rest).filter fun later => key later ≠ key first).map key ↔
          k ∈ (firstPerKey key rest).map key := by
        simp only [List.mem_map, List.mem_filter, decide_eq_true_eq]
        constructor
        · rintro ⟨later, ⟨kept, _⟩, named⟩
          exact ⟨later, kept, named⟩
        · rintro ⟨later, kept, named⟩
          exact ⟨later, ⟨kept, named ▸ same⟩, named⟩
      simp only [same, false_or, apart]

/-- Items with different keys are all the first of their keys. -/
theorem firstPerKey_eq_self {items : List α} (nodup : (items.map key).Nodup) :
    firstPerKey key items = items := by
  induction items with
  | nil => rfl
  | cons first rest ih =>
    rw [List.map_cons, List.nodup_cons] at nodup
    rw [firstPerKey, ih nodup.2, List.filter_eq_self.2]
    intro later mem
    exact decide_eq_true fun same => nodup.1 (same ▸ List.mem_map_of_mem mem)

/-- A key is found at the first item that has it. -/
theorem find?_firstPerKey (items : List α) (k : κ) :
    (firstPerKey key items).find? (fun item => key item = k) =
      items.find? fun item => key item = k := by
  induction items with
  | nil => rfl
  | cons first rest ih =>
    rw [firstPerKey, List.find?_cons, List.find?_cons, List.find?_filter]
    by_cases same : key first = k
    · simp [same]
    · have absorbed (later : α) : (key later ≠ key first ∧ key later = k) ↔ key later = k := by
        constructor
        · exact fun found => found.2
        · exact fun found => ⟨fun taken => same (taken ▸ found), found⟩
      simp only [same, decide_false, decide_eq_true_eq, absorbed]
      exact ih

/-- Of a list after another, the items count whose keys the other has not. -/
theorem firstPerKey_append (left right : List α) :
    firstPerKey key (left ++ right) =
      firstPerKey key left ++
        (firstPerKey key right).filter fun item => key item ∉ left.map key := by
  induction left with
  | nil => simp [firstPerKey]
  | cons first rest ih =>
    rw [List.cons_append, firstPerKey, ih, List.filter_append, List.filter_filter, firstPerKey,
      List.cons_append]
    simp only [List.map_cons, List.mem_cons, not_or, Bool.decide_and]

/-- Items of a list whose keys are those of earlier items are not the first of their keys. -/
theorem firstPerKey_append_append {left middle : List α} (known : middle.map key ⊆ left.map key)
    (right : List α) :
    firstPerKey key (left ++ middle ++ right) = firstPerKey key (left ++ right) := by
  have none : ((firstPerKey key middle).filter fun item => key item ∉ left.map key) = [] := by
    refine List.filter_eq_nil_iff.2 ?_
    intro item kept
    have mem : item ∈ middle := (firstPerKey_sublist key middle).subset kept
    simpa using known (List.mem_map_of_mem mem)
  have same (k : κ) : k ∈ (left ++ middle).map key ↔ k ∈ left.map key := by
    rw [List.map_append, List.mem_append]
    exact ⟨fun either => either.elim id fun mem => known mem, .inl⟩
  rw [firstPerKey_append (left ++ middle), firstPerKey_append left, none, List.append_nil,
    firstPerKey_append left]
  simp only [same]

/-- A last item is the first of its key unless an earlier one has the key. -/
theorem firstPerKey_concat (items : List α) (item : α) :
    firstPerKey key (items ++ [item]) =
      if key item ∈ items.map key then firstPerKey key items
      else firstPerKey key items ++ [item] := by
  rw [firstPerKey_append, firstPerKey, firstPerKey, List.filter_nil]
  by_cases repeated : key item ∈ items.map key
  · rw [if_pos repeated, List.filter_cons_of_neg (by simpa using repeated), List.filter_nil,
      List.append_nil]
  · rw [if_neg repeated, List.filter_cons_of_pos (by simpa using repeated), List.filter_nil]

/-- A test that tells no items of one key apart may be made before the first items are taken, or
after. -/
theorem firstPerKey_filter {items : List α} {p : α → Bool}
    (determined : ∀ a ∈ items, ∀ b ∈ items, key a = key b → p a = p b) :
    firstPerKey key (items.filter p) = (firstPerKey key items).filter p := by
  induction items with
  | nil => rfl
  | cons first rest ih =>
    have later := ih fun a memA b memB =>
      determined a (List.mem_cons_of_mem first memA) b (List.mem_cons_of_mem first memB)
    rw [firstPerKey]
    by_cases pass : p first = true
    · rw [List.filter_cons_of_pos pass, List.filter_cons_of_pos pass, firstPerKey, later,
        List.filter_filter, List.filter_filter]
      simp only [Bool.and_comm]
    · rw [List.filter_cons_of_neg pass, List.filter_cons_of_neg pass, later, List.filter_filter]
      refine List.filter_congr ?_
      intro item kept
      -- An item that passes has another key than the first one, which does not.
      have mem : item ∈ rest := (firstPerKey_sublist key rest).subset kept
      have same := determined item (List.mem_cons_of_mem first mem) first List.mem_cons_self
      cases passes : p item with
      | false => rfl
      | true =>
        have apart : key item ≠ key first := fun named => pass (same named ▸ passes)
        simp [apart]

/-- Taking the first items commutes with a change of the items that keeps their keys. -/
theorem firstPerKey_map {f : α → α} (keeps : ∀ a, key (f a) = key a) (items : List α) :
    firstPerKey key (items.map f) = (firstPerKey key items).map f := by
  induction items with
  | nil => rfl
  | cons first rest ih =>
    rw [List.map_cons, firstPerKey, ih, firstPerKey, List.map_cons, List.filter_map]
    simp only [Function.comp_def, keeps]

end Deckwright
