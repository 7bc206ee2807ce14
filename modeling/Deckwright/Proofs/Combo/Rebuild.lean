import Deckwright.Proofs.Combo.Index
import Mathlib.Data.List.Induction

/-!
# Indexing a corpus, and indexing again

A corpus lists the cards of its combos once and leaves out what it cannot use, and an index does
the same to the combos that it is given. Listing cards twice is listing them once, and a combo
without cards changes no index, so of what a corpus leaves out only the combos with a blank
identifier make a difference. The combos of an index have been through all this, so an index of
them is filled by the same steps, less those that only counted a combo.
-/

namespace Deckwright

namespace Combo

/-- The identifier of the combo is not blank. -/
def isIdentified (combo : Combo) : Bool := !(Unicode.trimBlanks combo.id.toList).isEmpty

/-- A combo is usable if it is identified and has cards. -/
theorem isUsable_iff {combo : Combo} :
    ComboCorpus.isUsable combo = true ↔ combo.isIdentified = true ∧ combo.cards ≠ [] := by
  rw [ComboCorpus.isUsable, isIdentified, Bool.and_eq_true, Bool.not_eq_true' combo.cards.isEmpty,
    List.isEmpty_eq_false_iff]

end Combo

namespace ComboCorpus

/-- A combo of a corpus is usable, and lists each card once. -/
theorem usable_of_mem_ofList {combos : List Combo} {combo : Combo}
    (mem : combo ∈ (ofList combos).combos) :
    isUsable combo = true ∧ combo.distinctCards = combo := by
  obtain ⟨listed, usable⟩ := List.mem_filter.1 mem
  obtain ⟨raw, -, rfl⟩ := List.mem_map.1 listed
  exact ⟨usable, raw.distinctCards_distinctCards⟩

/-- The corpus of the combos of a corpus is that corpus. -/
theorem ofList_combos_ofList (combos : List Combo) :
    ofList (ofList combos).combos = ofList combos := by
  have once : (ofList combos).combos.map Combo.distinctCards = (ofList combos).combos :=
    (List.map_congr_left fun _ mem => (usable_of_mem_ofList mem).2).trans (List.map_id _)
  have all : (ofList combos).combos.filter isUsable = (ofList combos).combos :=
    List.filter_eq_self.2 fun _ mem => (usable_of_mem_ofList mem).1
  rw [ofList, once, all]

end ComboCorpus

namespace ComboIndex

/-- A combo may have its cards listed once before it is added. -/
theorem insert_distinctCards (index : ComboIndex) (combo : Combo) :
    index.insert combo.distinctCards = index.insert combo := by
  rw [insert, insert, combo.distinctCards_distinctCards]

/-- To add the usable combos of a list, with their cards listed once, is to add the identified
ones. -/
theorem foldl_insert_usable (combos : List Combo) (index : ComboIndex) :
    ((combos.map Combo.distinctCards).filter ComboCorpus.isUsable).foldl insert index =
      (combos.filter Combo.isIdentified).foldl insert index := by
  induction combos generalizing index with
  | nil => rfl
  | cons combo rest ih =>
    have usable_iff : ComboCorpus.isUsable combo.distinctCards = true ↔
        combo.isIdentified = true ∧ combo.distinctCards.cards ≠ [] := Combo.isUsable_iff
    rw [List.map_cons, List.filter_cons, List.filter_cons]
    by_cases identified : combo.isIdentified = true
    · by_cases bare : combo.distinctCards.cards = []
      · have unusable : ¬ComboCorpus.isUsable combo.distinctCards = true :=
          fun usable => (usable_iff.1 usable).2 bare
        rw [if_neg unusable, if_pos identified, List.foldl_cons, insert_of_no_cards index bare, ih]
      · rw [if_pos (usable_iff.2 ⟨identified, bare⟩), if_pos identified, List.foldl_cons,
          List.foldl_cons, insert_distinctCards, ih]
    · have unusable : ¬ComboCorpus.isUsable combo.distinctCards = true :=
        fun usable => identified (usable_iff.1 usable).1
      rw [if_neg unusable, if_neg identified, ih]

/-- The index of the corpus of a list is the index of the identified combos in it. -/
theorem ofCorpus_ofList (combos : List Combo) :
    ofCorpus (ComboCorpus.ofList combos) = ofList (combos.filter Combo.isIdentified) :=
  foldl_insert_usable combos empty

/-! ## Indexing again -/

/-- A last combo is added to the index of those before. -/
theorem ofList_concat (combos : List Combo) (combo : Combo) :
    ofList (combos ++ [combo]) = (ofList combos).insert combo := by
  rw [ofList, List.foldl_concat, ofList]

/-- The index of the same combos, with none left out. -/
def withNoneSkipped (index : ComboIndex) : ComboIndex := { index with duplicatesSkipped := 0 }

/-- A combo that is added shows at the end of the combos, or only in the number of those left out;
the same combo is then added to the index with none left out, or none is. -/
theorem withNoneSkipped_insert (index : ComboIndex) (combo : Combo) :
    ∃ added : List Combo,
      (index.insert combo).combos.toList = index.combos.toList ++ added ∧
      (index.insert combo).withNoneSkipped = added.foldl insert index.withNoneSkipped := by
  by_cases bare : combo.distinctCards.cards = []
  · refine ⟨[], ?_, ?_⟩ <;> rw [insert_of_no_cards index bare]
    · rw [List.append_nil]
    · rfl
  · by_cases taken : combo.id ∈ index.byId
    · refine ⟨[], ?_, ?_⟩ <;> rw [insert_of_taken index bare taken]
      · rw [List.append_nil]
      · rfl
    · refine ⟨[combo.distinctCards], ?_, ?_⟩ <;> rw [insert_of_fresh index bare taken]
      · rw [Array.toList_push]
      · have fresh : combo.id ∉ index.withNoneSkipped.byId := taken
        rw [List.foldl_cons, List.foldl_nil, insert_distinctCards,
          insert_of_fresh index.withNoneSkipped bare fresh]
        rfl

/-- The index of the combos of an index is that index, with none left out. -/
theorem ofList_combos (combos : List Combo) :
    ofList (ofList combos).combos.toList = (ofList combos).withNoneSkipped := by
  induction combos using List.reverseRecOn with
  | nil => rfl
  | append_singleton combos combo ih =>
    obtain ⟨added, later, same⟩ := withNoneSkipped_insert (ofList combos) combo
    rw [ofList_concat, later, same, ← ih, ofList, List.foldl_append]
    rfl

/-- The index of the corpus of any combos is the index of those whose identifiers are not blank,
with the same tables and the same number left out. A corpus has such combos only, each with cards,
and the corpus of its combos is the same corpus. The index of the combos of an index is the same
index, with none left out. -/
theorem corpus_index_agrees_and_rebuilds (combos : List Combo) :
    let corpus := ComboCorpus.ofList combos
    let index := ofList combos
    ofCorpus corpus = ofList (combos.filter Combo.isIdentified) ∧
    ComboCorpus.ofList corpus.combos = corpus ∧
    (∀ combo ∈ corpus.combos,
      Unicode.trimBlanks combo.id.toList ≠ [] ∧ combo.cards ≠ []) ∧
    ofList index.combos.toList = { index with duplicatesSkipped := 0 } := by
  intro corpus index
  refine ⟨ofCorpus_ofList combos, ComboCorpus.ofList_combos_ofList combos, ?_,
    ofList_combos combos⟩
  intro combo mem
  obtain ⟨identified, listed⟩ := Combo.isUsable_iff.1 (ComboCorpus.usable_of_mem_ofList mem).1
  rw [Combo.isIdentified, Bool.not_eq_true', List.isEmpty_eq_false_iff] at identified
  exact ⟨identified, listed⟩

end ComboIndex

end Deckwright
