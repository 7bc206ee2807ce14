import Mathlib.Data.List.Sort

/-!
# Ranked lists

Answers are sorted by a rank under which items may tie. Sorting keeps tied items in the order in
which they were found, so whatever holds of earlier and later items in the list that is sorted
holds of tied items in the sorted one. If the items are found in a strict order, the sorted list
is in a strict order too: by rank, and under one rank by that order. Items without repeats have
only one such order, so items may be left out before they are sorted or after.
-/

namespace Deckwright

variable {α : Type} {le : α → α → Bool} {R : α → α → Prop}

/-- Of two tied items of a sorted list the first came first in the list that was sorted. -/
theorem pairwise_mergeSort_of_pairwise
    (trans : ∀ a b c, le a b = true → le b c = true → le a c = true)
    (total : ∀ a b, (le a b || le b a) = true) {items : List α} (ordered : items.Pairwise R) :
    (items.mergeSort le).Pairwise fun a b => le a b = true ∧ (le b a = true → R a b) := by
  -- The items are sorted together with their positions, which settle the ties.
  have sorted := List.pairwise_mergeSort (List.zipIdxLE_trans trans) (List.zipIdxLE_total total)
    items.zipIdx
  have distinct : ((items.zipIdx.mergeSort (List.zipIdxLE le)).map Prod.snd).Nodup := by
    have positions : (items.zipIdx.map Prod.snd).Nodup := by
      rw [List.zipIdx_map_snd]
      exact List.nodup_range'
    exact ((List.mergeSort_perm _ _).map Prod.snd).nodup_iff.2 positions
  rw [← List.mergeSort_zipIdx, List.pairwise_map]
  refine (sorted.and (List.pairwise_map.1 distinct)).imp_of_mem ?_
  rintro ⟨a, i⟩ ⟨b, j⟩ memA memB ⟨ranked, different⟩
  rw [List.mem_mergeSort, List.mk_mem_zipIdx_iff_getElem?] at memA memB
  simp only [List.zipIdxLE] at ranked
  by_cases first : le a b = true
  · refine ⟨first, ?_⟩
    intro tied
    have before : i < j := by
      simp only [first, tied, if_true, decide_eq_true_eq] at ranked
      omega
    obtain ⟨hi, rfl⟩ := List.getElem?_eq_some_iff.1 memA
    obtain ⟨hj, rfl⟩ := List.getElem?_eq_some_iff.1 memB
    exact List.pairwise_iff_getElem.1 ordered i j hi hj before
  · simp [first] at ranked

/-- The first item is to be listed before the second: it ranks before it, and if it also ranks
after it, it stands before it in the list that is sorted. -/
def StablyBefore (le : α → α → Bool) (items : List α) (a b : α) : Prop :=
  le a b = true ∧ (le b a = true → [a, b].Sublist items)

/-- The items of a sorted list stand in the order of their ranks, tied ones as they were found. -/
theorem pairwise_stablyBefore_mergeSort
    (trans : ∀ a b c, le a b = true → le b c = true → le a c = true)
    (total : ∀ a b, (le a b || le b a) = true) (items : List α) :
    (items.mergeSort le).Pairwise (StablyBefore le items) :=
  pairwise_mergeSort_of_pairwise trans total (List.pairwise_iff_forall_sublist.2 id)

/-- Of two items in a list without repeats, only one stands before the other. -/
theorem not_pair_sublist_of_nodup {items : List α} (nodup : items.Nodup) {a b : α}
    (first : [a, b].Sublist items) : ¬[b, a].Sublist items := by
  induction items with
  | nil => simp at first
  | cons item rest ih =>
    obtain ⟨fresh, nodup⟩ := List.nodup_cons.1 nodup
    intro second
    rw [List.cons_sublist_cons', List.singleton_sublist] at first second
    rcases first with first | ⟨rfl, memB⟩ <;> rcases second with second | ⟨rfl, memA⟩
    · exact ih nodup first second
    · exact fresh (first.subset (by simp))
    · exact fresh (second.subset (by simp))
    · exact fresh memA

/-- Items without repeats have one such order only. -/
theorem eq_of_pairwise_stablyBefore {items : List α} (nodup : items.Nodup) {l l' : List α}
    (perm : l.Perm l') (ordered : l.Pairwise (StablyBefore le items))
    (ordered' : l'.Pairwise (StablyBefore le items)) : l = l' := by
  refine List.Perm.eq_of_pairwise ?_ ordered ordered' perm
  intro a b _ _ before after
  exact absurd (after.2 before.1) (not_pair_sublist_of_nodup nodup (before.2 after.1))

/-- Items without repeats may be selected before they are sorted, or after. -/
theorem filter_mergeSort (trans : ∀ a b c, le a b = true → le b c = true → le a c = true)
    (total : ∀ a b, (le a b || le b a) = true) {items : List α} (nodup : items.Nodup)
    (p : α → Bool) : (items.mergeSort le).filter p = (items.filter p).mergeSort le := by
  have selected : ((items.mergeSort le).filter p).Perm ((items.filter p).mergeSort le) :=
    ((List.mergeSort_perm items le).filter p).trans (List.mergeSort_perm (items.filter p) le).symm
  have sortedFirst : ((items.mergeSort le).filter p).Pairwise (StablyBefore le items) :=
    (pairwise_stablyBefore_mergeSort trans total items).sublist List.filter_sublist
  have sortedLast : ((items.filter p).mergeSort le).Pairwise (StablyBefore le items) := by
    refine (pairwise_stablyBefore_mergeSort trans total (items.filter p)).imp ?_
    intro a b before
    exact ⟨before.1, fun tied => (before.2 tied).trans List.filter_sublist⟩
  exact eq_of_pairwise_stablyBefore nodup selected sortedFirst sortedLast

end Deckwright
