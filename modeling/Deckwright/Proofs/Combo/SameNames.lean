import Deckwright.Finder
import Deckwright.Proofs.Combo.Scan
import Mathlib.Data.Finset.Dedup
import Mathlib.Data.Finset.Erase

/-!
# Queries that name the same cards

A query is a list of names, but only the set of their normal forms counts, and blank names not at
all. An index collects the positions listed under each name, sorts them and drops repeats, and a
sorted list without repeats is determined by its members; a combo is compared by asking which of
its cards are in the set. So neither the order of the query nor repeats, blanks or spellings show
in any answer, whatever the index holds.
-/

namespace Deckwright

namespace CardNames

/-- The set that a list of names stands for: their normal forms, without the blank one. -/
def nameSet (names : List String) : Finset String := (names.map normalizeName).toFinset.erase ""

/-- The names that an index is asked for are those of the set. -/
theorem mem_keys_iff_mem_nameSet {names : List String} {key : String} :
    key ∈ (ofList names).keys ↔ key ∈ nameSet names := by
  rw [ofList, List.mem_eraseDups, List.mem_filter, nameSet, Finset.mem_erase, List.mem_toFinset,
    and_comm]
  simp

/-- Names may be spelled in another way, followed by blank ones and by repeats, and then be put in
any order. -/
theorem nameSet_eq_of_perm {names names' more : List String} {respell : String → String}
    (respelled : ∀ name ∈ names, normalizeName (respell name) = normalizeName name)
    (idle : ∀ name ∈ more,
      normalizeName name = "" ∨ normalizeName name ∈ names.map normalizeName)
    (shuffled : names'.Perm (names.map respell ++ more)) : nameSet names' = nameSet names := by
  have spelled : (names.map respell).map normalizeName = names.map normalizeName := by
    rw [List.map_map]
    exact List.map_congr_left respelled
  ext key
  rw [nameSet, nameSet, Finset.mem_erase, Finset.mem_erase, List.mem_toFinset, List.mem_toFinset,
    (shuffled.map normalizeName).mem_iff, List.map_append, List.mem_append, spelled]
  refine and_congr_right fun shown => or_iff_left_of_imp fun added => ?_
  obtain ⟨name, mem, rfl⟩ := List.mem_map.1 added
  exact (idle name mem).resolve_left shown

variable {names names' : List String}

/-- A card is among the names of one list if it is among those of the other. -/
theorem contains_congr (same : nameSet names = nameSet names') :
    (ofList names).contains = (ofList names').contains := by
  funext card
  rw [contains, contains, Bool.eq_iff_iff, List.contains_iff_mem, List.contains_iff_mem,
    mem_keys_iff_mem_nameSet, mem_keys_iff_mem_nameSet, same]

/-- A combo is compared in the same way with lists that name the same cards. -/
theorem compare_congr (same : nameSet names = nameSet names') :
    (ofList names).compare = (ofList names').compare := by
  funext combo
  rw [compare, compare, contains_congr same]

end CardNames

namespace ComboIndex

open CardNames (nameSet)

variable {names names' : List String}

/-- Lists that name the same cards have the same candidates in the same order. -/
theorem candidates_congr (index : ComboIndex) (same : nameSet names = nameSet names') :
    index.candidates (.ofList names) = index.candidates (.ofList names') := by
  -- Two strictly ascending lists are equal if they have the same members.
  refine (index.pairwise_candidates _).eq_of_mem_iff (index.pairwise_candidates _) ?_
  intro position
  rw [mem_candidates, mem_candidates]
  simp only [CardNames.mem_keys_iff_mem_nameSet, same]

/-- Lists that name the same cards are compared with the same combos, in the same order. -/
theorem comparisons_congr (index : ComboIndex) (same : nameSet names = nameSet names') :
    index.comparisons (.ofList names) = index.comparisons (.ofList names') := by
  rw [comparisons, comparisons, index.candidates_congr same, CardNames.compare_congr same]

/-- Lists that name the same cards complete the same combos. -/
theorem findCombos_congr (index : ComboIndex) (same : nameSet names = nameSet names')
    (maxMissing limit : Nat) :
    index.findCombos names maxMissing limit = index.findCombos names' maxMissing limit := by
  rw [findCombos, findCombos, index.comparisons_congr same]

/-- Lists that name the same cards leave the same combos incomplete, and lack the same cards. -/
theorem findMissingPieces_congr (index : ComboIndex) (same : nameSet names = nameSet names')
    (maxMissing minPresent : Nat) :
    index.findMissingPieces names maxMissing minPresent =
      index.findMissingPieces names' maxMissing minPresent := by
  rw [findMissingPieces, findMissingPieces, index.comparisons_congr same]

end ComboIndex

namespace ComboMatcher

open CardNames (nameSet)

/-- A matcher with any index and any settings gives lists that name the same cards the same
answers: the combos found, the incomplete ones with their missing cards, their order and the
number of combos examined, and the combos detected. -/
theorem answers_depend_on_nameSet (matcher : ComboMatcher) {names names' : List String}
    (same : nameSet names = nameSet names') :
    (∀ maxMissing limit : Nat,
      matcher.index.findCombos names maxMissing limit =
        matcher.index.findCombos names' maxMissing limit) ∧
    (∀ maxMissing minPresent : Nat,
      matcher.index.findMissingPieces names maxMissing minPresent =
        matcher.index.findMissingPieces names' maxMissing minPresent) ∧
    (∀ maxMissing : Nat, matcher.detect names maxMissing = matcher.detect names' maxMissing) := by
  refine ⟨matcher.index.findCombos_congr same, matcher.index.findMissingPieces_congr same, ?_⟩
  intro maxMissing
  rw [detect, detect, matcher.index.findCombos_congr same,
    matcher.index.findMissingPieces_congr same]

/-- Two names in another order, one of them respelled and repeated, with a blank one between them,
find the same combo. -/
theorem answers_depend_on_nameSet_of_respelled :
    let combo : Combo :=
      { id := "C1", cards := ["Ashnod's Altar", "Nim Deathmantle", "Grave Titan"] }
    let matcher : ComboMatcher := ⟨.ofList [combo], {}⟩
    let names := ["Nim Deathmantle", "Ashnod's Altar"]
    let names' := ["ASHNOD'S ALTAR ", " ", "Nim Deathmantle", "\tAshnod's altar"]
    nameSet names = nameSet names' ∧
      matcher.index.findCombos names 1 5 = [combo] ∧
      matcher.index.findCombos names' 1 5 = [combo] ∧
      matcher.index.findMissingPieces names 1 2 = matcher.index.findMissingPieces names' 1 2 ∧
      matcher.detect names 1 = matcher.detect names' 1 := by
  intro combo matcher names names'
  let respell (name : String) : String :=
    if name = "Ashnod's Altar" then "ASHNOD'S ALTAR " else name
  let more := [" ", "\tAshnod's altar"]
  have respelled : ∀ name ∈ names, normalizeName (respell name) = normalizeName name := by
    decide +kernel
  have idle : ∀ name ∈ more,
      normalizeName name = "" ∨ normalizeName name ∈ names.map normalizeName := by
    decide +kernel
  have shuffled : names'.Perm (names.map respell ++ more) := by
    decide +kernel
  have same : nameSet names = nameSet names' :=
    (CardNames.nameSet_eq_of_perm respelled idle shuffled).symm
  have represents := ComboIndex.represents_ofList [combo]
  have held : (ComboIndex.ofList [combo]).combos.toList = [combo] :=
    represents.combos_eq.trans (by decide)
  have found : matcher.index.findCombos names 1 5 = [combo] := by
    rw [represents.findCombos_eq, held]
    decide +kernel
  obtain ⟨combos, pieces, detected⟩ := answers_depend_on_nameSet matcher same
  exact ⟨same, found, combos 1 5 ▸ found, pieces 1 2, detected 1⟩

end ComboMatcher

end Deckwright
