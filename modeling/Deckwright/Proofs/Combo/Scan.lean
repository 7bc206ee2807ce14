import Deckwright.Combo.Matcher
import Deckwright.Proofs.Combo.Index
import Deckwright.Proofs.Ranking

/-!
# Matching without an index

A plain scan looks at every combo of an index and compares the normal forms of its cards with
those of the names, blank names and repeats included. The index reaches the same combos in the
same order, because it lists each position under the cards of its combo, and no combo of an
index has a blank card. What `findCombos` and `findMissingPieces` answer is then read off the
scan.
-/

namespace Deckwright

namespace Combo

/-- The cards of the combo that are among some names, in order. -/
def cardsAmong (combo : Combo) (names : List String) : List String :=
  combo.cards.filter fun card => normalizeName card ∈ names.map normalizeName

/-- The cards of the combo that are not among some names, in order. -/
def cardsBeyond (combo : Combo) (names : List String) : List String :=
  combo.cards.filter fun card => normalizeName card ∉ names.map normalizeName

/-- The combo with the number of its cards among some names and the cards beyond them. -/
def against (combo : Combo) (names : List String) : ComboMatch :=
  ⟨combo, combo.cardsBeyond names, (combo.cardsAmong names).length⟩

/-- Each card is among the names or not. -/
theorem length_cardsAmong_add_length_cardsBeyond (combo : Combo) (names : List String) :
    (combo.cardsAmong names).length + (combo.cardsBeyond names).length = combo.cards.length := by
  simp only [cardsAmong, cardsBeyond, decide_not]
  exact (List.length_eq_length_filter_add _).symm

/-- A card is among the names if one of the normal forms is shared. -/
theorem cardsAmong_ne_nil_iff (combo : Combo) (names : List String) :
    combo.cardsAmong names ≠ [] ↔ ∃ key ∈ combo.normalizedCards, key ∈ names.map normalizeName := by
  simp [cardsAmong, normalizedCards, List.filter_eq_nil_iff]

/-- No card is beyond the names if all normal forms are shared. -/
theorem cardsBeyond_eq_nil_iff (combo : Combo) (names : List String) :
    combo.cardsBeyond names = [] ↔
      ∀ key ∈ combo.normalizedCards, key ∈ names.map normalizeName := by
  simp [cardsBeyond, normalizedCards, List.filter_eq_nil_iff]

/-- A combo that can be indexed and has no card beyond the names has one among them. -/
theorem Indexable.cardsAmong_ne_nil {combo : Combo} (indexable : combo.Indexable)
    {names : List String} (complete : combo.cardsBeyond names = []) :
    combo.cardsAmong names ≠ [] := by
  have all := combo.length_cardsAmong_add_length_cardsBeyond names
  have some := List.length_pos_iff.2 indexable.cards_ne_nil
  rw [complete, List.length_nil] at all
  exact List.length_pos_iff.1 (by omega)

end Combo

namespace CardNames

/-- The names of a list are its normal forms that are not blank. -/
theorem mem_keys_ofList {names : List String} {key : String} :
    key ∈ (ofList names).keys ↔ key ∈ names.map normalizeName ∧ key ≠ "" := by
  rw [ofList, List.mem_eraseDups, List.mem_filter]
  simp

/-- A combo that can be indexed is compared by the normal forms of its cards alone. -/
theorem compare_ofList {combo : Combo} (indexable : combo.Indexable) (names : List String) :
    (ofList names).compare combo = combo.against names := by
  have among : ∀ card ∈ combo.cards, (ofList names).contains card =
      decide (normalizeName card ∈ names.map normalizeName) := by
    intro card mem
    have shown := indexable.not_blank _ (List.mem_map_of_mem mem)
    rw [contains, Bool.eq_iff_iff, List.contains_iff_mem, mem_keys_ofList, decide_eq_true_eq]
    exact ⟨fun shared => shared.1, fun shared => ⟨shared, shown⟩⟩
  have beyond : ∀ card ∈ combo.cards, (!(ofList names).contains card) =
      decide (normalizeName card ∉ names.map normalizeName) := by
    intro card mem
    rw [among card mem, decide_not]
  rw [compare, List.countP_eq_length_filter, List.filter_congr among, List.filter_congr beyond]
  rfl

end CardNames

namespace ComboIndex

variable {index : ComboIndex}

/-- What each combo that has a card among some names has and lacks of them, in the order of the
index. -/
def scan (index : ComboIndex) (names : List String) : List ComboMatch :=
  (index.combos.toList.filter fun combo => combo.cardsAmong names ≠ []).map fun combo =>
    combo.against names

/-- A position is a candidate if its combo has a card among the names. -/
theorem WellFormed.mem_candidates_iff (wellFormed : index.WellFormed) (names : List String)
    (position : Nat) :
    position ∈ index.candidates (.ofList names) ↔
      ∃ combo : Combo, index.combos[position]? = some combo ∧ combo.cardsAmong names ≠ [] := by
  rw [mem_candidates]
  constructor
  · rintro ⟨key, named, posted⟩
    obtain ⟨combo, held, card⟩ := (wellFormed.mem_postings_iff key position).1 posted
    have shared := (CardNames.mem_keys_ofList.1 named).1
    exact ⟨combo, held, (combo.cardsAmong_ne_nil_iff names).2 ⟨key, card, shared⟩⟩
  · rintro ⟨combo, held, among⟩
    obtain ⟨key, card, shared⟩ := (combo.cardsAmong_ne_nil_iff names).1 among
    have indexable := wellFormed.indexable combo (mem_combos_iff.2 ⟨position, held⟩)
    exact ⟨key, CardNames.mem_keys_ofList.2 ⟨shared, indexable.not_blank key card⟩,
      (wellFormed.mem_postings_iff key position).2 ⟨combo, held, card⟩⟩

/-- The wanted combos of an index with their positions, in order. -/
def placed (index : ComboIndex) (wanted : Combo → Bool) : List (Combo × Nat) :=
  index.combos.toList.zipIdx.filter fun entry => wanted entry.1

/-- A wanted combo is placed where it stands. -/
theorem mem_placed {wanted : Combo → Bool} {combo : Combo} {position : Nat} :
    (combo, position) ∈ index.placed wanted ↔
      index.combos[position]? = some combo ∧ wanted combo = true := by
  rw [placed, List.mem_filter, List.mk_mem_zipIdx_iff_getElem?, Array.getElem?_toList]

/-- The positions of the wanted combos ascend. -/
theorem pairwise_positions_placed (index : ComboIndex) (wanted : Combo → Bool) :
    ((index.placed wanted).map Prod.snd).Pairwise (· < ·) := by
  have all : (index.combos.toList.zipIdx.map Prod.snd).Pairwise (· < ·) := by
    rw [List.zipIdx_map_snd]
    exact List.pairwise_lt_range'
  exact all.sublist (List.filter_sublist.map _)

/-- Without their positions, the wanted combos are those of the index that are wanted. -/
theorem map_fst_placed (index : ComboIndex) (wanted : Combo → Bool) :
    (index.placed wanted).map Prod.fst = index.combos.toList.filter wanted := by
  conv_rhs => rw [← List.zipIdx_map_fst 0 index.combos.toList, List.filter_map]
  rfl

/-- The combos at ascending positions, when these are the positions of the wanted ones, are the
wanted ones in order. -/
theorem combosAt_eq_filter {positions : List Nat} {wanted : Combo → Bool}
    (ascend : positions.Pairwise (· < ·))
    (mem_iff : ∀ position, position ∈ positions ↔
      ∃ combo : Combo, index.combos[position]? = some combo ∧ wanted combo = true) :
    index.combosAt positions = index.combos.toList.filter wanted := by
  -- Two lists of ascending positions are equal if they have the same members.
  have same : positions = (index.placed wanted).map Prod.snd := by
    refine ascend.eq_of_mem_iff (index.pairwise_positions_placed wanted) ?_
    intro position
    rw [mem_iff, List.mem_map]
    constructor
    · rintro ⟨combo, held⟩
      exact ⟨(combo, position), mem_placed.2 held, rfl⟩
    · rintro ⟨⟨combo, place⟩, mem, rfl⟩
      exact ⟨combo, mem_placed.1 mem⟩
  have found : ∀ entry ∈ index.placed wanted, index.combos[entry.2]? = some entry.1 :=
    fun _ mem => (mem_placed.1 mem).1
  calc
    index.combosAt positions =
        (index.placed wanted).filterMap fun entry => index.combos[entry.2]? := by
      rw [combosAt, same, List.filterMap_map]
      rfl
    _ = (index.placed wanted).map Prod.fst := by
      rw [List.filterMap_congr found, List.filterMap_eq_map']
    _ = index.combos.toList.filter wanted := index.map_fst_placed wanted

/-- The index compares the combos that a scan compares, in the same order. -/
theorem WellFormed.comparisons_eq_scan (wellFormed : index.WellFormed) (names : List String) :
    index.comparisons (.ofList names) = index.scan names := by
  have reached : index.combosAt (index.candidates (.ofList names)) =
      index.combos.toList.filter fun combo => combo.cardsAmong names ≠ [] := by
    refine combosAt_eq_filter (index.pairwise_candidates _) ?_
    intro position
    rw [wellFormed.mem_candidates_iff]
    simp only [decide_eq_true_eq]
  rw [comparisons, reached, scan]
  refine List.map_congr_left ?_
  intro combo mem
  exact CardNames.compare_ofList (wellFormed.indexable combo (List.mem_of_mem_filter mem)) names

/-! ## Complete and nearly complete combos -/

/-- The combos found are the first ones of which a card is given and few enough are not. -/
theorem WellFormed.findCombos_eq (wellFormed : index.WellFormed) (names : List String)
    (maxMissing limit : Nat) :
    index.findCombos names maxMissing limit =
      (index.combos.toList.filter fun combo =>
        combo.cardsAmong names ≠ [] ∧ (combo.cardsBeyond names).length ≤ maxMissing).take
          limit := by
  have forget : (ComboMatch.combo ∘ fun combo : Combo => combo.against names) = id := rfl
  rw [findCombos, wellFormed.comparisons_eq_scan, scan, List.filter_map, List.filter_filter,
    ← List.map_take, List.map_map, forget, List.map_id]
  refine congrArg (List.take limit) (List.filter_congr ?_)
  intro combo _
  rw [Bool.and_comm, Bool.decide_and]
  rfl

/-- The incomplete combos reported are those of the scan, sorted by rank. -/
theorem WellFormed.findMissingPieces_eq (wellFormed : index.WellFormed) (names : List String)
    (maxMissing minPresent : Nat) :
    index.findMissingPieces names maxMissing minPresent =
      ⟨((index.scan names).filter fun m => !m.isComplete && m.missing.length ≤ maxMissing
          && minPresent ≤ m.present).mergeSort ComboMatch.ranksBefore,
        (index.scan names).length⟩ := by
  rw [findMissingPieces, wellFormed.comparisons_eq_scan]

/-- The combos with a card among some names, enough of them among the names, and at least one but
few enough beyond them. -/
def incomplete (index : ComboIndex) (names : List String) (maxMissing minPresent : Nat) :
    List Combo :=
  index.combos.toList.filter fun combo =>
    1 ≤ (combo.cardsAmong names).length ∧ minPresent ≤ (combo.cardsAmong names).length ∧
      0 < (combo.cardsBeyond names).length ∧ (combo.cardsBeyond names).length ≤ maxMissing

/-- The first comparison is listed before the second: fewer cards are missing, or as many and
more are present, or as many of both and its combo comes first in the index. -/
def Outranks (index : ComboIndex) (a b : ComboMatch) : Prop :=
  a.missing.length < b.missing.length ∨
    a.missing.length = b.missing.length ∧
      (b.present < a.present ∨
        b.present = a.present ∧
          index.combos.toList.idxOf a.combo < index.combos.toList.idxOf b.combo)

/-- The part of a scan that is reported is the comparison of each incomplete combo. -/
theorem filter_scan_eq_map_incomplete (index : ComboIndex) (names : List String)
    (maxMissing minPresent : Nat) :
    ((index.scan names).filter fun m =>
        !m.isComplete && m.missing.length ≤ maxMissing && minPresent ≤ m.present) =
      (index.incomplete names maxMissing minPresent).map fun combo => combo.against names := by
  rw [scan, List.filter_map, List.filter_filter, incomplete]
  refine congrArg (List.map _) (List.filter_congr ?_)
  intro combo _
  rw [Bool.eq_iff_iff]
  simp only [Function.comp_apply, Combo.against, ComboMatch.isComplete, Bool.and_eq_true,
    Bool.not_eq_true', List.isEmpty_eq_false_iff, decide_eq_true_eq, ← List.length_pos_iff]
  omega

/-- No combo of an index is held twice. -/
theorem WellFormed.nodup_combos (wellFormed : index.WellFormed) : index.combos.toList.Nodup :=
  wellFormed.nodup_ids.of_map Combo.id

/-- The combos stand in the order of their positions. -/
theorem WellFormed.pairwise_idxOf (wellFormed : index.WellFormed) :
    index.combos.toList.Pairwise fun a b =>
      index.combos.toList.idxOf a < index.combos.toList.idxOf b := by
  rw [List.pairwise_iff_getElem]
  intro i j hi hj before
  rwa [wellFormed.nodup_combos.idxOf_getElem, wellFormed.nodup_combos.idxOf_getElem]

/-- The combos reported are the incomplete ones, each with what is missing. -/
theorem WellFormed.perm_findMissingPieces (wellFormed : index.WellFormed) (names : List String)
    (maxMissing minPresent : Nat) :
    (index.findMissingPieces names maxMissing minPresent).results.Perm
      ((index.incomplete names maxMissing minPresent).map fun combo => combo.against names) := by
  rw [wellFormed.findMissingPieces_eq, ← filter_scan_eq_map_incomplete]
  exact List.mergeSort_perm _ _

/-- A combo is reported if it is incomplete, and then with what is missing. -/
theorem WellFormed.mem_findMissingPieces_iff (wellFormed : index.WellFormed)
    (names : List String) (maxMissing minPresent : Nat) (m : ComboMatch) :
    m ∈ (index.findMissingPieces names maxMissing minPresent).results ↔
      ∃ combo ∈ index.incomplete names maxMissing minPresent, combo.against names = m := by
  rw [(wellFormed.perm_findMissingPieces names maxMissing minPresent).mem_iff, List.mem_map]

/-- No combo is reported twice. -/
theorem WellFormed.nodup_ids_findMissingPieces (wellFormed : index.WellFormed)
    (names : List String) (maxMissing minPresent : Nat) :
    ((index.findMissingPieces names maxMissing minPresent).results.map fun m =>
      m.combo.id).Nodup := by
  have reported := wellFormed.perm_findMissingPieces names maxMissing minPresent
  rw [(reported.map _).nodup_iff, List.map_map]
  exact wellFormed.nodup_ids.sublist (List.filter_sublist.map Combo.id)

/-- No combo is found twice. -/
theorem WellFormed.nodup_ids_findCombos (wellFormed : index.WellFormed) (names : List String)
    (maxMissing limit : Nat) :
    ((index.findCombos names maxMissing limit).map Combo.id).Nodup := by
  rw [wellFormed.findCombos_eq]
  exact wellFormed.nodup_ids.sublist (((List.take_sublist _ _).trans List.filter_sublist).map _)

/-- The combos reported are strictly ordered by rank. -/
theorem WellFormed.pairwise_findMissingPieces (wellFormed : index.WellFormed)
    (names : List String) (maxMissing minPresent : Nat) :
    (index.findMissingPieces names maxMissing minPresent).results.Pairwise index.Outranks := by
  have placed : ((index.incomplete names maxMissing minPresent).map fun combo =>
      combo.against names).Pairwise fun a b =>
        index.combos.toList.idxOf a.combo < index.combos.toList.idxOf b.combo := by
    rw [List.pairwise_map]
    exact wellFormed.pairwise_idxOf.sublist List.filter_sublist
  rw [wellFormed.findMissingPieces_eq, filter_scan_eq_map_incomplete]
  refine (pairwise_mergeSort_of_pairwise ComboMatch.ranksBefore_trans
    ComboMatch.ranksBefore_total placed).imp ?_
  intro a b ranked
  simp only [ComboMatch.ranksBefore_iff] at ranked
  rw [Outranks]
  omega

/-- The index finds the combos that a plain scan of it finds: the first ones, up to the limit and
each once, of which a card is given and few enough are not. If none may be missing, these are the
combos whose cards are all given. -/
theorem findCombos_ofList_eq_scan (combos : List Combo) (names : List String)
    (maxMissing limit : Nat) :
    let index := ofList combos
    index.findCombos names maxMissing limit =
      (index.combos.toList.filter fun combo =>
        combo.cardsAmong names ≠ [] ∧ (combo.cardsBeyond names).length ≤ maxMissing).take limit ∧
    ((index.findCombos names maxMissing limit).map Combo.id).Nodup ∧
    index.findCombos names 0 limit =
      (index.combos.toList.filter fun combo =>
        ∀ key ∈ combo.normalizedCards, key ∈ names.map normalizeName).take limit := by
  intro index
  have wellFormed : index.WellFormed := (represents_ofList combos).toWellFormed
  refine ⟨wellFormed.findCombos_eq names maxMissing limit,
    wellFormed.nodup_ids_findCombos names maxMissing limit, ?_⟩
  rw [wellFormed.findCombos_eq]
  refine congrArg (List.take limit) (List.filter_congr ?_)
  intro combo mem
  have indexable := wellFormed.indexable combo mem
  rw [decide_eq_decide, ← Combo.cardsBeyond_eq_nil_iff, Nat.le_zero, List.length_eq_zero_iff]
  exact ⟨fun found => found.2, fun complete => ⟨indexable.cardsAmong_ne_nil complete, complete⟩⟩

/-- The incomplete combos that the index reports are those of a plain scan of it: one comparison
for each, with the cards beyond the names in the order of the combo. They are listed by fewest
missing cards, then most present ones, then position, and the combos examined are those that
share a card with the names. -/
theorem findMissingPieces_ofList_eq_scan (combos : List Combo) (names : List String)
    (maxMissing minPresent : Nat) :
    let index := ofList combos
    let pieces := index.findMissingPieces names maxMissing minPresent
    pieces.results.Perm
      ((index.incomplete names maxMissing minPresent).map fun combo => combo.against names) ∧
    (pieces.results.map fun m => m.combo.id).Nodup ∧
    (∀ m ∈ pieces.results, m.present + m.missing.length = m.combo.cards.length) ∧
    pieces.results.Pairwise index.Outranks ∧
    pieces.examined = (index.combos.toList.filter fun combo =>
      ∃ key ∈ combo.normalizedCards, key ∈ names.map normalizeName).length := by
  intro index pieces
  have wellFormed : index.WellFormed := (represents_ofList combos).toWellFormed
  refine ⟨wellFormed.perm_findMissingPieces names maxMissing minPresent,
    wellFormed.nodup_ids_findMissingPieces names maxMissing minPresent, ?_,
    wellFormed.pairwise_findMissingPieces names maxMissing minPresent, ?_⟩
  · intro m mem
    obtain ⟨combo, _, rfl⟩ :=
      (wellFormed.mem_findMissingPieces_iff names maxMissing minPresent m).1 mem
    exact combo.length_cardsAmong_add_length_cardsBeyond names
  · change (index.findMissingPieces names maxMissing minPresent).examined = _
    rw [wellFormed.findMissingPieces_eq, scan, List.length_map]
    refine congrArg List.length (List.filter_congr ?_)
    intro combo _
    rw [decide_eq_decide]
    exact combo.cardsAmong_ne_nil_iff names

end ComboIndex

end Deckwright
