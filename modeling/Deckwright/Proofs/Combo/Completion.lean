import Deckwright.Proofs.Combo.Detection

/-!
# Completing a combo

An incomplete combo is reported with the cards it lacks. Further names complete it when they have
all of these cards, in whatever spelling, and not otherwise. So the list of missing cards leaves
out nothing that is needed, and has nothing that is already there or that would be counted twice.
-/

namespace Deckwright

namespace Combo

/-- More names leave beyond them the cards that neither the first nor the further ones have. -/
theorem cardsBeyond_append (combo : Combo) (names added : List String) :
    combo.cardsBeyond (names ++ added) =
      (combo.cardsBeyond names).filter fun card =>
        normalizeName card ∉ added.map normalizeName := by
  rw [cardsBeyond, cardsBeyond, List.filter_filter]
  refine List.filter_congr ?_
  intro card _
  rw [List.map_append, ← Bool.decide_and, decide_eq_decide, List.mem_append, not_or, and_comm]

/-- No card is beyond more names if the further ones have all the cards beyond the first. -/
theorem cardsBeyond_append_eq_nil_iff (combo : Combo) (names added : List String) :
    combo.cardsBeyond (names ++ added) = [] ↔
      ∀ card ∈ combo.cardsBeyond names, normalizeName card ∈ added.map normalizeName := by
  rw [cardsBeyond_append, List.filter_eq_nil_iff]
  simp only [decide_eq_true_eq, not_not]

/-- A card beyond some names has another normal form than each of them. -/
theorem not_mem_names_of_mem_cardsBeyond {combo : Combo} {names : List String} {card : String}
    (mem : card ∈ combo.cardsBeyond names) : normalizeName card ∉ names.map normalizeName :=
  of_decide_eq_true (List.mem_filter.1 mem).2

/-- The cards beyond some names have different normal forms, if those of the combo have. -/
theorem Indexable.nodup_cardsBeyond {combo : Combo} (indexable : combo.Indexable)
    (names : List String) : ((combo.cardsBeyond names).map normalizeName).Nodup :=
  indexable.nodup.sublist (List.filter_sublist.map normalizeName)

end Combo

namespace ComboIndex

variable {index : ComboIndex}

/-- With room for all combos of the index, those found with no card missing are the ones without
cards beyond the names. -/
theorem WellFormed.mem_findCombos_zero_iff (wellFormed : index.WellFormed) {names : List String}
    {limit : Nat} (room : index.size ≤ limit) {combo : Combo} :
    combo ∈ index.findCombos names 0 limit ↔
      combo ∈ index.combos.toList ∧ combo.cardsBeyond names = [] := by
  have uncut : (index.combos.toList.filter fun combo =>
      combo.cardsAmong names ≠ [] ∧ combo.cardsBeyond names = []).length ≤ limit :=
    Nat.le_trans (List.length_filter_le _ _) room
  rw [wellFormed.findCombos_zero_eq, List.take_of_length_le uncut, List.mem_filter,
    decide_eq_true_eq]
  constructor
  · rintro ⟨held, -, complete⟩
    exact ⟨held, complete⟩
  · rintro ⟨held, complete⟩
    exact ⟨held, (wellFormed.indexable combo held).cardsAmong_ne_nil complete, complete⟩

/-- A combo that an index of any combos reports as incomplete lists as missing different cards,
none of them among the names. With further names it is found complete, if no limit is in the way,
exactly when all the missing cards are among these. -/
theorem missing_cards_complete_combo_iff (combos : List Combo) (names : List String)
    (maxMissing minPresent : Nat) :
    let index := ofList combos
    ∀ m ∈ (index.findMissingPieces names maxMissing minPresent).results,
      (m.missing.map normalizeName).Nodup ∧
      (∀ card ∈ m.missing, normalizeName card ∉ names.map normalizeName) ∧
      ∀ (added : List String) (limit : Nat), index.size ≤ limit →
        (m.combo ∈ index.findCombos (names ++ added) 0 limit ↔
          ∀ card ∈ m.missing, normalizeName card ∈ added.map normalizeName) := by
  intro index m reported
  have wellFormed : index.WellFormed := (represents_ofList combos).toWellFormed
  obtain ⟨held, missing, -, -⟩ := wellFormed.lacks_of_mem_findMissingPieces reported
  rw [missing]
  refine ⟨(wellFormed.indexable m.combo held).nodup_cardsBeyond names,
    fun card mem => Combo.not_mem_names_of_mem_cardsBeyond mem, ?_⟩
  intro added limit room
  rw [wellFormed.mem_findCombos_zero_iff room, m.combo.cardsBeyond_append_eq_nil_iff]
  exact ⟨fun found => found.2, fun covered => ⟨held, covered⟩⟩

/-- Of a combo of three cards two are missing, and both of them complete it, in other spellings. -/
theorem missing_cards_complete_combo_of_three :
    let combo : Combo :=
      { id := "C1", cards := ["Ashnod's Altar", "Nim Deathmantle", "Grave Titan"] }
    let index := ofList [combo]
    let m : ComboMatch := ⟨combo, ["Ashnod's Altar", "Grave Titan"], 1⟩
    m ∈ (index.findMissingPieces ["nim deathmantle"] 2 1).results ∧ index.size ≤ 1 ∧
      combo ∈ index.findCombos (["nim deathmantle"] ++ [" grave titan", "ASHNOD'S ALTAR"]) 0 1 ∧
      combo ∉ index.findCombos (["nim deathmantle"] ++ [" grave titan", "Ashnod"]) 0 1 := by
  intro combo index m
  have represents := represents_ofList [combo]
  have held : index.combos.toList = [combo] := represents.combos_eq.trans (by decide)
  have reported : m ∈ (index.findMissingPieces ["nim deathmantle"] 2 1).results := by
    rw [represents.mem_findMissingPieces_iff, incomplete, held]
    exact ⟨combo, by decide, by decide +kernel⟩
  have room : index.size ≤ 1 := by
    rw [size, ← Array.length_toList, held, List.length_singleton]
  obtain ⟨-, -, completes⟩ :=
    missing_cards_complete_combo_iff [combo] ["nim deathmantle"] 2 1 m reported
  have spelled : ∀ card ∈ m.missing,
      normalizeName card ∈ [" grave titan", "ASHNOD'S ALTAR"].map normalizeName := by
    decide +kernel
  have another : ¬∀ card ∈ m.missing,
      normalizeName card ∈ [" grave titan", "Ashnod"].map normalizeName := by
    decide +kernel
  exact ⟨reported, room, (completes _ 1 room).2 spelled,
    fun found => another ((completes _ 1 room).1 found)⟩

end ComboIndex

end Deckwright
