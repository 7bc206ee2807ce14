import Deckwright.Finder
import Deckwright.Proofs.Combo.Scan

/-!
# Complete and nearly complete combos of a deck

A detection asks its index twice, once for complete and once for incomplete combos, and cuts both
answers at one limit. A combo is complete for the one question exactly when nothing is missing
for the other, so leaving out the identifiers of complete combos takes nothing from the
incomplete ones, whatever the limit, and the table of missing cards has one entry for each.
-/

namespace Deckwright

namespace ComboIndex

variable {index : ComboIndex}

/-- A combo reported as incomplete is a combo of the index, and lacks some cards but few enough. -/
theorem WellFormed.lacks_of_mem_findMissingPieces (wellFormed : index.WellFormed)
    {names : List String} {maxMissing minPresent : Nat} {m : ComboMatch}
    (reported : m ∈ (index.findMissingPieces names maxMissing minPresent).results) :
    m.combo ∈ index.combos.toList ∧ m.missing = m.combo.cardsBeyond names ∧ m.missing ≠ [] ∧
      m.missing.length ≤ maxMissing := by
  obtain ⟨combo, mem, rfl⟩ :=
    (wellFormed.mem_findMissingPieces_iff names maxMissing minPresent m).1 reported
  obtain ⟨held, lacks⟩ := List.mem_filter.1 mem
  obtain ⟨_, _, some, few⟩ := of_decide_eq_true lacks
  exact ⟨held, rfl, List.length_pos_iff.1 some, few⟩

/-- The combos found with no card missing are those without cards beyond the names. -/
theorem WellFormed.findCombos_zero_eq (wellFormed : index.WellFormed) (names : List String)
    (limit : Nat) :
    index.findCombos names 0 limit =
      (index.combos.toList.filter fun combo =>
        combo.cardsAmong names ≠ [] ∧ combo.cardsBeyond names = []).take limit := by
  rw [wellFormed.findCombos_eq]
  simp only [Nat.le_zero, List.length_eq_zero_iff]

/-- A combo found with no card missing lacks none. -/
theorem WellFormed.complete_of_mem_findCombos_zero (wellFormed : index.WellFormed)
    {names : List String} {limit : Nat} {combo : Combo}
    (found : combo ∈ index.findCombos names 0 limit) :
    combo ∈ index.combos.toList ∧ combo.cardsBeyond names = [] := by
  rw [wellFormed.findCombos_zero_eq] at found
  obtain ⟨held, all⟩ := List.mem_filter.1 (List.mem_of_mem_take found)
  exact ⟨held, (of_decide_eq_true all).2⟩

/-- A combo without cards beyond the names is not reported as incomplete. -/
theorem WellFormed.not_reported_of_complete (wellFormed : index.WellFormed) {names : List String}
    {maxMissing minPresent : Nat} {combo : Combo} (held : combo ∈ index.combos.toList)
    (complete : combo.cardsBeyond names = []) {m : ComboMatch}
    (reported : m ∈ (index.findMissingPieces names maxMissing minPresent).results) :
    combo.id ≠ m.combo.id := by
  intro same
  obtain ⟨mem, missing, lacks, _⟩ := wellFormed.lacks_of_mem_findMissingPieces reported
  have equal : combo = m.combo :=
    List.inj_on_of_nodup_map wellFormed.nodup_ids held mem same
  rw [missing, ← equal, complete] at lacks
  exact lacks rfl

end ComboIndex

namespace ComboMatcher

variable {matcher : ComboMatcher}

/-- Leaving out the identifiers of complete combos takes nothing from the incomplete ones. -/
theorem detect_potential (wellFormed : matcher.index.WellFormed) (names : List String)
    (maxMissing : Nat) :
    (matcher.detect names maxMissing).potential =
      (matcher.index.findMissingPieces names maxMissing
        matcher.config.defaultMinPresent).results.take matcher.config.defaultLimit := by
  rw [detect]
  refine congrArg (List.take _) (List.filter_eq_self.2 ?_)
  intro m reported
  rw [Bool.not_eq_true', List.contains_eq_mem, decide_eq_false_iff_not]
  intro taken
  obtain ⟨combo, found, same⟩ := List.mem_map.1 taken
  obtain ⟨held, complete⟩ := wellFormed.complete_of_mem_findCombos_zero found
  exact wellFormed.not_reported_of_complete held complete reported same

/-- The incomplete combos of a detection are reported by the index. -/
theorem mem_detect_potential (wellFormed : matcher.index.WellFormed) {names : List String}
    {maxMissing : Nat} {m : ComboMatch}
    (found : m ∈ (matcher.detect names maxMissing).potential) :
    m ∈ (matcher.index.findMissingPieces names maxMissing
      matcher.config.defaultMinPresent).results := by
  rw [detect_potential wellFormed] at found
  exact List.mem_of_mem_take found

/-- No incomplete combo is detected twice. -/
theorem nodup_detect_potential (wellFormed : matcher.index.WellFormed) (names : List String)
    (maxMissing : Nat) :
    ((matcher.detect names maxMissing).potential.map fun m => m.combo.id).Nodup := by
  rw [detect_potential wellFormed]
  have all := wellFormed.nodup_ids_findMissingPieces names maxMissing
    matcher.config.defaultMinPresent
  exact all.sublist ((List.take_sublist _ _).map _)

/-- No combo is detected twice, be it complete or not. -/
theorem nodup_detect (wellFormed : matcher.index.WellFormed) (names : List String)
    (maxMissing : Nat) :
    ((matcher.detect names maxMissing).complete.map Combo.id ++
      (matcher.detect names maxMissing).potential.map fun m => m.combo.id).Nodup := by
  rw [List.nodup_append]
  refine ⟨wellFormed.nodup_ids_findCombos names 0 matcher.config.defaultLimit,
    nodup_detect_potential wellFormed names maxMissing, ?_⟩
  intro id complete other potential
  obtain ⟨combo, found, rfl⟩ := List.mem_map.1 complete
  obtain ⟨m, kept, rfl⟩ := List.mem_map.1 potential
  obtain ⟨held, lacksNone⟩ := wellFormed.complete_of_mem_findCombos_zero found
  exact wellFormed.not_reported_of_complete held lacksNone (mem_detect_potential wellFormed kept)

/-- The table of missing cards has one entry for each incomplete combo. -/
theorem perm_detect_missingCards (wellFormed : matcher.index.WellFormed) (names : List String)
    (maxMissing : Nat) :
    (matcher.detect names maxMissing).missingCards.entries.Perm
      ((matcher.detect names maxMissing).potential.map fun m => (m.combo.id, m.missing)) := by
  refine Text.NameTable.perm_entries_ofList ?_
  rw [List.map_map]
  exact nodup_detect_potential wellFormed names maxMissing

/-- A detection over an index of any combos, with any settings, has the first combos whose cards
are all among the names, and the first of the incomplete combos by rank. What the limit cuts off
ranks below what it leaves. No identifier occurs twice in the two lists, and a complete combo is
not among the incomplete ones even if it is cut off itself. The table of missing cards has one
entry for each incomplete combo, with at least one and few enough cards. -/
theorem detect_splits (combos : List Combo) (config : ComboMatcherConfig) (names : List String)
    (maxMissing : Nat) :
    let index := ComboIndex.ofList combos
    let detection := (ComboMatcher.mk index config).detect names maxMissing
    let pieces := index.findMissingPieces names maxMissing config.defaultMinPresent
    detection.complete = (index.combos.toList.filter fun combo =>
      combo.cardsAmong names ≠ [] ∧ combo.cardsBeyond names = []).take config.defaultLimit ∧
    detection.potential = pieces.results.take config.defaultLimit ∧
    (∀ kept ∈ detection.potential, ∀ cut ∈ pieces.results.drop config.defaultLimit,
      index.Outranks kept cut) ∧
    (detection.complete.map Combo.id ++ detection.potential.map fun m => m.combo.id).Nodup ∧
    (∀ combo ∈ index.combos.toList, combo.cardsBeyond names = [] →
      ∀ m ∈ detection.potential, combo.id ≠ m.combo.id) ∧
    detection.missingCards.entries.Perm
      (detection.potential.map fun m => (m.combo.id, m.missing)) ∧
    (∀ m ∈ detection.potential, detection.missingCards.find? m.combo.id = some m.missing ∧
      m.missing ≠ [] ∧ m.missing.length ≤ maxMissing) := by
  intro index detection pieces
  have wellFormed : index.WellFormed := (ComboIndex.represents_ofList combos).toWellFormed
  have potential : detection.potential = pieces.results.take config.defaultLimit :=
    detect_potential wellFormed names maxMissing
  have missing : detection.missingCards.entries.Perm
      (detection.potential.map fun m => (m.combo.id, m.missing)) :=
    perm_detect_missingCards wellFormed names maxMissing
  refine ⟨wellFormed.findCombos_zero_eq names config.defaultLimit, potential, ?_,
    nodup_detect wellFormed names maxMissing, ?_, missing, ?_⟩
  · intro kept memKept cut memCut
    have ranked := wellFormed.pairwise_findMissingPieces names maxMissing config.defaultMinPresent
    rw [← List.take_append_drop config.defaultLimit
      (index.findMissingPieces names maxMissing config.defaultMinPresent).results] at ranked
    rw [potential] at memKept
    exact (List.pairwise_append.1 ranked).2.2 kept memKept cut memCut
  · intro combo held complete m found
    exact wellFormed.not_reported_of_complete held complete (mem_detect_potential wellFormed found)
  · intro m found
    obtain ⟨_, _, lacks, few⟩ :=
      wellFormed.lacks_of_mem_findMissingPieces (mem_detect_potential wellFormed found)
    refine ⟨?_, lacks, few⟩
    rw [Text.NameTable.find?_eq_some_iff, missing.mem_iff]
    exact List.mem_map_of_mem (f := fun m : ComboMatch => (m.combo.id, m.missing)) found

end ComboMatcher

end Deckwright
