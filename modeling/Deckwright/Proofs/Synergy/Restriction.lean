import Deckwright.Proofs.Synergy.Plan
import Deckwright.Proofs.Synergy.Suggestions

/-!
# Suggestions from a part of a pool

The suggestion of a card does not depend on the other cards. If every search finds, in one run,
what it finds in another and is among certain cards, then so do the first hits, the ranking and
the suggestions, in the same order. Cards are left out in this way by a pool that lacks them, and
by a format in which they are not legal. Both need pages with room for the whole pool: what one
card leaves free on a page that is full, the next one takes.
-/

namespace Deckwright

/-- The suggestion is of one of the cards. -/
def Suggestion.isOf (cards : List Card) (s : Suggestion) : Bool :=
  cards.any fun card => card.name = s.name

/-- The card, as found by another search. -/
def Discovery.via (change : PlannedSearch → PlannedSearch) (d : Discovery) : Discovery :=
  ⟨change d.search, d.card⟩

/-- The name is that of the card. -/
theorem Discovery.key_via (change : PlannedSearch → PlannedSearch) (d : Discovery) :
    (d.via change).key = d.key :=
  rfl

namespace CardPool

/-- Each search of the plan, changed, finds in one pool those of the kept cards that it finds
unchanged in the other pool. -/
def Restricts (kept : List Card) (change : PlannedSearch → PlannedSearch)
    (plan : List PlannedSearch) (pool part : CardPool) : Prop :=
  ∀ search ∈ plan, part.search (change search).query =
    (pool.search search.query).filter (· ∈ kept)

section Restricts

variable {kept : List Card} {change : PlannedSearch → PlannedSearch} {plan : List PlannedSearch}
  {pool part : CardPool}

/-- The hits are those of kept cards. -/
theorem Restricts.hits (restricts : Restricts kept change plan pool part) :
    part.hits (plan.map change) =
      ((pool.hits plan).filter fun d => d.card ∈ kept).map (Discovery.via change) := by
  rw [CardPool.hits, CardPool.hits, List.flatMap_map, List.filter_flatMap, List.map_flatMap]
  refine List.flatMap_congr ?_
  intro search planned
  rw [restricts search planned, List.filter_map, List.map_map]
  rfl

/-- The first hits are those of kept cards, since hits of one name are hits of one card. -/
theorem Restricts.firstHits (restricts : Restricts kept change plan pool part)
    (wellFormed : pool.WellFormed) (source : Card) :
    part.firstHits (plan.map change) source =
      ((pool.firstHits plan source).filter fun d => d.card ∈ kept).map (Discovery.via change) := by
  have determined : ∀ a ∈ pool.hits plan, ∀ b ∈ pool.hits plan, a.key = b.key →
      decide (a.card ∈ kept) = decide (b.card ∈ kept) := by
    intro a hitA b hitB same
    rw [wellFormed.eq_of_same_name (card_mem_of_mem_hits hitA) (card_mem_of_mem_hits hitB) same]
  have other : (fun d : Discovery => decide (d.key ≠ source.normalizedName)) ∘
      Discovery.via change = fun d => decide (d.key ≠ source.normalizedName) := by
    funext d
    rw [Function.comp_apply, Discovery.key_via]
  rw [CardPool.firstHits, CardPool.firstHits, restricts.hits,
    firstPerKey_map (Discovery.key_via change), firstPerKey_filter determined, List.filter_map,
    other, List.filter_comm]

variable {source : Card} {weight : Float32}

/-- The ranking is that of the kept cards, if the scores do not change. -/
theorem Restricts.ranking (restricts : Restricts kept change plan pool part)
    (wellFormed : pool.WellFormed)
    (same : ∀ d : Discovery, (d.via change).suggestion source weight = d.suggestion source weight) :
    part.ranking (plan.map change) source weight =
      ((pool.ranking plan source weight).filter fun d => d.card ∈ kept).map
        (Discovery.via change) := by
  have ranks : ∀ a b : Discovery, a.ranksBefore source weight b =
      (a.via change).ranksBefore source weight (b.via change) := by
    intro a b
    rw [Discovery.ranksBefore, Discovery.ranksBefore, same, same]
  rw [CardPool.ranking, CardPool.ranking, restricts.firstHits wellFormed,
    filter_mergeSort (Discovery.ranksBefore_trans source weight)
      (Discovery.ranksBefore_total source weight) (nodup_firstHits pool plan source),
    List.map_mergeSort fun a _ b _ => ranks a b]

/-- A suggestion of a card of a pool is of a kept card if the card is kept. -/
theorem WellFormed.isOf_suggestion (wellFormed : pool.WellFormed)
    (within : kept ⊆ pool.cards.toList) {d : Discovery} (held : d.card ∈ pool.cards.toList) :
    (d.suggestion source weight).isOf kept = decide (d.card ∈ kept) := by
  rw [Suggestion.isOf, Bool.eq_iff_iff, List.any_eq_true, decide_eq_true_eq]
  constructor
  · rintro ⟨card, mem, named⟩
    have same : card.normalizedName = d.card.normalizedName :=
      congrArg normalizeName (of_decide_eq_true named)
    exact wellFormed.eq_of_same_name (within mem) held same ▸ mem
  · intro mem
    exact ⟨d.card, mem, decide_eq_true rfl⟩

/-- The suggestions are those of kept cards, if the change of the searches does not change them. -/
theorem Restricts.suggestions (restricts : Restricts kept change plan pool part)
    (wellFormed : pool.WellFormed) (within : kept ⊆ pool.cards.toList) (source : Card)
    (weight : Float32)
    (same : ∀ d : Discovery, (d.via change).suggestion source weight = d.suggestion source weight) :
    (part.ranking (plan.map change) source weight).map (fun d => d.suggestion source weight) =
      ((pool.ranking plan source weight).map fun d => d.suggestion source weight).filter
        (Suggestion.isOf kept) := by
  rw [restricts.ranking wellFormed same, List.map_map, List.filter_map]
  have kept_iff : (pool.ranking plan source weight).filter (fun d => d.card ∈ kept) =
      (pool.ranking plan source weight).filter
        (Suggestion.isOf kept ∘ fun d => d.suggestion source weight) := by
    refine List.filter_congr ?_
    intro d ranked
    have hit := (mem_hits_of_mem_firstHits (mem_ranking.1 ranked)).1
    exact (wellFormed.isOf_suggestion within (card_mem_of_mem_hits hit)).symm
  rw [kept_iff]
  exact List.map_congr_left fun d _ => same d

end Restricts

variable {pool part : CardPool} {config : ScorerConfig}

/-- A part of a pool restricts a plan whose pages have room to the cards of the part. -/
theorem WellFormed.restricts_part (wellFormed : pool.WellFormed)
    (within : part.cards.toList.Sublist pool.cards.toList) (room : pool.size ≤ config.pageSize)
    (rules : CompiledRules) (source : Card) (format : Option String) :
    Restricts part.cards.toList id (rules.plan config source format) pool part := by
  intro search planned
  have page := rules.pageSize_of_mem_plan config source planned
  exact wellFormed.search_part within (page ▸ room)

/-- A format restricts a plan without one, whose pages have room, to the cards that are legal in
it. -/
theorem restricts_inFormat (room : pool.size ≤ config.pageSize) (rules : CompiledRules)
    (source : Card) (format : String) :
    Restricts (pool.cards.toList.filter fun card => card.isLegalIn format)
      (PlannedSearch.inFormat (some format)) (rules.plan config source none) pool pool := by
  intro search planned
  have anyFormat := rules.format_of_mem_plan config source planned
  have page := rules.pageSize_of_mem_plan config source planned
  rw [PlannedSearch.inFormat, search_inFormat anyFormat (page ▸ room)]
  refine List.filter_congr ?_
  intro card shown
  simp [(mem_search shown).1]

end CardPool

namespace SynergyScorer

/-- Over a part of a pool a scorer answers as over the pool, less the suggestions of cards that
are not in the part, and for a format as for none, less the suggestions of cards that are not
legal in it. What is left has the scores, reasons and kinds that it had, in the same order. -/
theorem suggestFor_restricts (inner outer : List Card) (rules : CompiledRules)
    (config : ScorerConfig) (source : Card) (format : Option String) {maxResults : Nat}
    (within : (CardPool.ofList inner).cards.toList.Sublist (CardPool.ofList outer).cards.toList)
    (room : (CardPool.ofList outer).size ≤ min config.pageSize maxResults)
    (bounded : maxResults ≤ 100) :
    let part := CardPool.ofList inner
    let pool := CardPool.ofList outer
    let answer (pool : CardPool) (format : Option String) : Except Failure (List Suggestion) :=
      (SynergyScorer.mk pool.source rules config).suggestFor source maxResults format
    (∃ suggestions, answer pool format = .ok suggestions ∧
      answer part format = .ok (suggestions.filter (Suggestion.isOf part.cards.toList))) ∧
    ∃ suggestions, answer pool none = .ok suggestions ∧ ∀ name : String,
      answer pool (some name) = .ok (suggestions.filter
        (Suggestion.isOf (pool.cards.toList.filter fun card => card.isLegalIn name))) := by
  intro part pool answer
  have wellFormed : pool.WellFormed := CardPool.wellFormed_ofList outer
  have fewer : part.size ≤ pool.size := CardPool.size_le_of_part within
  have page : pool.size ≤ config.pageSize := room.trans (Nat.min_le_left _ _)
  have asked : pool.size ≤ maxResults := room.trans (Nat.min_le_right _ _)
  constructor
  · refine ⟨_, suggestFor_source_of_room pool rules config source format asked bounded, ?_⟩
    have left := (wellFormed.restricts_part within page rules source format).suggestions wellFormed
      within.subset source config.colorBonusWeight fun _ => rfl
    rw [List.map_id] at left
    exact (suggestFor_source_of_room part rules config source format (fewer.trans asked)
      bounded).trans (congrArg _ left)
  · refine ⟨_, suggestFor_source_of_room pool rules config source none asked bounded, ?_⟩
    intro name
    have left := (CardPool.restricts_inFormat page rules source name).suggestions wellFormed
      List.filter_sublist.subset source config.colorBonusWeight fun _ => rfl
    rw [← rules.plan_eq_map_inFormat config source (some name)] at left
    exact (suggestFor_source_of_room pool rules config source (some name) asked
      bounded).trans (congrArg _ left)

/-- A pool of three cards, and the part of it without the second. -/
theorem suggestFor_restricts_of_two_of_three :
    let owl : Card := { name := "Owl", oracleText := "Creatures with flying get +1/+1." }
    let bat : Card := { owl with name := "Bat", legalFormats := .ofList ["modern"] }
    let imp : Card := { bat with name := "Imp" }
    let source : Card := { name := "Drake", keywords := ["Flying"] }
    let rules := SynergyRules.builtIn.compile
    let part := CardPool.ofList [owl, imp]
    let pool := CardPool.ofList [owl, bat, imp]
    let answer (pool : CardPool) (format : Option String) : Except Failure (List Suggestion) :=
      (SynergyScorer.mk pool.source rules {}).suggestFor source 3 format
    (∃ suggestions, answer pool none = .ok suggestions ∧
      answer part none = .ok (suggestions.filter (Suggestion.isOf part.cards.toList))) ∧
    ∃ suggestions, answer pool none = .ok suggestions ∧ ∀ name : String,
      answer pool (some name) = .ok (suggestions.filter
        (Suggestion.isOf (pool.cards.toList.filter fun card => card.isLegalIn name))) := by
  intro owl bat imp source rules part pool answer
  have partCards : part.cards.toList = [owl, imp] := CardPool.toList_cards_ofList (by decide)
  have poolCards : pool.cards.toList = [owl, bat, imp] :=
    CardPool.toList_cards_ofList (by decide)
  have within : part.cards.toList.Sublist pool.cards.toList := by
    rw [partCards, poolCards]
    exact ((List.Sublist.refl [imp]).cons bat).cons_cons owl
  have room : pool.size ≤ min defaultPageSize 3 := by
    rw [CardPool.size_eq_length, poolCards]
    decide
  exact suggestFor_restricts [owl, imp] [owl, bat, imp] rules {} source none within room
    (by decide)

end SynergyScorer

end Deckwright
