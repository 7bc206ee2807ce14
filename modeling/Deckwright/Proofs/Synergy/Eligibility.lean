import Deckwright.Proofs.Synergy.Plan
import Deckwright.Proofs.Synergy.Suggestions

/-!
# Which cards are suggested

A card may be suggested for a source card if it is another card, fits its colors and is legal in
the format asked for, and if the pattern of a planned search is in the attribute that the search
looks at. Since every query of a plan carries the limits of the plan, each suggestion comes from
such a card of the pool. If neither a page nor the answer is too short for the pool, each such
card is suggested.
-/

namespace Deckwright

/-- The card may be suggested for a source card, in a format if one is given. -/
structure Card.Eligible (card source : Card) (format : Option String) : Prop where
  /-- The names differ. -/
  other : card.normalizedName ≠ source.normalizedName
  /-- The card has no color that the source card lacks. -/
  fits : ∀ color : Color, card.colorIdentity.contains color = true →
    source.colorIdentity.contains color = true
  /-- The card is legal in the format. -/
  legal : ∀ name : String, format = some name → card.isLegalIn name = true

/-- The pattern of the query is in the attribute that it looks at. -/
def CardQuery.Matches (q : CardQuery) (card : Card) : Prop :=
  (TextPattern.compile q.pattern).isMatch (q.field.text card) = true

/-- The limits of a query are those of its scope, so a card satisfies it if it fits the colors, is
legal in the format and has the pattern. -/
theorem PlanScope.accepts_iff {scope : PlanScope} {q : CardQuery} (limited : scope.limit q = q)
    (card : Card) :
    q.accepts (.compile q.pattern) card = true ↔
      (∀ color : Color, card.colorIdentity.contains color = true →
        scope.colorIdentity.contains color = true) ∧
      (∀ name : String, scope.format = some name → card.isLegalIn name = true) ∧
      q.Matches card := by
  have identity : q.colorIdentity = some scope.colorIdentity :=
    congrArg CardQuery.colorIdentity limited.symm
  have format : q.format = scope.format := congrArg CardQuery.format limited.symm
  rw [CardQuery.accepts, identity, format, Bool.and_eq_true, Bool.and_eq_true, Option.all_some,
    ColorIdentity.isSubsetOf_iff, Option.all_eq_true, and_assoc]
  rfl

namespace CardPool

variable {pool : CardPool} {rules : CompiledRules} {config : ScorerConfig} {source card : Card}
  {format : Option String} {d : Discovery}

/-- A first hit is an eligible card of the pool with the pattern of its search. -/
theorem eligible_of_mem_firstHits
    (mem : d ∈ pool.firstHits (rules.plan config source format) source) :
    d.card ∈ pool.cards.toList ∧ d.card.Eligible source format ∧
      d.search ∈ rules.plan config source format ∧ d.search.query.Matches d.card := by
  obtain ⟨hit, other⟩ := mem_hits_of_mem_firstHits mem
  obtain ⟨planned, found⟩ := mem_hits.1 hit
  obtain ⟨held, accepted⟩ := mem_search found
  obtain ⟨fits, legal, pattern⟩ :=
    (PlanScope.accepts_iff (rules.limit_of_mem_plan config source planned) d.card).1 accepted
  exact ⟨held, ⟨other, fits, legal⟩, planned, pattern⟩

/-- An eligible card of the pool with the pattern of a search is hit if the page has room. -/
theorem hit_of_eligible (held : card ∈ pool.cards.toList) (eligible : card.Eligible source format)
    {search : PlannedSearch} (planned : search ∈ rules.plan config source format)
    (pattern : search.query.Matches card) (room : pool.size ≤ config.pageSize) :
    ⟨search, card⟩ ∈ pool.hits (rules.plan config source format) := by
  have limited := rules.limit_of_mem_plan config source planned
  have page := rules.pageSize_of_mem_plan config source planned
  refine mem_hits.2 ⟨planned, ?_⟩
  rw [search_eq_filter (page ▸ room), List.mem_filter]
  exact ⟨held, (PlanScope.accepts_iff limited card).2 ⟨eligible.fits, eligible.legal, pattern⟩⟩

/-- An eligible card of the pool with the pattern of a search has a first hit if the page has
room. -/
theorem WellFormed.firstHit_of_eligible (wellFormed : pool.WellFormed)
    (held : card ∈ pool.cards.toList) (eligible : card.Eligible source format)
    {search : PlannedSearch} (planned : search ∈ rules.plan config source format)
    (pattern : search.query.Matches card) (room : pool.size ≤ config.pageSize) :
    ∃ d ∈ pool.firstHits (rules.plan config source format) source, d.card = card := by
  have hit := hit_of_eligible held eligible planned pattern room
  obtain ⟨d, first, same⟩ := exists_firstHit hit eligible.other
  exact ⟨d, first, wellFormed.eq_of_same_name (eligible_of_mem_firstHits first).1 held same⟩

end CardPool

namespace SynergyScorer

/-- Each suggestion of a scorer over a pool comes from one card of the pool, which is eligible and
has the pattern of a planned search of the reason and the kind given. If neither the pages nor
the answer are too short for the pool, each eligible card with the pattern of a planned search is
suggested. -/
theorem suggestFor_iff_eligible (cards : List Card) (rules : CompiledRules)
    (config : ScorerConfig) (source : Card) (format : Option String) (maxResults : Nat) :
    let pool := CardPool.ofList cards
    let plan := rules.plan config source format
    let scorer : SynergyScorer (Except Failure) := ⟨pool.source, rules, config⟩
    ∃ answer : List Suggestion, scorer.suggestFor source maxResults format = .ok answer ∧
      (∀ s ∈ answer, ∃ card ∈ pool.cards.toList,
        (card.name = s.name ∧ card.manaCost = s.manaCost ∧ card.typeLine = s.typeLine) ∧
        card.Eligible source format ∧
        (∃ search ∈ plan, search.reason = s.reason ∧ search.synergyType = s.synergyType ∧
          search.query.Matches card) ∧
        ∀ other ∈ pool.cards.toList, other.normalizedName = normalizeName s.name →
          other = card) ∧
      (pool.size ≤ min config.pageSize maxResults → maxResults ≤ 100 →
        ∀ card ∈ pool.cards.toList, card.Eligible source format →
          (∃ search ∈ plan, search.query.Matches card) →
          ∃ s ∈ answer, s.name = card.name ∧ s.manaCost = card.manaCost ∧
            s.typeLine = card.typeLine) := by
  intro pool plan scorer
  have wellFormed : pool.WellFormed := CardPool.wellFormed_ofList cards
  refine ⟨_, suggestFor_source pool rules config source maxResults format, ?_, ?_⟩
  · intro s listed
    obtain ⟨d, front, rfl⟩ := List.mem_map.1 listed
    obtain ⟨held, eligible, planned, pattern⟩ :=
      CardPool.eligible_of_mem_firstHits (CardPool.mem_ranking.1 (List.mem_of_mem_take front))
    refine ⟨d.card, held, ⟨rfl, rfl, rfl⟩, eligible, ⟨d.search, planned, rfl, rfl, pattern⟩, ?_⟩
    intro other memOther same
    exact wellFormed.eq_of_same_name memOther held same
  · rintro room bounded card held eligible ⟨search, planned, pattern⟩
    obtain ⟨d, first, rfl⟩ := wellFormed.firstHit_of_eligible held eligible planned pattern
      (room.trans (Nat.min_le_left _ _))
    refine ⟨d.suggestion source config.colorBonusWeight, List.mem_map_of_mem ?_, rfl, rfl, rfl⟩
    rw [CardPool.take_ranking_of_room (room.trans (Nat.min_le_right _ _)) bounded]
    exact CardPool.mem_ranking.2 first

/-- The one card of a pool that has the pattern of a keyword's search is suggested, and it alone. -/
theorem suggestFor_iff_eligible_of_one_card :
    let card : Card := { name := "Scales", oracleText := "Put a +1/+1 counter on it." }
    let source : Card := { name := "Abzan", keywords := ["Outlast"] }
    let rules : SynergyRules :=
      { keywords := .ofList [("outlast", [⟨"+1/+1 counter", "Grows"⟩])] }
    let scorer : SynergyScorer (Except Failure) :=
      ⟨(CardPool.ofList [card]).source, rules.compile, {}⟩
    ∃ answer : List Suggestion, scorer.suggestFor source 1 none = .ok answer ∧
      (∃ s ∈ answer, s.name = card.name) ∧ ∀ s ∈ answer, s.name = card.name := by
  intro card source rules scorer
  obtain ⟨answer, answered, sound, complete⟩ :=
    suggestFor_iff_eligible [card] rules.compile {} source none 1
  have cards : (CardPool.ofList [card]).cards.toList = [card] :=
    CardPool.toList_cards_ofList (List.nodup_singleton _)
  have held : card ∈ (CardPool.ofList [card]).cards.toList := by
    rw [cards]
    exact List.mem_singleton_self card
  have room : (CardPool.ofList [card]).size ≤ min defaultPageSize 1 := by
    rw [CardPool.size_eq_length, cards]
    decide
  have eligible : card.Eligible source none := by
    -- Both cards are colorless.
    refine ⟨by decide, fun _ colored => colored, ?_⟩
    intro name given
    cases given
  let search : PlannedSearch := (PlanScope.mk source.colorIdentity none defaultPageSize).ofRule
    .keyword ⟨"+1/+1 counter", "Grows"⟩
  have planned : search ∈ rules.compile.plan {} source none := by
    have found : rules.compile.keywordRules "Outlast" = [⟨"+1/+1 counter", "Grows"⟩] := by decide
    simp [CompiledRules.plan, source, found, search]
  have pattern : search.query.Matches card := by
    unfold CardQuery.Matches
    decide +kernel
  refine ⟨answer, answered, ?_, ?_⟩
  · obtain ⟨s, listed, named, _⟩ :=
      complete room (by decide) card held eligible ⟨search, planned, pattern⟩
    exact ⟨s, listed, named⟩
  · intro s listed
    obtain ⟨other, mem, ⟨named, _⟩, _⟩ := sound s listed
    rw [cards, List.mem_singleton] at mem
    rw [← named, mem]

end SynergyScorer

end Deckwright
