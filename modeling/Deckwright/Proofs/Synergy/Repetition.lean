import Deckwright.Proofs.Synergy.Explanation
import Deckwright.Proofs.Synergy.Suggestions

/-!
# Repeated attributes

The searches of a plan are made attribute by attribute: each keyword, creature type and card type
makes its own. An attribute that is listed again makes searches that were made before, and a search
that was made before finds, on whatever page, the names that it found then. So the plan of a card
is shorter without the repetition, but what is found first stays the same, and the answer with it.
-/

namespace Deckwright

namespace CardPool

variable (pool : CardPool) (source : Card)

/-- Searches that were made before make no first hits. -/
theorem firstHits_append_append {earlier repeated : List PlannedSearch}
    (made : repeated ⊆ earlier) (later : List PlannedSearch) :
    pool.firstHits (earlier ++ repeated ++ later) source =
      pool.firstHits (earlier ++ later) source := by
  have known : (pool.hits repeated).map Discovery.key ⊆ (pool.hits earlier).map Discovery.key := by
    refine List.map_subset _ ?_
    intro d hit
    obtain ⟨planned, found⟩ := mem_hits.1 hit
    exact mem_hits.2 ⟨made planned, found⟩
  simp only [firstHits, hits_append]
  rw [firstPerKey_append_append known]

/-- An item that calls for the searches of an earlier one makes no first hits. -/
theorem firstHits_of_repeated {ι : Type} (searches : ι → List PlannedSearch) {before : List ι}
    {other item : ι} (mem : other ∈ before) (same : searches other = searches item)
    (earlier : List PlannedSearch) (after : List ι) (later : List PlannedSearch) :
    pool.firstHits (earlier ++ (before ++ item :: after).flatMap searches ++ later) source =
      pool.firstHits (earlier ++ (before ++ after).flatMap searches ++ later) source := by
  have made : searches item ⊆ earlier ++ before.flatMap searches := by
    intro search planned
    exact List.mem_append_right _ (List.mem_flatMap.2 ⟨other, mem, same ▸ planned⟩)
  have dropped := pool.firstHits_append_append source made (after.flatMap searches ++ later)
  simpa only [List.flatMap_append, List.flatMap_cons, List.append_assoc] using dropped

end CardPool

namespace CompiledRules

variable (rules : CompiledRules) (config : ScorerConfig) (card : Card) (format : Option String)

/-- The searches of one keyword. -/
def keywordSearches (keyword : String) : List PlannedSearch :=
  (rules.keywordRules keyword).map
    (PlanScope.ofRule ⟨card.colorIdentity, format, config.pageSize⟩ .keyword)

/-- The searches of one subtype: none unless it is a creature type that is not denied. -/
def subtypeSearches (subtype : String) : List PlannedSearch :=
  if card.hasCreatureSubtypes && !rules.isDeniedSubtype subtype then
    PlannedSearch.ofCreatureType card config format subtype
  else []

/-- The searches of the rules text. -/
def abilitySearches : List PlannedSearch :=
  (rules.abilityRules card.oracleText).map
    (PlanScope.ofRule ⟨card.colorIdentity, format, config.pageSize⟩ .ability)

/-- The searches of one card type. -/
def typeSearches (type : String) : List PlannedSearch :=
  (rules.typeRules type).map
    (PlanScope.ofRule ⟨card.colorIdentity, format, config.pageSize⟩ .type)

/-- The searches for creature types are those of each subtype. -/
theorem tribalSearches_eq_flatMap :
    rules.tribalSearches config card format =
      card.subtypes.flatMap (rules.subtypeSearches config card format) := by
  rw [tribalSearches, ← Card.hasCreatureSubtypes]
  cases creature : card.hasCreatureSubtypes with
  | false => simp [subtypeSearches, creature]
  | true =>
    rw [if_pos rfl]
    induction card.subtypes with
    | nil => rfl
    | cons subtype rest ih =>
      rw [List.flatMap_cons, ← ih, subtypeSearches, creature, List.filter_cons]
      cases rules.isDeniedSubtype subtype <;> rfl

/-- A plan has the searches of each keyword, each subtype, the rules text and each card type. -/
theorem plan_eq_flatMap :
    rules.plan config card format =
      card.keywords.flatMap (rules.keywordSearches config card format)
        ++ card.subtypes.flatMap (rules.subtypeSearches config card format)
        ++ rules.abilitySearches config card format
        ++ card.types.flatMap (rules.typeSearches config card format) := by
  rw [plan_eq_append, tribalSearches_eq_flatMap]
  simp only [List.map_flatMap]
  rfl

end CompiledRules

/-! ## Cards with repetitions -/

namespace Card

/-- The second card lists one attribute less, which the first one repeats: a keyword with the normal
form of an earlier one, or a subtype or type that is an earlier one. -/
inductive DropsRepetition (card : Card) : Card → Prop where
  /-- A keyword is not listed again. -/
  | keyword {before after : List String} {keyword : String}
      (listed : card.keywords = before ++ keyword :: after)
      (known : normalizeName keyword ∈ before.map normalizeName) :
      DropsRepetition card { card with keywords := before ++ after }
  /-- A subtype is not listed again. -/
  | subtype {before after : List String} {subtype : String}
      (listed : card.subtypes = before ++ subtype :: after) (known : subtype ∈ before) :
      DropsRepetition card { card with subtypes := before ++ after }
  /-- A type is not listed again. -/
  | type {before after : List String} {type : String}
      (listed : card.types = before ++ type :: after) (known : type ∈ before) :
      DropsRepetition card { card with types := before ++ after }

variable {card : Card} {before after : List String} {type : String}

/-- A card has a type if it is listed once. -/
theorem hasType_of_repeated (listed : card.types = before ++ type :: after) (known : type ∈ before)
    (asked : String) :
    { card with types := before ++ after }.hasType asked = card.hasType asked := by
  rw [hasType, hasType, listed, List.any_append, List.any_append, List.any_cons]
  cases equal : Text.equalIgnoringCase type asked with
  | false => rw [Bool.false_or]
  | true =>
    have found : (before.any fun t => Text.equalIgnoringCase t asked) = true :=
      List.any_eq_true.2 ⟨type, known, equal⟩
    rw [found, Bool.true_or, Bool.true_or]

/-- A card has creature types if the type that calls for them is listed once. -/
theorem hasCreatureSubtypes_of_repeated (listed : card.types = before ++ type :: after)
    (known : type ∈ before) :
    { card with types := before ++ after }.hasCreatureSubtypes = card.hasCreatureSubtypes := by
  simp only [hasCreatureSubtypes, hasType_of_repeated listed known]

end Card

namespace CardPool

variable (pool : CardPool) (rules : CompiledRules) (config : ScorerConfig) (format : Option String)

/-- The first hits for a card are those for the card without a repetition. -/
theorem firstHits_of_dropsRepetition {card less : Card} (drops : card.DropsRepetition less) :
    pool.firstHits (rules.plan config less format) less =
      pool.firstHits (rules.plan config card format) card := by
  rw [rules.plan_eq_flatMap, rules.plan_eq_flatMap]
  cases drops with
  | @keyword before after keyword listed known =>
    obtain ⟨other, mem, same⟩ := List.mem_map.1 known
    have searches : rules.keywordSearches config card format other =
        rules.keywordSearches config card format keyword := by
      rw [CompiledRules.keywordSearches, CompiledRules.keywordSearches, CompiledRules.keywordRules,
        CompiledRules.keywordRules, same]
    simp only [listed, List.append_assoc]
    exact (pool.firstHits_of_repeated card _ mem searches [] after _).symm
  | @subtype before after subtype listed known =>
    rw [listed, List.append_assoc _ _ (List.flatMap _ _), List.append_assoc _ _ (List.flatMap _ _)]
    exact (pool.firstHits_of_repeated card _ known rfl _ after _).symm
  | @type before after type listed known =>
    have subtypes : rules.subtypeSearches config { card with types := before ++ after } format =
        rules.subtypeSearches config card format := by
      funext subtype
      rw [CompiledRules.subtypeSearches, Card.hasCreatureSubtypes_of_repeated listed known]
      rfl
    have dropped := pool.firstHits_of_repeated card (rules.typeSearches config card format) known
      rfl (card.keywords.flatMap (rules.keywordSearches config card format)
        ++ card.subtypes.flatMap (rules.subtypeSearches config card format)
        ++ rules.abilitySearches config card format) after []
    rw [List.append_nil, List.append_nil] at dropped
    rw [listed, dropped, subtypes]
    rfl

/-- The ranking for a card is that for the card without a repetition. -/
theorem ranking_of_dropsRepetition {card less : Card} (drops : card.DropsRepetition less)
    (weight : Float32) :
    pool.ranking (rules.plan config less format) less weight =
      pool.ranking (rules.plan config card format) card weight := by
  rw [ranking, ranking, pool.firstHits_of_dropsRepetition rules config format drops]
  cases drops <;> rfl

end CardPool

namespace SynergyScorer

/-- A scorer over a pool gives one answer for a card and for the card without a repetition: without
a keyword that has the normal form of an earlier one, or a subtype or type that is an earlier
one. -/
theorem suggestFor_of_dropsRepetition (pool : CardPool) (rules : CompiledRules)
    (config : ScorerConfig) (format : Option String) (maxResults : Nat) {card less : Card}
    (drops : card.DropsRepetition less) :
    let scorer : SynergyScorer (Except Failure) := ⟨pool.source, rules, config⟩
    ∃ suggestions, scorer.suggestFor card maxResults format = .ok suggestions ∧
      scorer.suggestFor less maxResults format = .ok suggestions := by
  intro scorer
  refine ⟨_, suggestFor_source pool rules config card maxResults format, ?_⟩
  rw [suggestFor_source, pool.ranking_of_dropsRepetition rules config format drops]
  cases drops <;> rfl

/-- A Drake that flies twice is answered as one that flies. -/
theorem suggestFor_of_dropsRepetition_of_flying :
    let owl : Card := { name := "Owl", oracleText := "Creatures with flying get +1/+1." }
    let card : Card := { name := "Drake", keywords := ["Flying", " FLYING", "Haste"] }
    let less : Card := { card with keywords := ["Flying", "Haste"] }
    let scorer : SynergyScorer (Except Failure) :=
      ⟨(CardPool.ofList [owl]).source, SynergyRules.builtIn.compile, {}⟩
    card.DropsRepetition less ∧
    ∃ suggestions, scorer.suggestFor card 10 none = .ok suggestions ∧
      scorer.suggestFor less 10 none = .ok suggestions := by
  intro owl card less scorer
  have listed : card.keywords = ["Flying"] ++ " FLYING" :: ["Haste"] := rfl
  have known : normalizeName " FLYING" ∈ ["Flying"].map normalizeName := by decide
  exact ⟨.keyword listed known, suggestFor_of_dropsRepetition _ _ _ none 10 (.keyword listed known)⟩

end SynergyScorer

end Deckwright
