import Deckwright.Proofs.Card.Pool
import Deckwright.Proofs.FirstPerKey
import Deckwright.Proofs.Ranking
import Deckwright.Synergy.Scorer

/-!
# Suggestions from a pool

The searches of a plan go through a pool one after the other, and each name counts where it is
found first. `CardPool.firstHits` lists these discoveries in the order in which they are made,
and `CardPool.ranking` sorts them by score, those of one score as they were found. An answer is
the front of this ranking, so a longer answer begins with a shorter one, and what is left out
never scores higher than what is listed.
-/

namespace Deckwright

namespace Discovery

/-- The name of the card, in normal form. -/
def key (d : Discovery) : String := d.card.normalizedName

/-- The first discovery is to be listed before the second or at the same place. -/
def ranksBefore (source : Card) (weight : Float32) (a b : Discovery) : Bool :=
  (a.suggestion source weight).ranksBefore (b.suggestion source weight)

/-- The first discovery is listed before the second: its card scores higher, or as high and was
found first. -/
def Outranks (source : Card) (weight : Float32) (found : List Discovery) (a b : Discovery) : Prop :=
  let rank (d : Discovery) := Score.orderKey (d.suggestion source weight).score
  rank b < rank a ∨ rank a = rank b ∧ [a, b].Sublist found

/-- The suggestion lists the card of a discovery for a source card, with the kind and the reason of
the search that found it, and scored by that search. -/
structure IsListedAs (d : Discovery) (source : Card) (weight : Float32) (s : Suggestion) :
    Prop where
  /-- The name is that of the card. -/
  name : s.name = d.card.name
  /-- The kind is that of the search. -/
  synergyType : s.synergyType = d.search.synergyType
  /-- The reason is that of the search. -/
  reason : s.reason = d.search.reason
  /-- The score is that of the kind, the colors of both cards and the multiplier of the search. -/
  score : s.score = Score.ofCandidate d.search.synergyType source.colorIdentity
    d.card.colorIdentity d.search.multiplier weight
  /-- The cost is that of the card. -/
  manaCost : s.manaCost = d.card.manaCost
  /-- The type line is that of the card. -/
  typeLine : s.typeLine = d.card.typeLine

/-- A discovery is listed as its suggestion. -/
theorem isListedAs_suggestion (d : Discovery) (source : Card) (weight : Float32) :
    d.IsListedAs source weight (d.suggestion source weight) :=
  ⟨rfl, rfl, rfl, rfl, rfl, rfl⟩

/-- Of two discoveries one ranks before the other. -/
theorem ranksBefore_total (source : Card) (weight : Float32) (a b : Discovery) :
    (a.ranksBefore source weight b || b.ranksBefore source weight a) = true :=
  Suggestion.ranksBefore_total _ _

/-- The ranks of discoveries are an order. -/
theorem ranksBefore_trans (source : Card) (weight : Float32) (a b c : Discovery)
    (first : a.ranksBefore source weight b = true)
    (second : b.ranksBefore source weight c = true) : a.ranksBefore source weight c = true :=
  Suggestion.ranksBefore_trans _ _ _ first second

/-- What stands before in the sorted list scores higher, or as high and was found first. -/
theorem outranks_of_stablyBefore {source : Card} {weight : Float32} {found : List Discovery}
    {a b : Discovery} (before : StablyBefore (ranksBefore source weight) found a b) :
    Outranks source weight found a b := by
  obtain ⟨ranked, tied⟩ := before
  rw [ranksBefore, Suggestion.ranksBefore_iff] at ranked
  rcases Int.lt_or_eq_of_le ranked with lower | same
  · exact .inl lower
  · refine .inr ⟨same.symm, tied ?_⟩
    rw [ranksBefore, Suggestion.ranksBefore_iff]
    omega

end Discovery

/-- Distinct discoveries are the first ones of each name, if it was not seen before. -/
theorem distinctDiscoveries_eq_filter (seen : List String) (found : List Discovery) :
    distinctDiscoveries seen found =
      (firstPerKey Discovery.key found).filter fun d => d.key ∉ seen := by
  induction found generalizing seen with
  | nil => rfl
  | cons d rest ih =>
    have named : d.card.normalizedName = d.key := rfl
    simp only [distinctDiscoveries, firstPerKey, ih, named]
    by_cases known : d.key ∈ seen
    · rw [if_pos (List.contains_iff_mem.2 known), List.filter_cons_of_neg (by simpa using known),
        List.filter_filter]
      refine List.filter_congr ?_
      intro later _
      -- A later discovery of this name would have been seen too.
      by_cases fresh : later.key ∈ seen
      · simp [fresh]
      · have apart : later.key ≠ d.key := fun same => fresh (same ▸ known)
        simp [fresh, apart]
    · rw [if_neg (mt List.contains_iff_mem.1 known), List.filter_cons_of_pos (by simpa using known),
        List.filter_filter]
      refine congrArg (List.cons d) (List.filter_congr ?_)
      intro later _
      simp [Bool.and_comm]

namespace CardPool

/-- What the searches of a plan find in a pool: search by search, the cards of each in the order
of the pool. -/
def hits (pool : CardPool) (plan : List PlannedSearch) : List Discovery :=
  plan.flatMap fun search => (pool.search search.query).map fun card => ⟨search, card⟩

/-- The first hit of each name other than that of the source card. -/
def firstHits (pool : CardPool) (plan : List PlannedSearch) (source : Card) : List Discovery :=
  (firstPerKey Discovery.key (pool.hits plan)).filter fun d => d.key ≠ source.normalizedName

/-- The first hits by falling score, those of one score in the order in which they were made. -/
def ranking (pool : CardPool) (plan : List PlannedSearch) (source : Card) (weight : Float32) :
    List Discovery :=
  (pool.firstHits plan source).mergeSort (Discovery.ranksBefore source weight)

variable {pool : CardPool} {plan : List PlannedSearch} {source : Card} {weight : Float32}

/-- The hits of a plan made of two parts are theirs. -/
theorem hits_append (pool : CardPool) (left right : List PlannedSearch) :
    pool.hits (left ++ right) = pool.hits left ++ pool.hits right :=
  List.flatMap_append

/-- A hit is a search of the plan and a card that it finds. -/
theorem mem_hits {d : Discovery} :
    d ∈ pool.hits plan ↔ d.search ∈ plan ∧ d.card ∈ pool.search d.search.query := by
  rw [hits, List.mem_flatMap]
  constructor
  · rintro ⟨search, planned, mem⟩
    obtain ⟨card, found, rfl⟩ := List.mem_map.1 mem
    exact ⟨planned, found⟩
  · rintro ⟨planned, found⟩
    exact ⟨d.search, planned, List.mem_map.2 ⟨d.card, found, rfl⟩⟩

/-- A hit is a card of the pool. -/
theorem card_mem_of_mem_hits {d : Discovery} (mem : d ∈ pool.hits plan) :
    d.card ∈ pool.cards.toList :=
  (mem_search (mem_hits.1 mem).2).1

/-- The first hits are some of the hits, in their order. -/
theorem firstHits_sublist (pool : CardPool) (plan : List PlannedSearch) (source : Card) :
    (pool.firstHits plan source).Sublist (pool.hits plan) := by
  rw [firstHits]
  exact List.filter_sublist.trans (firstPerKey_sublist Discovery.key (pool.hits plan))

/-- A first hit is a hit, and not the source card. -/
theorem mem_hits_of_mem_firstHits {d : Discovery} (mem : d ∈ pool.firstHits plan source) :
    d ∈ pool.hits plan ∧ d.key ≠ source.normalizedName := by
  have other := (List.mem_filter.1 mem).2
  exact ⟨(firstHits_sublist pool plan source).subset mem, of_decide_eq_true other⟩

/-- No name has two first hits. -/
theorem nodup_keys_firstHits (pool : CardPool) (plan : List PlannedSearch) (source : Card) :
    ((pool.firstHits plan source).map Discovery.key).Nodup :=
  (nodup_map_firstPerKey _ _).sublist (List.filter_sublist.map _)

/-- No first hit is listed twice. -/
theorem nodup_firstHits (pool : CardPool) (plan : List PlannedSearch) (source : Card) :
    (pool.firstHits plan source).Nodup :=
  (nodup_keys_firstHits pool plan source).of_map Discovery.key

/-- Every name that is hit has a first hit, unless it is the name of the source card. -/
theorem exists_firstHit {d : Discovery} (hit : d ∈ pool.hits plan)
    (other : d.key ≠ source.normalizedName) :
    ∃ first ∈ pool.firstHits plan source, first.key = d.key := by
  have named : d.key ∈ (firstPerKey Discovery.key (pool.hits plan)).map Discovery.key :=
    mem_map_firstPerKey.2 (List.mem_map_of_mem hit)
  obtain ⟨first, kept, same⟩ := List.mem_map.1 named
  exact ⟨first, List.mem_filter.2 ⟨kept, decide_eq_true (same ▸ other)⟩, same⟩

/-- The first hit of a name is made by the first search of the plan that finds a card of it. -/
theorem exists_first_search {d : Discovery} (mem : d ∈ firstPerKey Discovery.key (pool.hits plan)) :
    ∃ earlier later, plan = earlier ++ d.search :: later ∧ d.card ∈ pool.search d.search.query ∧
      ∀ search ∈ earlier, ∀ card ∈ pool.search search.query, card.normalizedName ≠ d.key := by
  induction plan with
  | nil => simp [hits, firstPerKey] at mem
  | cons search rest ih =>
    rw [hits, List.flatMap_cons, ← hits, firstPerKey_append, List.mem_append] at mem
    rcases mem with here | after
    · have hit := (firstPerKey_sublist Discovery.key _).subset here
      obtain ⟨card, found, rfl⟩ := List.mem_map.1 hit
      exact ⟨[], rest, rfl, found, by simp⟩
    · obtain ⟨mem, new⟩ := List.mem_filter.1 after
      obtain ⟨earlier, later, split, found, first⟩ := ih mem
      refine ⟨search :: earlier, later, by rw [split, List.cons_append], found, ?_⟩
      intro other planned card shown same
      rcases List.mem_cons.1 planned with rfl | planned
      · refine of_decide_eq_true new (List.mem_map.2 ⟨⟨other, card⟩, ?_, same⟩)
        exact List.mem_map.2 ⟨card, shown, rfl⟩
      · exact first other planned card shown same

/-- There are no more first hits than cards in the pool. -/
theorem length_firstHits_le (pool : CardPool) (plan : List PlannedSearch) (source : Card) :
    (pool.firstHits plan source).length ≤ pool.size := by
  have named : (pool.firstHits plan source).map Discovery.key ⊆
      pool.cards.toList.map Card.normalizedName := by
    intro name mem
    obtain ⟨d, first, rfl⟩ := List.mem_map.1 mem
    exact List.mem_map_of_mem (card_mem_of_mem_hits (mem_hits_of_mem_firstHits first).1)
  have fewer := (List.subperm_of_subset (nodup_keys_firstHits pool plan source) named).length_le
  rwa [List.length_map, List.length_map, ← size_eq_length] at fewer

/-- The ranking has the first hits. -/
theorem perm_ranking (pool : CardPool) (plan : List PlannedSearch) (source : Card)
    (weight : Float32) :
    (pool.ranking plan source weight).Perm (pool.firstHits plan source) :=
  List.mergeSort_perm _ _

/-- A discovery is ranked if it is a first hit. -/
theorem mem_ranking {d : Discovery} :
    d ∈ pool.ranking plan source weight ↔ d ∈ pool.firstHits plan source :=
  (perm_ranking pool plan source weight).mem_iff

/-- The ranking is ordered by falling score, and under one score by the order of the hits. -/
theorem pairwise_ranking (pool : CardPool) (plan : List PlannedSearch) (source : Card)
    (weight : Float32) :
    (pool.ranking plan source weight).Pairwise
      (Discovery.Outranks source weight (pool.firstHits plan source)) :=
  (pairwise_stablyBefore_mergeSort (Discovery.ranksBefore_trans source weight)
    (Discovery.ranksBefore_total source weight) _).imp Discovery.outranks_of_stablyBefore

/-- No name is ranked twice. -/
theorem nodup_keys_ranking (pool : CardPool) (plan : List PlannedSearch) (source : Card)
    (weight : Float32) : ((pool.ranking plan source weight).map Discovery.key).Nodup :=
  ((perm_ranking pool plan source weight).map _).nodup_iff.2
    (nodup_keys_firstHits pool plan source)

/-- Nothing is left out if the pool has no more cards than are asked for. -/
theorem take_ranking_of_room {maxResults : Nat} (room : pool.size ≤ maxResults)
    (bounded : maxResults ≤ 100) :
    (pool.ranking plan source weight).take (max 1 (min maxResults 100)) =
      pool.ranking plan source weight := by
  refine List.take_of_length_le ?_
  have fewer := pool.length_firstHits_le plan source
  rw [(perm_ranking pool plan source weight).length_eq]
  omega

/-- What is left out of the front of the ranking does not score higher than what is in it. -/
theorem score_le_of_left_out {size : Nat} {listed other : Discovery}
    (front : listed ∈ (pool.ranking plan source weight).take size)
    (mem : other ∈ pool.firstHits plan source)
    (leftOut : other ∉ (pool.ranking plan source weight).take size) :
    Score.orderKey (other.suggestion source weight).score ≤
      Score.orderKey (listed.suggestion source weight).score := by
  have ranked := pairwise_ranking pool plan source weight
  have ahead : other ∈ pool.ranking plan source weight := mem_ranking.2 mem
  rw [← List.take_append_drop size (pool.ranking plan source weight)] at ranked ahead
  rcases List.mem_append.1 ahead with taken | dropped
  · exact absurd taken leftOut
  · rcases (List.pairwise_append.1 ranked).2.2 listed front other dropped with higher | ⟨same, _⟩
    · exact Int.le_of_lt higher
    · exact Int.le_of_eq same.symm

/-- The best suggestions are the front of the ranking. -/
theorem rankSuggestions_hits (pool : CardPool) (plan : List PlannedSearch) (source : Card)
    (weight : Float32) (maxResults : Nat) :
    rankSuggestions source weight maxResults (pool.hits plan) =
      ((pool.ranking plan source weight).take (max 1 (min maxResults 100))).map fun d =>
        d.suggestion source weight := by
  have distinct : distinctDiscoveries [source.normalizedName] (pool.hits plan) =
      pool.firstHits plan source := by
    rw [distinctDiscoveries_eq_filter, firstHits]
    simp only [List.mem_singleton, ne_eq]
  have sorted : (pool.ranking plan source weight).map (fun d => d.suggestion source weight) =
      ((pool.firstHits plan source).map fun d => d.suggestion source weight).mergeSort
        Suggestion.ranksBefore :=
    List.map_mergeSort fun _ _ _ _ => rfl
  rw [rankSuggestions, distinct, List.map_take, sorted]
  rfl

/-- The searches of a plan, run on a pool, make its hits. -/
theorem discoveries_eq_hits (pool : CardPool) (plan : List PlannedSearch) :
    discoveries plan (plan.map fun search => pool.search search.query) = pool.hits plan := by
  rw [discoveries, ← List.map_prod_left_eq_zip, List.flatMap_map]
  rfl

end CardPool

namespace SynergyScorer

/-- A scorer over a pool answers with the front of the ranking. -/
theorem suggestFor_source {m : Type → Type} [Monad m] [LawfulMonad m] (pool : CardPool)
    (rules : CompiledRules) (config : ScorerConfig) (card : Card) (maxResults : Nat)
    (format : Option String) :
    (SynergyScorer.mk (m := m) pool.source rules config).suggestFor card maxResults format =
      pure (((pool.ranking (rules.plan config card format) card config.colorBonusWeight).take
        (max 1 (min maxResults 100))).map fun d => d.suggestion card config.colorBonusWeight) := by
  rw [suggestFor]
  simp only [plan, CardPool.source, List.mapM_pure, pure_bind]
  rw [CardPool.discoveries_eq_hits, CardPool.rankSuggestions_hits]

/-- A scorer over a pool answers with the whole ranking if the pool has no more cards than are
asked for. -/
theorem suggestFor_source_of_room {m : Type → Type} [Monad m] [LawfulMonad m] (pool : CardPool)
    (rules : CompiledRules) (config : ScorerConfig) (card : Card) {maxResults : Nat}
    (format : Option String) (room : pool.size ≤ maxResults) (bounded : maxResults ≤ 100) :
    (SynergyScorer.mk (m := m) pool.source rules config).suggestFor card maxResults format =
      pure ((pool.ranking (rules.plan config card format) card config.colorBonusWeight).map fun d =>
        d.suggestion card config.colorBonusWeight) := by
  rw [suggestFor_source, CardPool.take_ranking_of_room room bounded]

/-- A scorer over a pool goes through the searches of its plan, and through what each finds in the
order of the pool. It finds each card, but the source card, at the first search that finds the name,
be it of the best score or not, and lists it with the kind, the reason and the score of that search.
It ranks what it finds by score, and what scores the same as it was found, and answers with the
front of the ranking. So no name is suggested twice, what is left out does not score higher than
what is suggested, and an answer to a smaller request is the front of the answer to a larger
one. -/
theorem suggestFor_takes_front_of_ranking (cards : List Card) (rules : CompiledRules)
    (config : ScorerConfig) (source : Card) (format : Option String) :
    let pool := CardPool.ofList cards
    let plan := rules.plan config source format
    let found := pool.firstHits plan source
    let suggestion (d : Discovery) := d.suggestion source config.colorBonusWeight
    let scorer : SynergyScorer (Except Failure) := ⟨pool.source, rules, config⟩
    ((∀ search ∈ plan, (pool.search search.query).Sublist pool.cards.toList) ∧
      found.Sublist (pool.hits plan) ∧
      (∀ hit ∈ pool.hits plan, hit.key ≠ source.normalizedName →
        ∃ d ∈ found, d.key = hit.key) ∧
      ∀ d ∈ found, ∃ earlier later, plan = earlier ++ d.search :: later ∧
        d.card ∈ pool.search d.search.query ∧
        ∀ search ∈ earlier, ∀ card ∈ pool.search search.query,
          card.normalizedName ≠ d.card.normalizedName) ∧
    (∀ d ∈ found, d.IsListedAs source config.colorBonusWeight (suggestion d)) ∧
    ∃ ranked : List Discovery, ranked.Perm found ∧
      ranked.Pairwise (Discovery.Outranks source config.colorBonusWeight found) ∧
      ∀ maxResults : Nat,
        let answer (size : Nat) := (ranked.take (max 1 (min size 100))).map suggestion
        scorer.suggestFor source maxResults format = .ok (answer maxResults) ∧
        ((answer maxResults).map fun s => normalizeName s.name).Nodup ∧
        (∀ s ∈ answer maxResults, normalizeName s.name ≠ source.normalizedName) ∧
        (∀ d ∈ found, suggestion d ∉ answer maxResults → ∀ s ∈ answer maxResults,
          Score.orderKey (suggestion d).score ≤ Score.orderKey s.score) ∧
        ∀ fewer ≤ maxResults, answer fewer <+: answer maxResults := by
  intro pool plan found suggestion scorer
  refine ⟨⟨?_, ?_, ?_, ?_⟩, ?_, pool.ranking plan source config.colorBonusWeight,
    CardPool.perm_ranking _ _ _ _, CardPool.pairwise_ranking _ _ _ _, ?_⟩
  · exact fun search _ => pool.search_sublist search.query
  · exact CardPool.firstHits_sublist pool plan source
  · intro hit mem other
    exact CardPool.exists_firstHit mem other
  · intro d mem
    exact CardPool.exists_first_search (List.mem_filter.1 mem).1
  · intro d _
    exact d.isListedAs_suggestion source config.colorBonusWeight
  · intro maxResults answer
    refine ⟨suggestFor_source pool rules config source maxResults format, ?_, ?_, ?_, ?_⟩
    · rw [List.map_map]
      exact (CardPool.nodup_keys_ranking pool plan source config.colorBonusWeight).sublist
        ((List.take_sublist _ _).map Discovery.key)
    · intro s listed
      obtain ⟨d, front, rfl⟩ := List.mem_map.1 listed
      have mem : d ∈ found := CardPool.mem_ranking.1 (List.mem_of_mem_take front)
      exact (CardPool.mem_hits_of_mem_firstHits mem).2
    · intro d mem leftOut s listed
      obtain ⟨other, front, rfl⟩ := List.mem_map.1 listed
      exact CardPool.score_le_of_left_out front mem fun taken =>
        leftOut (List.mem_map_of_mem taken)
    · intro fewer le
      exact (List.take_prefix_take_left (by omega)).map suggestion

end SynergyScorer

end Deckwright
