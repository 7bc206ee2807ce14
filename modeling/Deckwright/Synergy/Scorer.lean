import Deckwright.Card.Pool
import Deckwright.Synergy.Plan

/-!
# Suggestions

The searches of a plan are run in order. A card is taken from the first search that finds it,
and never if it is the source card. Suggestions are listed by falling score, and those of equal
score in the order in which they were found.
-/

namespace Deckwright

/-- A card as one of the searches found it. -/
structure Discovery where
  /-- The search. -/
  search : PlannedSearch
  /-- The card. -/
  card : Card
  deriving Inhabited

/-- The cards whose names, in normal form, were not seen before, each with the first search that
found it. -/
def distinctDiscoveries (seen : List String) : List Discovery → List Discovery
  | [] => []
  | d :: rest =>
    let key := d.card.normalizedName
    if seen.contains key then distinctDiscoveries seen rest
    else d :: distinctDiscoveries (key :: seen) rest

namespace Discovery

/-- The suggestion of a card for a source card. -/
def suggestion (d : Discovery) (source : Card) (weight : Float32) : Suggestion where
  name := d.card.name
  synergyType := d.search.synergyType
  reason := d.search.reason
  score := Score.ofCandidate d.search.synergyType source.colorIdentity d.card.colorIdentity
    d.search.multiplier weight
  manaCost := d.card.manaCost
  typeLine := d.card.typeLine

end Discovery

/-- The first is to be listed before the second or at the same place: its score is not lower. -/
def Suggestion.ranksBefore (a b : Suggestion) : Bool :=
  Score.orderKey b.score ≤ Score.orderKey a.score

/-- A suggestion ranks before those of no higher score. -/
theorem Suggestion.ranksBefore_iff (a b : Suggestion) :
    a.ranksBefore b = true ↔ Score.orderKey b.score ≤ Score.orderKey a.score := by
  simp [ranksBefore]

/-- Of two suggestions one ranks before the other, whatever their scores are. -/
theorem Suggestion.ranksBefore_total (a b : Suggestion) :
    (a.ranksBefore b || b.ranksBefore a) = true := by
  rw [Bool.or_eq_true, ranksBefore_iff, ranksBefore_iff]
  omega

/-- The ranks are an order. -/
theorem Suggestion.ranksBefore_trans (a b c : Suggestion) (first : a.ranksBefore b = true)
    (second : b.ranksBefore c = true) : a.ranksBefore c = true := by
  rw [ranksBefore_iff] at first second ⊢
  omega

/-- The cards that searches found, in the order of the searches. -/
def discoveries (plan : List PlannedSearch) (hits : List (List Card)) : List Discovery :=
  (plan.zip hits).flatMap fun (search, cards) => cards.map fun card => ⟨search, card⟩

/-- The best suggestions from what the searches of a plan found. -/
def rankSuggestions (source : Card) (weight : Float32) (maxResults : Nat)
    (found : List Discovery) : List Suggestion :=
  let distinct := distinctDiscoveries [source.normalizedName] found
  let suggestions := distinct.map fun d => d.suggestion source weight
  (suggestions.mergeSort Suggestion.ranksBefore).take
    (max minSuggestions (min maxResults maxSuggestions))

/-- A scorer: where cards come from, the rules, and settings that have been checked. -/
structure SynergyScorer (m : Type → Type) where
  /-- Source of the cards. -/
  source : CardSource m
  /-- The rules. -/
  rules : CompiledRules
  /-- The settings. -/
  config : ScorerConfig

namespace SynergyScorer

variable {m : Type → Type} [Monad m]

/-- The searches that a card calls for. -/
def plan (scorer : SynergyScorer m) (card : Card) (format : Option String) :
    List PlannedSearch :=
  scorer.rules.plan scorer.config card format

/-- Suggestions for a card. A number of suggestions out of range counts as the nearest one in
range. -/
def suggestFor (scorer : SynergyScorer m) (card : Card) (maxResults : Nat)
    (format : Option String) : m (List Suggestion) := do
  let plan := scorer.plan card format
  let hits ← plan.mapM fun search => scorer.source.search search.query
  return rankSuggestions card scorer.config.colorBonusWeight maxResults (discoveries plan hits)

/-- The card of a name, which has to exist. -/
def resolve [MonadExceptOf Failure m] (scorer : SynergyScorer m) (name : String) : m Card := do
  match ← scorer.source.resolve name with
  | some card => return card
  | none => throw (.cardNotFound name)

/-- Suggestions for the card of a name. -/
def suggest [MonadExceptOf Failure m] (scorer : SynergyScorer m) (name : String)
    (maxResults : Nat) (format : Option String) : m (List Suggestion) := do
  scorer.suggestFor (← scorer.resolve name) maxResults format

end SynergyScorer

end Deckwright
