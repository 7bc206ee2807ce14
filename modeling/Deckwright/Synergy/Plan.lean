import Deckwright.Pattern.TextPattern
import Deckwright.Settings
import Deckwright.Synergy.BuiltIn

/-!
# Search plans

Before any card is searched for, the searches that a source card calls for are listed in the
order of the passes: those of its keywords, two for each of its creature types, those of its
rules text and those of its card types. Every search asks only for cards that fit the colors of
the source card and are legal in the format asked for.
-/

namespace Deckwright

/-- A search, and how the cards it finds are scored. -/
structure PlannedSearch where
  /-- The pass it belongs to. -/
  pass : SynergyPass
  /-- Why the cards found are suggested. -/
  reason : String
  /-- Multiplier of their scores. -/
  multiplier : Float32
  /-- The search. -/
  query : CardQuery
  deriving Inhabited

/-- Kind of the cards that a search finds. -/
def PlannedSearch.synergyType (s : PlannedSearch) : SynergyType := s.pass.synergyType

/-- Limits that every search of a plan is given. -/
structure PlanScope where
  /-- Colors that the cards have to fit. -/
  colorIdentity : ColorIdentity
  /-- Format in which they have to be legal. -/
  format : Option String
  /-- Number of cards asked for. -/
  pageSize : Nat

namespace PlanScope

/-- A query within the limits. -/
def limit (scope : PlanScope) (q : CardQuery) : CardQuery :=
  { q with
    colorIdentity := some scope.colorIdentity
    format := scope.format
    pageSize := scope.pageSize }

/-- The search of a rule. -/
def ofRule (scope : PlanScope) (pass : SynergyPass) (rule : SearchRule) : PlannedSearch :=
  ⟨pass, rule.reason, 1, scope.limit (.oracleText rule.pattern)⟩

/-- The two searches of a creature type: for cards that mention it, and for cards of the type,
whose scores have a multiplier. -/
def ofSubtype (scope : PlanScope) (fellowMultiplier : Float32) (subtype : String) :
    List PlannedSearch := [
  ⟨.tribal, subtype ++ " tribal synergy", 1,
    scope.limit (.oracleText (Pattern.subtypeReference subtype))⟩,
  ⟨.tribal, "Fellow " ++ subtype, fellowMultiplier,
    scope.limit (.typeLine (Pattern.subtypeExact subtype))⟩]

end PlanScope

/-- The searches that a source card calls for. -/
def CompiledRules.plan (rules : CompiledRules) (config : ScorerConfig) (card : Card)
    (format : Option String) : List PlannedSearch :=
  let scope : PlanScope := ⟨card.colorIdentity, format, config.pageSize⟩
  let tribal :=
    if card.hasCreatureSubtypes then
      (card.subtypes.filter fun subtype => !rules.isDeniedSubtype subtype).flatMap
        (scope.ofSubtype config.fellowTribalMultiplier)
    else []
  (card.keywords.flatMap rules.keywordRules).map (scope.ofRule .keyword)
    ++ tribal
    ++ (rules.abilityRules card.oracleText).map (scope.ofRule .ability)
    ++ (card.types.flatMap rules.typeRules).map (scope.ofRule .type)

/-- Number of searches of a pass. -/
def countFor (plan : List PlannedSearch) (pass : SynergyPass) : Nat :=
  plan.countP fun search => search.pass == pass

end Deckwright
